import RolloutPlan.Proofs.FormReading
import RolloutPlan.Proofs.Sorted

/-!
# The entries that a structure is read from

A structure takes the entries of a mapping one by one: the key of an entry has to be accepted, and its
value goes to one of two records, those of the values that are read directly and of those that are read as
data. So the order of the entries does not matter, and neither does an entry that goes nowhere.

* `Form.accepts`, `Form.interprets`: what is asked of an entry.
* `Form.directPart?`, `Form.dataPart?`: what an entry adds to the two records.
* `Tree.record?_mapping`, `Tree.split?_mapping`, `Tree.action?_mapping`, `DataForm.record?_mapping`: the
  four ways of taking entries.
-/

namespace RolloutPlan

open Yaml

set_option autoImplicit false

/-! ## One entry -/

namespace Form

/-- Whether the value of a field is read directly. -/
def isDirect : Form → String → Bool
  | .tree f, key => f.isDirect || (f.directFields.lookup key).isSome
  | .data _, _ => false

/-- A structure that shares fields with others reads only those directly that are its own. -/
theorem isDirect_eq_contains {f : TreeForm} (hf : f.isDirect = false) (key : String) :
    (Form.tree f).isDirect key = (f.directFields.map (·.1)).contains key := by
  rw [isDirect, hf, Bool.false_or, Bool.eq_iff_iff, Sorted.isSome_lookup_iff, List.contains_iff_mem]

def accepts (f : Form) (e : Tree × Tree) : Bool :=
  (f.fieldName? e.1).any fun name => name.any f.isDirect || e.2.content?.isSome

/-- Whether an entry is data, where the whole mapping is read as data. -/
def interprets : Form → Tree × Tree → Bool
  | .tree _, _ => true
  | .data _, e => e.1.content?.isSome && e.2.content?.isSome

def directPart? (f : Form) (e : Tree × Tree) : Option (String × Tree) :=
  (f.fieldName? e.1).join.bind fun key => if f.isDirect key then some (key, e.2) else none

def dataPart? (f : Form) (e : Tree × Tree) : Option (String × Datum) :=
  (f.fieldName? e.1).join.bind fun key =>
    if f.isDirect key then none else e.2.content?.map (key, ·)

variable {f : Form} {e : Tree × Tree} {key : String}

theorem fieldName?_of_directPart? {r : String × Tree} (h : f.directPart? e = some r) :
    (f.fieldName? e.1).join = some r.1 := by
  obtain ⟨key, hkey, h⟩ := Option.bind_eq_some_iff.1 h
  obtain ⟨-, h⟩ := Option.ite_none_right_eq_some.1 h
  obtain rfl := Option.some.inj h
  exact hkey

theorem fieldName?_of_dataPart? {r : String × Datum} (h : f.dataPart? e = some r) :
    (f.fieldName? e.1).join = some r.1 := by
  obtain ⟨key, hkey, h⟩ := Option.bind_eq_some_iff.1 h
  obtain ⟨-, h⟩ := Option.ite_none_left_eq_some.1 h
  obtain ⟨d, -, rfl⟩ := Option.map_eq_some_iff.1 h
  exact hkey

theorem directPart?_of_fieldName? (h : f.fieldName? e.1 = some (some key)) :
    f.directPart? e = (if f.isDirect key then some e.2 else none).map (key, ·) := by
  rw [directPart?, h]
  change (if f.isDirect key then some (key, e.2) else none) = _
  split <;> rfl

theorem dataPart?_of_fieldName? (h : f.fieldName? e.1 = some (some key)) :
    f.dataPart? e = (if f.isDirect key then none else e.2.content?).map (key, ·) := by
  rw [dataPart?, h]
  change (if f.isDirect key then none else e.2.content?.map (key, ·)) = _
  split <;> rfl

theorem accepts_of_fieldName? (h : f.fieldName? e.1 = some (some key)) :
    f.accepts e = (f.isDirect key || e.2.content?.isSome) := by
  rw [accepts, h]
  rfl

end Form

/-! ## Ways of taking entries -/

theorem all_and {α : Type} (p q : α → Bool) (l : List α) :
    (l.all fun a => p a && q a) = (l.all p && l.all q) := by
  rw [Bool.eq_iff_iff]
  simp only [List.all_eq_true, Bool.and_eq_true, forall_and]

theorem all_filterMap {α β : Type} (g : α → Option β) (p : β → Bool) (l : List α) :
    (l.filterMap g).all p = l.all fun a => (g a).all p := by
  rw [List.all_filterMap]
  refine List.all_congr rfl fun a => ?_
  cases g a <;> rfl

namespace Yaml.Tree

/-- An entry of a record whose key is a text. -/
def namedPart? (e : Tree × Tree) : Option (String × Tree) := e.1.text?.bind fun k => some (k, e.2)

/-- An entry of a record whose value is read as data. -/
def interpretedPart? (e : String × Tree) : Option (String × Datum) :=
  e.2.content?.bind fun d => some (e.1, d)

theorem record?_mapping_eq (tag : Option String) (l : List (Tree × Tree)) :
    (Tree.mapping tag l).record? =
      if l.all fun e => (namedPart? e).isSome then some (l.filterMap namedPart?) else none :=
  mapM_eq_ite namedPart? l

variable {f : TreeForm}

theorem record?_mapping (hf : f.isDirect = true) (tag : Option String) (l : List (Tree × Tree)) :
    (Tree.mapping tag l).record? =
      if l.all (Form.tree f).accepts then some (l.filterMap (Form.tree f).directPart?) else none := by
  have hname (k : Tree) : (Form.tree f).fieldName? k = k.text?.map some := by
    cases f <;> first | rfl | cases hf
  have hdirect (key : String) : (Form.tree f).isDirect key = true := by
    simp [Form.isDirect, hf]
  have hentry (e : Tree × Tree) : namedPart? e = (Form.tree f).directPart? e := by
    cases htext : e.1.text? <;> simp [namedPart?, Form.directPart?, hname, htext, hdirect]
  have haccepts (e : Tree × Tree) : (namedPart? e).isSome = (Form.tree f).accepts e := by
    cases htext : e.1.text? <;> simp [namedPart?, Form.accepts, hname, htext, hdirect]
  rw [record?_mapping_eq, funext haccepts, funext hentry]

section Split

variable {own : List String} (hname : ∀ k, (Form.tree f).fieldName? k = k.text?.map some)
  (hdirect : ∀ key, (Form.tree f).isDirect key = own.contains key)
include hname hdirect

/-- What is done with an entry of a structure that shares fields: its own fields are kept, and all others
become data. -/
theorem split_entry (e : Tree × Tree) :
    (Form.tree f).directPart? e = (namedPart? e).filter (fun e => own.contains e.1) ∧
      (Form.tree f).dataPart? e =
        ((namedPart? e).filter fun e => !own.contains e.1).bind interpretedPart? ∧
      (Form.tree f).accepts e = ((namedPart? e).isSome &&
        ((namedPart? e).filter fun e => !own.contains e.1).all fun e =>
          (interpretedPart? e).isSome) := by
  cases htext : e.1.text? with
  | none => simp [namedPart?, Form.directPart?, Form.dataPart?, Form.accepts, hname, htext]
  | some key =>
    by_cases hkey : key ∈ own <;> cases hvalue : e.2.content? <;>
      simp [namedPart?, interpretedPart?, Form.directPart?, Form.dataPart?, Form.accepts,
        Option.filter, hname, htext, hdirect, hkey, hvalue]

theorem split?_mapping (tag : Option String) (l : List (Tree × Tree)) :
    (Tree.mapping tag l).split? own =
      if l.all (Form.tree f).accepts then
        some (l.filterMap (Form.tree f).directPart?, l.filterMap (Form.tree f).dataPart?)
      else none := by
  have hread : (Tree.mapping tag l).split? own = (Tree.mapping tag l).record?.bind fun r =>
      ((r.filter fun e => !own.contains e.1).mapM interpretedPart?).bind fun rest =>
        some (r.filter fun e => own.contains e.1, rest) := rfl
  rw [hread, record?_mapping_eq, funext fun e => (split_entry hname hdirect e).1,
    funext fun e => (split_entry hname hdirect e).2.1,
    funext fun e => (split_entry hname hdirect e).2.2, all_and]
  cases l.all fun e => (namedPart? e).isSome with
  | false => rfl
  | true =>
    rw [if_pos rfl, Option.bind_some, Bool.true_and, mapM_eq_ite, List.filter_filterMap,
      List.filter_filterMap, all_filterMap, List.filterMap_filterMap]
    split <;> rfl

end Split

end Yaml.Tree

/-! ## Keys of data -/

namespace Yaml.Datum

/-- An entry of data under the name of the field that its key names. -/
def namedPart? (names : List String) (e : Datum × Datum) : Option (String × Datum) :=
  (e.1.fieldName? names).join.map (·, e.2)

theorem named?_cons (names : List String) (k v : Datum) (l : List (Datum × Datum)) :
    named? names ((k, v) :: l) = (k.fieldName? names).bind fun name =>
      (named? names l).map fun r => (name.map (·, v)).toList ++ r := by
  cases k with
  | string s => rfl
  | integer n =>
    rw [named?, fieldName?]
    split <;> rfl
  | _ => rfl

theorem named?_eq (names : List String) (l : List (Datum × Datum)) : named? names l =
    if l.all fun e => (e.1.fieldName? names).isSome then some (l.filterMap (namedPart? names))
    else none := by
  induction l with
  | nil => rfl
  | cons e l ih =>
    rw [named?_cons, ih, List.all_cons, List.filterMap_cons, namedPart?]
    cases e.1.fieldName? names with
    | none => rfl
    | some name =>
      rw [Option.bind_some, Option.isSome_some, Bool.true_and, Option.join_some]
      cases name <;> cases l.all fun e => (e.1.fieldName? names).isSome <;> rfl

theorem keyed?_eq_named? (l : List (Datum × Datum)) : keyed? l = named? [] l := by
  induction l with
  | nil => rfl
  | cons e l ih =>
    obtain ⟨k, v⟩ := e
    cases k with
    | string s => rw [keyed?, named?, ih]
    | integer n =>
      rw [keyed?, named?, ih]
      cases named? [] l <;> simp
    | _ => rfl

theorem join_fieldName? (d : Datum) : (d.fieldName? []).join = d.text? := by
  cases d with
  | integer n =>
    rw [fieldName?]
    split <;> rfl
  | _ => rfl

end Yaml.Datum

/-! ## Steps -/

namespace Yaml.Tree

/-- An entry whose key is read as data. -/
def keyedPart? (e : Tree × Tree) : Option (Datum × Tree) := e.1.content?.bind fun k => some (k, e.2)

def pairedPart? (e : Datum × Tree) : Option (Datum × Datum) := e.2.content?.bind fun d => some (e.1, d)

def isAction (e : Datum × Tree) : Bool := e.1.text? = some "action"

theorem required_action (l : List (Datum × Tree)) :
    Record.required (l.map fun e => ("action", e.2)) "action" Tree.text? =
      match l with
      | [(_, v)] => v.text?
      | _ => none := by
  match l with
  | [] => rfl
  | [e] => rfl
  | e :: e' :: l => simp [Record.required, Record.entry?]

variable {f : TreeForm} (hname : ∀ k, (Form.tree f).fieldName? k = k.content?.bind (Datum.fieldName? []))
  (hdirect : ∀ key, (Form.tree f).isDirect key = decide (key = "action"))
include hname hdirect

/-- What is done with an entry of a step: the kind of the step is kept, and all others become data. -/
theorem step_entry (e : Tree × Tree) :
    (Form.tree f).directPart? e =
        ((keyedPart? e).filter isAction).map (fun e => ("action", e.2)) ∧
      (Form.tree f).dataPart? e = ((keyedPart? e).filter (!isAction ·)).bind
        (fun e => (pairedPart? e).bind (Datum.namedPart? [])) ∧
      (Form.tree f).accepts e = ((keyedPart? e).isSome &&
        ((((keyedPart? e).filter (!isAction ·)).all fun e => (pairedPart? e).isSome) &&
          (((keyedPart? e).filter (!isAction ·)).bind pairedPart?).all fun e =>
            (e.1.fieldName? []).isSome)) := by
  cases hkey : e.1.content? with
  | none => simp [Form.directPart?, Form.dataPart?, Form.accepts, keyedPart?, hname, hkey]
  | some d =>
    have htext := Datum.join_fieldName? d
    cases hfield : d.fieldName? [] with
    | none =>
      rw [hfield, Option.join_none] at htext
      cases hvalue : e.2.content? <;>
        simp [Form.directPart?, Form.dataPart?, Form.accepts, keyedPart?, isAction, pairedPart?,
          Datum.namedPart?, Option.filter, hname, hkey, hfield, ← htext, hvalue]
    | some name =>
      rw [hfield, Option.join_some] at htext
      have haction : isAction (d, e.2) = decide (name = some "action") := by rw [isAction, htext]
      cases name with
      | none =>
        cases hvalue : e.2.content? <;>
          simp [Form.directPart?, Form.dataPart?, Form.accepts, keyedPart?, haction, pairedPart?,
            Datum.namedPart?, Option.filter, hname, hkey, hfield, hvalue]
      | some key =>
        cases hvalue : e.2.content? <;> by_cases hs : key = "action" <;>
          simp [Form.directPart?, Form.dataPart?, Form.accepts, keyedPart?, haction, pairedPart?,
            Datum.namedPart?, Option.filter, hname, hdirect, hkey, hfield, hvalue, hs]

theorem directParts_step (l : List (Tree × Tree)) : l.filterMap (Form.tree f).directPart? =
    ((l.filterMap keyedPart?).filter isAction).map fun e => ("action", e.2) := by
  rw [List.filter_filterMap, List.map_filterMap, funext fun e => (step_entry hname hdirect e).1]

theorem dataParts_step (l : List (Tree × Tree)) : l.filterMap (Form.tree f).dataPart? =
    (((l.filterMap keyedPart?).filter (!isAction ·)).filterMap pairedPart?).filterMap
      (Datum.namedPart? []) := by
  rw [List.filter_filterMap, List.filterMap_filterMap, List.filterMap_filterMap,
    funext fun e => (step_entry hname hdirect e).2.1]

theorem all_accepts_step (l : List (Tree × Tree)) : l.all (Form.tree f).accepts =
    ((l.all fun e => (keyedPart? e).isSome) &&
      ((((l.filterMap keyedPart?).filter (!isAction ·)).all fun e => (pairedPart? e).isSome) &&
        (((l.filterMap keyedPart?).filter (!isAction ·)).filterMap pairedPart?).all fun e =>
          (e.1.fieldName? []).isSome)) := by
  rw [List.filter_filterMap, List.filterMap_filterMap, all_filterMap, all_filterMap,
    funext fun e => (step_entry hname hdirect e).2.2, all_and, all_and]

/-- A step of which the kind can be read has one key that tells it. -/
theorem actionsOf_eq_singleton {l : List (Tree × Tree)} {action : String}
    (h : Record.required (l.filterMap (Form.tree f).directPart?) "action" Tree.text? =
      some action) : actionsOf l = [action] := by
  have hactions : actionsOf l =
      ((l.filterMap keyedPart?).filter isAction).filterMap fun e => e.2.text? := by
    rw [List.filter_filterMap, List.filterMap_filterMap, actionsOf]
    congr 1
    funext e
    cases hkey : e.1.content? with
    | none => simp [keyedPart?, isActionKey, hkey]
    | some k =>
      by_cases hk : k.text? = some "action" <;>
        simp [keyedPart?, isActionKey, isAction, hkey, hk, Option.filter]
  rw [directParts_step hname hdirect, required_action] at h
  rw [hactions]
  generalize (l.filterMap keyedPart?).filter isAction = actions at h ⊢
  match actions, h with
  | [(_, v)], h => simp [show v.text? = some action from h]

theorem action?_mapping (tag : Option String) (l : List (Tree × Tree)) :
    (Tree.mapping tag l).action? = if (localTag? tag).isSome then none
      else if l.all (Form.tree f).accepts then
        (Record.required (l.filterMap (Form.tree f).directPart?) "action" Tree.text?).map
          (·, l.filterMap (Form.tree f).dataPart?)
      else none := by
  have hread : (Tree.mapping tag l).action? = if (localTag? tag).isSome then none
      else (l.mapM keyedPart?).bind fun keyed =>
        match keyed.filter isAction with
        | [(_, v)] => ((keyed.filter (!isAction ·)).mapM pairedPart?).bind fun rest =>
          v.text?.bind fun action => (Datum.keyed? rest).bind fun r => some (action, r)
        | _ => none := rfl
  rw [hread, directParts_step hname hdirect, dataParts_step hname hdirect,
    all_accepts_step hname hdirect, required_action, mapM_eq_ite]
  split
  · rfl
  cases l.all fun e => (keyedPart? e).isSome with
  | false => rfl
  | true =>
    rw [if_pos rfl, Option.bind_some, Bool.true_and]
    generalize (l.filterMap keyedPart?).filter isAction = actions
    generalize (l.filterMap keyedPart?).filter (!isAction ·) = others
    -- It matters how many keys tell the kind: anything but one is refused on both sides.
    match actions with
    | [(_, v)] =>
      simp only [mapM_eq_ite, Datum.keyed?_eq_named?, Datum.named?_eq]
      cases others.all fun e => (pairedPart? e).isSome with
      | false => rfl
      | true =>
        rw [if_pos rfl, Option.bind_some, Bool.true_and]
        cases (others.filterMap pairedPart?).all fun e => (e.1.fieldName? []).isSome <;>
          cases v.text? <;> rfl
    | [] => simp
    | _ :: _ :: _ => simp

end Yaml.Tree

/-! ## Data -/

namespace Yaml

def contentPart? (e : Tree × Tree) : Option (Datum × Datum) :=
  e.1.content?.bind fun k => e.2.content?.map (k, ·)

theorem untagged_datumItems? (l : List Tree) :
    ((datumItems? l).bind fun ds => if Datum.untaggedItems ds then some ds else none) =
      l.mapM Tree.content? := by
  induction l with
  | nil => rfl
  | cons t l ih =>
    rw [List.mapM_cons, ← ih, datumItems?, Tree.content?]
    cases t.datum? with
    | none => rfl
    | some d =>
      cases datumItems? l with
      | none => cases hd : d.untagged <;> simp [hd]
      | some ds => cases hd : d.untagged <;> cases hds : Datum.untaggedItems ds <;>
        simp [Datum.untaggedItems, hd, hds]

theorem untagged_datumEntries? (l : List (Tree × Tree)) :
    ((datumEntries? l).bind fun ds => if Datum.untaggedEntries ds then some ds else none) =
      l.mapM contentPart? := by
  induction l with
  | nil => rfl
  | cons e l ih =>
    rw [List.mapM_cons, ← ih, datumEntries?, contentPart?, Tree.content?, Tree.content?]
    cases e.1.datum? with
    | none => rfl
    | some k =>
      cases e.2.datum? with
      | none => cases hk : k.untagged <;> simp [hk]
      | some v =>
        cases datumEntries? l with
        | none => cases hk : k.untagged <;> cases hv : v.untagged <;> simp [hk, hv]
        | some ds =>
          cases hk : k.untagged <;> cases hv : v.untagged <;>
            cases hds : Datum.untaggedEntries ds <;> simp [Datum.untaggedEntries, hk, hv, hds]

theorem Tree.content?_sequence (tag : Option String) (l : List Tree) :
    (Tree.sequence tag l).content? =
      if (localTag? tag).isSome then none else (l.mapM Tree.content?).map .list := by
  rw [← untagged_datumItems?, Tree.content?, Tree.datum?]
  cases datumItems? l with
  | none => simp
  | some ds =>
    cases htag : localTag? tag <;> cases hds : Datum.untaggedItems ds <;>
      simp [underTag, Datum.untagged, htag, hds]

theorem Tree.content?_mapping (tag : Option String) (l : List (Tree × Tree)) :
    (Tree.mapping tag l).content? =
      if (localTag? tag).isSome then none else (l.mapM contentPart?).map .mapping := by
  rw [← untagged_datumEntries?, Tree.content?, Tree.datum?]
  cases datumEntries? l with
  | none => simp
  | some ds =>
    cases htag : localTag? tag <;> cases hds : Datum.untaggedEntries ds <;>
      simp [underTag, Datum.untagged, htag, hds]

end Yaml

theorem DataForm.record?_mapping (f : DataForm) {l : List (Tree × Tree)}
    (h : l.all (Form.data f).interprets = true) :
    f.record? (.mapping (l.filterMap contentPart?)) =
      if l.all (Form.data f).accepts then some (l.filterMap (Form.data f).dataPart?) else none := by
  have hentry (e : Tree × Tree) :
      (Form.data f).dataPart? e = (contentPart? e).bind (Datum.namedPart? f.positions) ∧
        (Form.data f).accepts e = ((Form.data f).interprets e &&
          (contentPart? e).all fun e => (e.1.fieldName? f.positions).isSome) := by
    cases hkey : e.1.content? with
    | none =>
      simp [Form.dataPart?, Form.accepts, Form.interprets, contentPart?, Form.fieldName?, hkey]
    | some k =>
      cases hname : k.fieldName? f.positions with
      | none =>
        cases hvalue : e.2.content? <;>
          simp [Form.dataPart?, Form.accepts, Form.interprets, contentPart?, Datum.namedPart?,
            Form.fieldName?, hkey, hname, hvalue]
      | some name =>
        cases name <;> cases hvalue : e.2.content? <;>
          simp [Form.dataPart?, Form.accepts, Form.interprets, contentPart?, Datum.namedPart?,
            Form.fieldName?, Form.isDirect, hkey, hname, hvalue]
  have hread (l : List (Datum × Datum)) : f.record? (.mapping l) = Datum.named? f.positions l := by
    cases f with
    | input => exact Datum.keyed?_eq_named? l
    | namedValue => exact Datum.keyed?_eq_named? l
    | _ => rfl
  rw [hread, Datum.named?_eq, all_filterMap, List.filterMap_filterMap,
    funext fun e => (hentry e).1, funext fun e => (hentry e).2, all_and, h, Bool.true_and]

end RolloutPlan
