import RolloutPlan.Proofs.FormEntries
import RolloutPlan.Proofs.WrittenRecord

/-!
# Rearranged documents

Neither the order of the keys of a structure nor a key that nobody knows makes a difference to what is
read. In data this holds of keys that are strings, or numbers from zero on that are no position of a field:
any other key is refused there.

* `Shape.Agree`: trees that look the same to the structure around them.
* `Interchangeable`: entries that a structure takes alike. `Interchangeable.of_perm`,
  `Interchangeable.extra`, `Interchangeable.field`: the three ways in which entries may differ.
* `agree_mapping`, `agree_place`, `agree_item`: structures and lists that are written with such parts.
* `Rearranged.agree`: rearranged trees look the same.
* `Rearranged.ofTree?_limited_eq`: rearranged documents are read alike. `refused_keys`: keys that are not
  passed over.
-/

namespace RolloutPlan

open Yaml

set_option autoImplicit false

/-! ## Nesting -/

namespace Yaml

variable {α : Type}

theorem limitedItems_eq_map (n : Nat) (l : List Tree) :
    limitedItems n l = l.map (Tree.limited n) := by
  induction l with
  | nil => rfl
  | cons t l ih => rw [limitedItems, List.map_cons, ih]

def limitEntry (n : Nat) (e : Tree × Tree) : Tree × Tree := (e.1.limited n, e.2.limited n)

theorem limitedEntries_eq_map (n : Nat) (l : List (Tree × Tree)) :
    limitedEntries n l = l.map (limitEntry n) := by
  induction l with
  | nil => rfl
  | cons e l ih => rw [limitedEntries, List.map_cons, ih, limitEntry]

namespace Tree

@[simp] theorem text?_limited (n : Nat) (t : Tree) : (t.limited n).text? = t.text? := by
  cases n <;> cases t <;> rfl

/-- A limit makes no difference to what is asked of scalars only. -/
theorem content?_bind_limited {g : Datum → Option α} (hlist : ∀ l, g (.list l) = none)
    (hmapping : ∀ l, g (.mapping l) = none) (n : Nat) (t : Tree) :
    (t.limited n).content?.bind g = t.content?.bind g := by
  have hsequence (tag : Option String) (l : List Tree) :
      (Tree.sequence tag l).content?.bind g = none := by
    rw [content?_sequence]
    split
    · rfl
    · cases l.mapM Tree.content? <;> simp [hlist]
  have hentries (tag : Option String) (l : List (Tree × Tree)) :
      (Tree.mapping tag l).content?.bind g = none := by
    rw [content?_mapping]
    split
    · rfl
    · cases l.mapM contentPart? <;> simp [hmapping]
  cases t with
  | scalar s => cases n <;> rfl
  | sequence tag l =>
    rw [hsequence]
    cases n with
    | zero => rfl
    | succ n => exact hsequence tag _
  | mapping tag l =>
    rw [hentries]
    cases n with
    | zero => rfl
    | succ n => exact hentries tag _
  | unreadable => cases n <;> rfl

end Tree

end Yaml

@[simp] theorem Form.fieldName?_limited (f : Form) (n : Nat) (k : Tree) :
    f.fieldName? (k.limited n) = f.fieldName? k := by
  have hdata (positions : List String) : (k.limited n).content?.bind (Datum.fieldName? positions) =
      k.content?.bind (Datum.fieldName? positions) :=
    Tree.content?_bind_limited (fun _ => rfl) (fun _ => rfl) n k
  cases f with
  | data f => exact hdata f.positions
  | tree f =>
    cases f with
    | step => exact hdata []
    | validationStep => exact hdata []
    | _ => exact congrArg (Option.map some) (Tree.text?_limited n k)

@[simp] theorem actionsOf_limited (n : Nat) (l : List (Tree × Tree)) :
    actionsOf (l.map (limitEntry n)) = actionsOf l := by
  have hkey (k : Tree) : isActionKey (k.limited n) = isActionKey k := by
    rw [isActionKey, isActionKey, Tree.content?_bind_limited (fun _ => rfl) (fun _ => rfl)]
  rw [actionsOf, actionsOf, List.filterMap_map]
  congr 1
  funext e
  simp only [Function.comp_apply, limitEntry, hkey, Tree.text?_limited]

@[simp] theorem Form.dataFields_limited (f : Form) (n : Nat) (l : List (Tree × Tree)) :
    f.dataFields (l.map (limitEntry n)) = f.dataFields l := by
  cases f with
  | data f => rfl
  | tree f =>
    cases f with
    | step =>
      have hactions := actionsOf_limited n l
      simp only [dataFields, TreeForm.dataFields, hactions]
    | _ => rfl

@[simp] theorem Form.fields_limited (f : Form) (n : Nat) (l : List (Tree × Tree)) :
    f.fields (l.map (limitEntry n)) = f.fields l := by
  rw [fields, fields, dataFields_limited]

theorem Form.PassesOver.limited {f : Form} {l : List (Tree × Tree)} {k : Tree}
    (h : f.PassesOver l k) (n : Nat) : f.PassesOver (l.map (limitEntry n)) (k.limited n) := by
  rw [PassesOver, Form.fieldName?_limited, Form.fields_limited]
  exact h

theorem Form.lookup_fields (f : Form) (l : List (Tree × Tree)) (key : String) :
    (f.fields l).lookup key = ((f.directFields.lookup key).map (Shape.map .tree)).or
      (((f.dataFields l).lookup key).map (Shape.map .data)) := by
  rw [fields, List.lookup_append, lookup_map_snd, lookup_map_snd]

/-! ## Trees that look the same -/

namespace Shape

/-- Trees that look the same to a structure that has one of them for a field. -/
def Agree : Shape Form → Tree → Tree → Prop
  | .leaf, t, t' => t = t'
  | .one (.tree f), t, t' => (one f).viewTree t = (one f).viewTree t'
  | .many (.tree f), t, t' => (many f).viewTree t = (many f).viewTree t'
  | .one (.data f), t, t' => t.content?.map (one f).viewDatum = t'.content?.map (one f).viewDatum
  | .many (.data f), t, t' => t.content?.map (many f).viewDatum = t'.content?.map (many f).viewDatum

variable {t t' t'' : Tree}

theorem Agree.symm {s : Shape Form} (h : s.Agree t t') : s.Agree t' t :=
  match s, h with
  | .leaf, h => Eq.symm h
  | .one (.tree _), h => Eq.symm h
  | .many (.tree _), h => Eq.symm h
  | .one (.data _), h => Eq.symm h
  | .many (.data _), h => Eq.symm h

theorem Agree.trans {s : Shape Form} (h : s.Agree t t') (h' : s.Agree t' t'') : s.Agree t t'' :=
  match s, h, h' with
  | .leaf, h, h' => Eq.trans h h'
  | .one (.tree _), h, h' => Eq.trans h h'
  | .many (.tree _), h, h' => Eq.trans h h'
  | .one (.data _), h, h' => Eq.trans h h'
  | .many (.data _), h, h' => Eq.trans h h'

theorem viewTree_eq {s : Shape TreeForm} (h : (s.map Form.tree).Agree t t') :
    s.viewTree t = s.viewTree t' := by
  cases s with
  | leaf => exact h
  | one f => exact h
  | many f => exact h

theorem viewDatum_eq {s : Shape DataForm} (h : (s.map Form.data).Agree t t') :
    t.content?.map s.viewDatum = t'.content?.map s.viewDatum := by
  cases s with
  | leaf => exact congrArg (fun t => Option.map (Shape.viewDatum .leaf) (Tree.content? t)) h
  | one f => exact h
  | many f => exact h

end Shape

/-! ## Entries that a structure takes alike -/

/-- Entries that are refused by a structure or not as a whole, and that show the same at its fields. -/
structure Interchangeable (f : Form) (l l' : List (Tree × Tree)) : Prop where
  accepts : l.all f.accepts = l'.all f.accepts
  interprets : l.all f.interprets = l'.all f.interprets
  direct : Record.Alike Shape.viewTree f.directFields (l.filterMap f.directPart?)
    (l'.filterMap f.directPart?)
  data : Record.Alike Shape.viewDatum (f.dataFields l) (l.filterMap f.dataPart?)
    (l'.filterMap f.dataPart?)

theorem Form.isDirect_of_lookup {f : Form} {key : String} {s : Shape TreeForm}
    (hs : f.directFields.lookup key = some s) : f.isDirect key = true := by
  cases f with
  | tree f =>
    have hs : f.directFields.lookup key = some s := hs
    simp [isDirect, hs]
  | data f => cases hs

namespace Interchangeable

variable {f : Form} {l l' : List (Tree × Tree)} {k v v' : Tree}

theorem of_perm (h : l.Perm l') : Interchangeable f l l' where
  accepts := h.all_eq
  interprets := h.all_eq
  direct := .of_perm (h.filterMap _)
  data := .of_perm (h.filterMap _)

theorem extra (hkey : f.PassesOver l k) (hvalue : v.content?.isSome) :
    Interchangeable f l ((k, v) :: l) := by
  obtain ⟨name, hname, hunknown⟩ := hkey
  have hlookup {key : String} (hkey : (f.fieldName? k).join = some key) :
      f.directFields.lookup key = none ∧ (f.dataFields l).lookup key = none := by
    rw [hname, Option.join_some] at hkey
    have hnone := hunknown key hkey
    rw [Form.lookup_fields, Option.or_eq_none_iff] at hnone
    exact ⟨Option.map_eq_none_iff.1 hnone.1, Option.map_eq_none_iff.1 hnone.2⟩
  refine ⟨?_, ?_, ?_, ?_⟩
  · have haccepts : f.accepts (k, v) = true := by simp [Form.accepts, hname, hvalue]
    rw [List.all_cons, haccepts, Bool.true_and]
  · have hinterprets : f.interprets (k, v) = true := by
      cases f with
      | tree f => rfl
      | data f =>
        obtain ⟨d, hd, -⟩ := Option.bind_eq_some_iff.1 hname
        simp [Form.interprets, hd, hvalue]
    rw [List.all_cons, hinterprets, Bool.true_and]
  · refine .filterMap_cons_unknown (fun e he => ?_) l
    exact (hlookup (Form.fieldName?_of_directPart? he)).1
  · refine .filterMap_cons_unknown (fun e he => ?_) l
    exact (hlookup (Form.fieldName?_of_dataPart? he)).2

theorem field {key : String} {s : Shape Form} (hkey : f.fieldName? k = some (some key))
    (hfield : (f.fields ((k, v) :: l)).lookup key = some s) (h : s.Agree v v') :
    Interchangeable f ((k, v) :: l) ((k, v') :: l) := by
  rw [Form.lookup_fields] at hfield
  -- The table of the fields that are read directly comes first, so only other fields count as data.
  have hdata (hnot : f.isDirect key = false) : ∃ s, (f.dataFields ((k, v) :: l)).lookup key = some s ∧
      v.content?.map s.viewDatum = v'.content?.map s.viewDatum := by
    cases hs : f.directFields.lookup key with
    | some s =>
      rw [Form.isDirect_of_lookup hs] at hnot
      cases hnot
    | none =>
      rw [hs, Option.map_none, Option.none_or] at hfield
      obtain ⟨s, hs, rfl⟩ := Option.map_eq_some_iff.1 hfield
      exact ⟨s, hs, Shape.viewDatum_eq h⟩
  have hsome (hnot : f.isDirect key = false) : v.content?.isSome = v'.content?.isSome := by
    obtain ⟨s, -, hview⟩ := hdata hnot
    rw [← Option.isSome_map (f := s.viewDatum), hview, Option.isSome_map]
  refine ⟨?_, ?_, ?_, ?_⟩
  · rw [List.all_cons, List.all_cons, Form.accepts_of_fieldName? hkey,
      Form.accepts_of_fieldName? hkey]
    cases hdirect : f.isDirect key with
    | true => rfl
    | false => rw [hsome hdirect]
  · cases f with
    | tree f => rfl
    | data f => simp only [List.all_cons, Form.interprets, hsome rfl]
  · refine .filterMap_cons_congr (Form.directPart?_of_fieldName? hkey)
      (Form.directPart?_of_fieldName? hkey) (fun s' hs => ?_) l
    rw [hs, Option.map_some, Option.some_or] at hfield
    obtain rfl := Option.some.inj hfield
    have hview := Shape.viewTree_eq h
    split
    · exact congrArg some hview
    · rfl
  · refine .filterMap_cons_congr (Form.dataPart?_of_fieldName? hkey)
      (Form.dataPart?_of_fieldName? hkey) (fun s' hs' => ?_) l
    cases hdirect : f.isDirect key with
    | true => rfl
    | false =>
      obtain ⟨s, hs, hview⟩ := hdata hdirect
      rw [hs] at hs'
      obtain rfl := Option.some.inj hs'
      exact hview

end Interchangeable

/-! ## Structures that are written as mappings -/

section Mappings

variable {tag : Option String} {l l' : List (Tree × Tree)}

theorem DataForm.content?_mapping_congr {f : DataForm} (h : Interchangeable (.data f) l l') :
    (Tree.mapping tag l).content?.map (Shape.one f).viewDatum =
      (Tree.mapping tag l').content?.map (Shape.one f).viewDatum := by
  have hpairs (l : List (Tree × Tree)) :
      (l.all fun e => (contentPart? e).isSome) = l.all (Form.data f).interprets := by
    refine List.all_congr rfl fun e => ?_
    cases hkey : e.1.content? <;> simp [contentPart?, Form.interprets, hkey]
  rw [Tree.content?_mapping, Tree.content?_mapping, mapM_eq_ite, mapM_eq_ite, hpairs, hpairs,
    ← h.interprets]
  split
  · rfl
  split
  · rename_i hl
    have hread : f.ofDatum? (.mapping (l.filterMap contentPart?)) =
        f.ofDatum? (.mapping (l'.filterMap contentPart?)) := by
      apply f.ofDatum?_congr
      rw [f.record?_mapping hl, f.record?_mapping (h.interprets ▸ hl), ← h.accepts]
      split
      · exact .some h.data
      · exact .none
    exact congrArg (fun o => some (o, some <$> o)) hread
  · rfl

variable {f : TreeForm}

theorem record?_mapping_congr (hf : f.isDirect = true) (h : Interchangeable (.tree f) l l') :
    Option.Rel (Record.Alike Shape.viewTree f.directFields) (Tree.mapping tag l).record?
      (Tree.mapping tag l').record? := by
  rw [Tree.record?_mapping hf, Tree.record?_mapping hf, ← h.accepts]
  split
  · exact .some h.direct
  · exact .none

theorem split?_mapping_congr (hname : ∀ k, (Form.tree f).fieldName? k = k.text?.map some)
    (hf : f.isDirect = false) (h : Interchangeable (.tree f) l l') :
    Option.Rel (SplitAlike f l) ((Tree.mapping tag l).split? (f.directFields.map (·.1)))
      ((Tree.mapping tag l').split? (f.directFields.map (·.1))) := by
  have hdirect := Form.isDirect_eq_contains hf
  rw [Tree.split?_mapping hname hdirect, Tree.split?_mapping hname hdirect, ← h.accepts]
  split
  · exact .some ⟨h.direct, h.data⟩
  · exact .none

section Steps

variable (hname : ∀ k, (Form.tree f).fieldName? k = k.content?.bind (Datum.fieldName? []))
  (hdirect : f.directFields = [("action", .leaf)]) (hf : f.isDirect = false)
include hname hdirect hf

theorem action?_mapping_congr {table : String → FieldTable DataForm}
    (htable : ∀ action, actionsOf l = [action] →
      f.dataFields l = StepHeader.fields ++ table action)
    (h : Interchangeable (.tree f) l l') :
    Option.Rel (StepAlike table) (Tree.mapping tag l).action? (Tree.mapping tag l').action? := by
  have hdirect' (key : String) : (Form.tree f).isDirect key = decide (key = "action") := by
    rw [Form.isDirect_eq_contains hf, hdirect]
    simp
  have haction : Record.required (l.filterMap (Form.tree f).directPart?) "action" Tree.text? =
      Record.required (l'.filterMap (Form.tree f).directPart?) "action" Tree.text? := by
    have hleaf : f.directFields.lookup "action" = some .leaf := by
      rw [hdirect]
      rfl
    exact h.direct.tree_required hleaf _
  rw [Tree.action?_mapping hname hdirect', Tree.action?_mapping hname hdirect', ← h.accepts,
    ← haction]
  split
  · exact .none
  split
  · cases hread : Record.required (l.filterMap (Form.tree f).directPart?) "action" Tree.text? with
    | none => exact .none
    | some action =>
      have hdata := h.data
      rw [Form.dataFields, htable action (Tree.actionsOf_eq_singleton hname hdirect' hread)] at hdata
      exact .some ⟨rfl, hdata⟩
  · exact .none

end Steps

theorem TreeForm.ofTree?_mapping_congr (h : Interchangeable (.tree f) l l') (depth : Nat) :
    f.ofTree? depth (.mapping tag l) = f.ofTree? depth (.mapping tag l') := by
  cases hf : f.isDirect with
  | true => exact TreeForm.ofTree?_congr hf (record?_mapping_congr hf h) depth
  | false =>
    cases f with
    | resourceGroup => exact ResourceGroup.ofTree?_congr (split?_mapping_congr (fun _ => rfl) hf h)
    | input => exact Input.ofTree?_congr (split?_mapping_congr (fun _ => rfl) hf h)
    | step =>
      refine Step.ofTree?_congr (action?_mapping_congr (fun _ => rfl) rfl hf (fun action hl => ?_) h)
      simp [TreeForm.dataFields, hl]
    | validationStep =>
      exact ValidationStep.ofTree?_congr
        (action?_mapping_congr (fun _ => rfl) rfl hf (fun _ _ => rfl) h)
    | _ => cases hf

theorem agree_mapping {f : Form} (h : Interchangeable f l l') :
    (Shape.one f).Agree (.mapping tag l) (.mapping tag l') := by
  cases f with
  | data f => exact DataForm.content?_mapping_congr h
  | tree f =>
    funext depth
    have hread : f.ofTree? depth (.mapping tag l) = f.ofTree? depth (.mapping tag l') :=
      TreeForm.ofTree?_mapping_congr h depth
    exact congrArg (fun o => (o, some <$> o)) hread

end Mappings

/-! ## Structures and lists that are written as sequences -/

theorem DataForm.record?_list {f : DataForm} {i : Nat} {key : String} (hkey : f.positions[i]? = some key)
    (items : List Datum) : f.record? (.list items) =
      if items.length ≤ f.positions.length then some (f.positions.zip items) else none := by
  cases f with
  | input => cases hkey
  | namedValue => cases hkey
  | _ => rfl

theorem agree_place {f : Form} {tag : Option String} {l₁ l₂ : List Tree} {v v' : Tree}
    {key : String} {s : Shape Form} (hkey : f.place? l₁.length = some key)
    (hfield : (f.fields []).lookup key = some s) (h : s.Agree v v') :
    (Shape.one f).Agree (.sequence tag (l₁ ++ v :: l₂)) (.sequence tag (l₁ ++ v' :: l₂)) := by
  cases f with
  | tree f => cases hkey
  | data f =>
    rw [Form.lookup_fields] at hfield
    obtain ⟨s, hs, rfl⟩ := Option.map_eq_some_iff.1 hfield
    have hs : f.fields.lookup key = some s := hs
    change Option.map _ _ = Option.map _ _
    rw [Tree.content?_sequence, Tree.content?_sequence]
    split
    · rfl
    rw [Option.map_map, Option.map_map]
    refine map_mapM_append_cons (Shape.viewDatum_eq h) (fun d d' r₁ r₂ hd hlength => ?_) l₂
    have hkey : f.positions[r₁.length]? = some key := by rwa [hlength]
    have hread : f.ofDatum? (.list (r₁ ++ d :: r₂)) = f.ofDatum? (.list (r₁ ++ d' :: r₂)) := by
      apply f.ofDatum?_congr
      rw [DataForm.record?_list hkey, DataForm.record?_list hkey, zip_append_cons hkey,
        zip_append_cons hkey, List.length_append, List.length_append, List.length_cons,
        List.length_cons]
      split
      · refine .some (.append_cons_congr _ _ fun s' hs' => ?_)
        rw [hs] at hs'
        cases hs'
        exact hd
      · exact .none
    exact congrArg (fun o => (o, some <$> o)) hread

theorem agree_item {f : Form} {tag : Option String} {l₁ l₂ : List Tree} {t t' : Tree}
    (h : (Shape.one f).Agree t t') :
    (Shape.many f).Agree (.sequence tag (l₁ ++ t :: l₂)) (.sequence tag (l₁ ++ t' :: l₂)) := by
  cases f with
  | tree f =>
    funext depth
    have hread : f.ofTree? depth t = f.ofTree? depth t' := congrArg Prod.fst (congrFun h depth)
    exact mapM_append_cons hread l₁ l₂
  | data f =>
    change Option.map _ _ = Option.map _ _
    rw [Tree.content?_sequence, Tree.content?_sequence]
    split
    · rfl
    rw [Option.map_map, Option.map_map]
    refine map_mapM_append_cons h (fun d d' r₁ r₂ hd _ => ?_) l₂
    have hread : f.ofDatum? d = f.ofDatum? d' := congrArg Prod.fst hd
    exact mapM_append_cons hread r₁ r₂

/-! ## Rearranged trees -/

theorem Rearranged.agree {n : Nat} {s : Shape Form} {t t' : Tree} (h : Rearranged n s t t') :
    s.Agree (t.limited n) (t'.limited n) := by
  -- A collection leaves one level less for its parts, which is the level at which they are rearranged.
  induction h with
  | keys h =>
    simp only [Tree.limited, limitedEntries_eq_map]
    exact agree_mapping (.of_perm (h.map _))
  | @extra n f tag l k v hkey hvalue hdepth =>
    simp only [Tree.limited, limitedEntries_eq_map, List.map_cons, limitEntry]
    rw [Tree.limited_of_depth_le hdepth]
    exact agree_mapping (.extra (hkey.limited n) hvalue)
  | field hkey hfield _ ih =>
    simp only [Tree.limited, limitedEntries_eq_map, List.map_cons]
    rw [← Form.fieldName?_limited] at hkey
    rw [← Form.fields_limited] at hfield
    exact agree_mapping (.field hkey hfield ih)
  | place hkey hfield _ ih =>
    simp only [Tree.limited, limitedItems_eq_map, List.map_append, List.map_cons]
    exact agree_place (by rwa [List.length_map]) hfield ih
  | item _ ih =>
    simp only [Tree.limited, limitedItems_eq_map, List.map_append, List.map_cons]
    exact agree_item ih
  | symm _ ih => exact ih.symm
  | trans _ _ ih ih' => exact ih.trans ih'

/-- Rearranged documents are read alike, whichever structure they hold: with the same result, or not at
all. -/
theorem Rearranged.ofTree?_limited_eq {f : TreeForm} {t t' : Tree}
    (h : Rearranged maxDepth (.one (.tree f)) t t') (depth : Nat) :
    f.ofTree? depth (t.limited maxDepth) = f.ofTree? depth (t'.limited maxDepth) :=
  congrArg Prod.fst (congrFun h.agree depth)

namespace Yaml.Tree

/-- A mapping whose keys are plain words. -/
def ofEntries (l : List (String × Tree)) : Tree := .mapping none (l.map fun e => (ofWord e.1, e.2))

end Yaml.Tree

open Yaml.Tree in
/-- A key that nobody knows is written in the dry run of a step, and the kind of the step comes first. -/
theorem Rearranged.ofTree?_limited_eq_of_dryRun :
    let written := ofEntries [("dryRun", ofEntries [("command", ofWord "true")]),
      ("name", ofWord "build"), ("action", ofWord "Shell")]
    let rearranged := ofEntries [("action", ofWord "Shell"), ("name", ofWord "build"),
      ("dryRun", ofEntries [("owner", ofEntries [("team", ofWord "network")]),
        ("command", ofWord "true")])]
    Rearranged maxDepth (.one (.tree .step)) written rearranged ∧
      Step.ofTree? (written.limited maxDepth) = Step.ofTree? (rearranged.limited maxDepth) := by
  have howner : (Form.data .dryRun).PassesOver [(ofWord "command", ofWord "true")] (ofWord "owner") :=
    ⟨some "owner", by decide +kernel, fun key hkey => by
      obtain rfl := Option.some.inj hkey
      rfl⟩
  have hdryRun : Rearranged 127 (.one (.data .dryRun)) (ofEntries [("command", ofWord "true")])
      (ofEntries [("owner", ofEntries [("team", ofWord "network")]), ("command", ofWord "true")]) :=
    .extra howner (by decide +kernel) (by decide)
  have hkey : (Form.tree .step).fieldName? (ofWord "dryRun") = some (some "dryRun") := by
    decide +kernel
  have hfield : Rearranged maxDepth (.one (.tree .step)) (ofEntries
      [("dryRun", ofEntries [("command", ofWord "true")]), ("name", ofWord "build"),
        ("action", ofWord "Shell")]) _ := .field hkey (by rfl) hdryRun
  have h := hfield.trans (.keys (List.reverse_perm _).symm)
  exact ⟨h, h.ofTree?_limited_eq 0⟩

open Yaml.Tree in
/-- Three keys that are no field of a structure and yet are not passed over: a truth value in a step, a list
in a topology, and the position of a field in a reference, which counts as that field. -/
theorem refused_keys :
    let step := [("action", ofWord "Shell"), ("name", ofWord "build")]
    let reference := [("resourceGroup", ofWord "network"), ("step", ofWord "create")]
    let dependent (reference : List (String × Tree)) :=
      ofEntries (("dependsOn", .sequence none [ofEntries reference]) :: step)
    ((ofWord "x").content?.isSome = true ∧ (ofWord "x").depth = 0) ∧
      (((StepHeader.fields ++ StepBody.fields "Shell").lookup "true").isNone = true ∧
        (Step.ofTree? (ofEntries step)).isSome = true ∧
        (Step.ofTree? (ofEntries (("true", ofWord "x") :: step))).isSome = false) ∧
      ((Tree.sequence none []).text? = none ∧ (Topology.ofTree? (.mapping none [])).isSome = true ∧
        (Topology.ofTree? (.mapping none [(.sequence none [], ofWord "x")])).isSome = false) ∧
      ((DataForm.stepReference.fields.lookup "0").isNone = true ∧
        (Step.ofTree? (dependent reference)).isSome = true ∧
        (Step.ofTree? (dependent (("0", ofWord "x") :: reference))).isSome = false) := by
  decide +kernel

end RolloutPlan
