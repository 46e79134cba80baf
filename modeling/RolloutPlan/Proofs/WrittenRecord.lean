import RolloutPlan.Pipeline.Format
import RolloutPlan.Proofs.Sorted
import RolloutPlan.Proofs.WrittenTree

/-!
# Records that are JSON objects

The members of an object are written in an order and some of them may be left out; they are read by
their keys. As long as no key is written twice, reading a field of the record is looking up its key
among the members.

* `Json.record`: the record of the members of an object, for one of the two ways of reading.
* `Json.required_record`, `Json.withDefault_record`, `Json.optional_record`: its fields.
* `Json.member`: a member that may be left out. `Json.lookup_member`, `Json.keys_member_sublist`.
* `Tree.split?_ofJson`, `Tree.action?_ofJson`: objects that are read partly in one way and partly in the
  other.
-/

namespace RolloutPlan

open Yaml

set_option autoImplicit false

variable {α β γ τ : Type}

theorem mapM_map_eq_some {f : α → β} {read : β → Option γ} {g : α → γ} {l : List α}
    (h : ∀ a ∈ l, read (f a) = some (g a)) : (l.map f).mapM read = some (l.map g) := by
  rw [List.mapM_map]
  induction l with
  | nil => rfl
  | cons a l ih =>
    rw [List.mapM_cons, Function.comp_apply, h a List.mem_cons_self,
      ih fun b hb => h b (List.mem_cons_of_mem a hb)]
    rfl

/-- A list is read back when each of its elements is. -/
theorem mapM_map_eq_self {f : α → β} {read : β → Option α} {l : List α}
    (h : ∀ a ∈ l, read (f a) = some a) : (l.map f).mapM read = some l :=
  (mapM_map_eq_some (g := id) h).trans (congrArg some (List.map_id l))

/-! ## Looking up keys -/

theorem lookup_map_snd (f : α → β) (k : String) (l : List (String × α)) :
    (l.map fun e => (e.1, f e.2)).lookup k = (l.lookup k).map f := by
  induction l with
  | nil => rfl
  | cons e l ih =>
    obtain ⟨k', v⟩ := e
    simp only [List.map_cons, List.lookup_cons, ih]
    cases k == k' <;> rfl

theorem lookup_eq_none_of_notMem {k : String} {l : List (String × α)} (h : k ∉ l.map (·.1)) :
    l.lookup k = none := by
  refine List.lookup_eq_none_iff.2 fun e he => bne_iff_ne.2 ?_
  rintro rfl
  exact h (List.mem_map_of_mem he)

namespace Yaml.Record

theorem entry?_of_nodup {r : Record τ} (hr : (r.map (·.1)).Nodup) (key : String) :
    r.entry? key = some (r.lookup key) := by
  suffices h : r.filter (·.1 = key) = ((r.lookup key).map (key, ·)).toList by
    unfold entry?
    rw [h]
    cases r.lookup key <;> rfl
  induction r with
  | nil => rfl
  | cons e r ih =>
    obtain ⟨k, v⟩ := e
    obtain ⟨hfresh, hrest⟩ := List.nodup_cons.1 hr
    rcases eq_or_ne key k with rfl | hkey
    · have hnone : r.filter (·.1 = key) = [] :=
        List.filter_eq_nil_iff.2 fun e he h =>
          hfresh (List.mem_map.2 ⟨e, he, of_decide_eq_true h⟩)
      simp [hnone]
    · rw [List.filter_cons_of_neg (by simpa using hkey.symm), ih hrest,
        Sorted.lookup_cons_of_ne hkey]

end Yaml.Record

/-! ## Records -/

namespace Json

/-- The record of the members of an object, for one way of reading what is written for a key. -/
def record (f : Json → τ) (members : List (String × Json)) : Record τ :=
  members.map fun e => (e.1, f e.2)

section Fields

variable {f : Json → τ} {members : List (String × Json)} (hkeys : (members.map (·.1)).Nodup)
  (key : String)
include hkeys

@[simp] theorem entry?_record :
    Record.entry? (record f members) key = some ((members.lookup key).map f) := by
  have hrecord : ((record f members).map (·.1)).Nodup := by
    rw [record, List.map_map]
    exact hkeys
  rw [Record.entry?_of_nodup hrecord, record, lookup_map_snd]

@[simp] theorem required_record (read : τ → Option α) :
    (record f members).required key read = (members.lookup key).bind fun j => read (f j) := by
  rw [Record.required, entry?_record hkeys]
  cases members.lookup key <;> rfl

@[simp] theorem withDefault_record (default : α) (read : τ → Option α) :
    (record f members).withDefault key default read =
      (members.lookup key).elim (some default) fun j => read (f j) := by
  rw [Record.withDefault, entry?_record hkeys]
  cases members.lookup key <;> rfl

@[simp] theorem optional_record (read : τ → Option (Option α)) :
    (record f members).optional key read =
      (members.lookup key).elim (some none) fun j => read (f j) :=
  withDefault_record hkeys key none read

end Fields

/-! ## Reading objects -/

@[simp] theorem record?_ofJson (names : List String) (members : List (String × Json)) :
    (Datum.ofJson (.object members)).record? names = some (record Datum.ofJson members) := by
  rw [Datum.ofJson_object, Datum.record?]
  induction members with
  | nil => rfl
  | cons e l ih =>
    rw [List.map_cons, Datum.named?, ih]
    rfl

@[simp] theorem keyed_ofJson (members : List (String × Json)) :
    (Datum.ofJson (.object members)).keyed = some (record Datum.ofJson members) := by
  rw [Datum.ofJson_object, Datum.keyed]
  induction members with
  | nil => rfl
  | cons e l ih =>
    rw [List.map_cons, Datum.keyed?, ih]
    rfl

@[simp] theorem tree_record?_ofJson (members : List (String × Json)) :
    (Tree.ofJson (.object members)).record? = some (record Tree.ofJson members) := by
  rw [Tree.ofJson_object]
  exact mapM_map_eq_some fun e _ => rfl

/-! ## Numbers in a JSON value -/

@[simp] theorem exact_string (s : String) : (Json.string s).Exact := .string s

@[simp] theorem exact_bool (b : Bool) : (Json.bool b).Exact := .bool b

@[simp] theorem exact_array {l : List Json} : (Json.array l).Exact ↔ ∀ j ∈ l, j.Exact :=
  ⟨fun h => by cases h with | array hl => exact hl, .array⟩

@[simp] theorem exact_object {l : List (String × Json)} : (Json.object l).Exact ↔ ∀ e ∈ l, e.2.Exact :=
  ⟨fun h => by cases h with | object hl => exact hl, .object⟩

/-! ## Members that may be left out -/

/-- A member of an object, if there is a value for it. -/
def member (key : String) (value : Option Json) : List (String × Json) :=
  (value.map (key, ·)).toList

theorem present_eq_member (key : String) (encode : α → Json) (a : Option α) :
    present key encode a = member key (a.map encode) := by
  cases a <;> rfl

theorem presentText_eq_member (key : String) (s : Option String) :
    presentText key s = member key (s.map .string) := by
  cases s <;> rfl

/-- The value for a list that is not empty. -/
def someArray (encode : α → Json) (l : List α) : Option Json :=
  if l.isEmpty then none else some (.array (l.map encode))

theorem nonempty_eq_member (key : String) (encode : α → Json) (l : List α) :
    nonempty key encode l = member key (someArray encode l) := by
  cases l <;> rfl

@[simp] theorem lookup_member (key k : String) (value : Option Json) :
    (member key value).lookup k = if k = key then value else none := by
  cases value with
  | none => simp [member]
  | some j =>
    rcases eq_or_ne k key with rfl | h
    · simp [member]
    · exact (Sorted.lookup_cons_of_ne h j []).trans (if_neg h).symm

theorem keys_member_sublist (key : String) (value : Option Json) :
    ((member key value).map (·.1)).Sublist [key] := by
  cases value with
  | none => exact List.nil_sublist _
  | some j => exact .refl _

/-- What may be absent and is written only if it is there. -/
theorem elim_map_encode {encode : α → Json} {read : Json → Option (Option α)} {a : Option α}
    (h : ∀ x ∈ a, read (encode x) = some (some x)) :
    (a.map encode).elim (some none) read = some a := by
  cases a with
  | none => rfl
  | some x => exact h x rfl

/-- A list that is written only if it is not empty. -/
theorem elim_someArray {encode : α → Json} {read : Json → Option (List α)} {l : List α}
    (h : read (.array (l.map encode)) = some l) :
    (someArray encode l).elim (some []) read = some l := by
  cases l with
  | nil => rfl
  | cons a l => exact h

@[simp] theorem exact_member {key : String} {value : Option Json} :
    (∀ e ∈ member key value, e.2.Exact) ↔ ∀ j ∈ value, j.Exact := by
  cases value <;> simp [member]

@[simp] theorem exact_map {encode : α → Json} {a : Option α} :
    (∀ j ∈ a.map encode, j.Exact) ↔ ∀ x ∈ a, (encode x).Exact := by
  cases a <;> simp

@[simp] theorem exact_someArray {encode : α → Json} {l : List α} :
    (∀ j ∈ someArray encode l, j.Exact) ↔ ∀ a ∈ l, (encode a).Exact := by
  cases l with
  | nil => simp [someArray]
  | cons a l => simp [someArray]

end Json

/-! ## Fields that are texts, words and lists -/

@[simp] theorem Yaml.Datum.text?_ofJson (s : String) : (Datum.ofJson (.string s)).text? = some s := rfl

@[simp] theorem Yaml.Datum.flag?_ofJson (b : Bool) : (Datum.ofJson (.bool b)).flag? = some b := rfl

theorem Yaml.Datum.count?_ofJson {n : Nat} (hn : IsCount n) :
    (Datum.ofJson (.integer n)).count? = some n := by
  simp only [IsCount, Nat.pow_eq, Nat.reducePow] at hn
  have hrange : (0 : Int) ≤ n ∧ (n : Int) < (Nat.pow 2 32 : Int) := by
    simp only [Nat.pow_eq, Nat.reducePow]
    omega
  rw [Datum.ofJson, Datum.count?, if_pos hrange, Int.toNat_natCast]

@[simp] theorem Yaml.Tree.text?_ofJson (s : String) : (Tree.ofJson (.string s)).text? = some s := rfl

theorem Yaml.Datum.list?_ofJson {encode : α → Json} {read : Datum → Option α} {l : List α}
    (h : ∀ a ∈ l, read (Datum.ofJson (encode a)) = some a) :
    Datum.list? read (Datum.ofJson (.array (l.map encode))) = some l := by
  rw [Datum.ofJson_array, List.map_map]
  exact mapM_map_eq_self h

theorem Yaml.Tree.list?_ofJson {encode : α → Json} {read : Tree → Option α} {l : List α}
    (h : ∀ a ∈ l, read (Tree.ofJson (encode a)) = some a) :
    Tree.list? read (Tree.ofJson (.array (l.map encode))) = some l := by
  rw [Tree.ofJson_array, List.map_map]
  exact mapM_map_eq_self h

/-! ## Objects that are read in both ways -/

/-- Members whose values are read as data, whatever their keys are read as. -/
theorem mapM_content? {κ : Type} (key : String → κ) {members : List (String × Json)}
    (hexact : ∀ e ∈ members, e.2.Exact) :
    (members.map fun e => (key e.1, Tree.ofJson e.2)).mapM
        (fun e => e.2.content?.bind fun d => some (e.1, d)) =
      some (members.map fun e => (key e.1, Datum.ofJson e.2)) := by
  refine mapM_map_eq_some fun e he => ?_
  rw [Tree.content?_ofJson (hexact e he)]
  rfl

theorem Yaml.Tree.split?_ofJson {own : List String} {members : List (String × Json)}
    (hrest : ∀ e ∈ members, e.1 ∉ own → e.2.Exact) :
    (Tree.ofJson (.object members)).split? own =
      some (Json.record Tree.ofJson (members.filter fun e => own.contains e.1),
        Json.record Datum.ofJson (members.filter fun e => !own.contains e.1)) := by
  have hfilter (p : String → Bool) :
      (Json.record Tree.ofJson members).filter (fun e => p e.1) =
        Json.record Tree.ofJson (members.filter fun e => p e.1) := List.filter_map
  have hread : (Json.record Tree.ofJson (members.filter fun e => !own.contains e.1)).mapM
      (fun e => e.2.content?.bind fun d => some (e.1, d)) =
        some (Json.record Datum.ofJson (members.filter fun e => !own.contains e.1)) :=
    mapM_content? id fun e he =>
      hrest e (List.mem_filter.1 he).1 (by simpa using (List.mem_filter.1 he).2)
  rw [Tree.split?, Json.tree_record?_ofJson]
  simp only [Option.bind_eq_bind, Option.bind_some, Option.pure_def]
  rw [hfilter fun k => !own.contains k, hfilter fun k => own.contains k, hread]
  rfl

/-- What tells the kind of a step is found among its members, and nothing else is. -/
theorem filter_action (action : String) {members : List (String × Json)}
    (hfresh : "action" ∉ members.map (·.1)) :
    ((("action", .string action) :: members).map fun e =>
        (Datum.string e.1, Tree.ofJson e.2)).filter (·.1.text? = some "action") =
          [(.string "action", Tree.ofJson (.string action))] ∧
      ((("action", .string action) :: members).map fun e =>
        (Datum.string e.1, Tree.ofJson e.2)).filter (fun e => !decide (e.1.text? = some "action")) =
          members.map fun e => (.string e.1, Tree.ofJson e.2) := by
  have hother : ∀ e ∈ members.map fun e => (Datum.string e.1, Tree.ofJson e.2),
      e.1.text? ≠ some "action" :=
    List.forall_mem_map.2 fun e he h => hfresh (List.mem_map.2 ⟨e, he, Option.some.inj h⟩)
  constructor
  · rw [List.map_cons, List.filter_cons_of_pos rfl,
      List.filter_eq_nil_iff.2 fun e he h => hother e he (of_decide_eq_true h)]
  · rw [List.map_cons, List.filter_cons_of_neg (by simp [Datum.text?])]
    exact List.filter_eq_self.2 fun e he => by simp [hother e he]

theorem Yaml.Tree.action?_ofJson {action : String} {members : List (String × Json)}
    (hfresh : "action" ∉ members.map (·.1)) (hexact : ∀ e ∈ members, e.2.Exact) :
    (Tree.ofJson (.object (("action", .string action) :: members))).action? =
      some (action, Json.record Datum.ofJson members) := by
  have hkeyed : ((("action", .string action) :: members).map fun e =>
      (Tree.ofString e.1, Tree.ofJson e.2)).mapM
        (fun e => e.1.content?.bind fun k => some (k, e.2)) =
      some ((("action", .string action) :: members).map fun e =>
        (Datum.string e.1, Tree.ofJson e.2)) := mapM_map_eq_some fun e _ => rfl
  obtain ⟨haction, hmembers⟩ := filter_action action hfresh
  have hrecord := Json.keyed_ofJson members
  rw [Datum.ofJson_object, Datum.keyed] at hrecord
  rw [Tree.ofJson_object, Tree.action?]
  simp only [Option.bind_eq_bind, Option.pure_def]
  rw [if_neg (by decide), hkeyed]
  simp only [Option.bind_some, haction, hmembers, mapM_content? Datum.string hexact, hrecord]
  rfl

end RolloutPlan
