import RolloutPlan.Proofs.NumberText
import RolloutPlan.Yaml.Encoding
import RolloutPlan.Yaml.Record

/-!
# Documents that are JSON values

What a document says that was written as a JSON value: strings stay strings, because they are in quotes,
and the plain words for null, truth values and integers are read as what they were written for.

* `Tree.depth`, `Tree.limited_of_depth_le`: a tree that is not nested too deeply is read as it is.
* `Datum.ofJson`: what a JSON value says. `Json.Exact`: there is no number in it but words of 64 bits.
* `Tree.datum?_ofJson`, `Tree.content?_ofJson`: the tree of such a value says the same.
* `Datum.Portable`: data that JSON can hold. `Datum.Portable.ofJson_encode`: nothing is lost of it.
-/

namespace RolloutPlan

open Yaml

set_option autoImplicit false

namespace Yaml

/-! ## Nesting -/

mutual
/-- The number of levels in which collections are nested. -/
def Tree.depth : Tree → Nat
  | .scalar _ => 0
  | .sequence _ items => depthOfItems items + 1
  | .mapping _ entries => depthOfEntries entries + 1
  | .unreadable => 0
def depthOfItems : List Tree → Nat
  | [] => 0
  | t :: l => max t.depth (depthOfItems l)
def depthOfEntries : List (Tree × Tree) → Nat
  | [] => 0
  | (k, v) :: l => max (max k.depth v.depth) (depthOfEntries l)
end

theorem depthOfItems_le_iff {l : List Tree} {n : Nat} :
    depthOfItems l ≤ n ↔ ∀ t ∈ l, t.depth ≤ n := by
  induction l with
  | nil => simp [depthOfItems]
  | cons t l ih => rw [depthOfItems, Nat.max_le, ih, List.forall_mem_cons]

theorem depthOfEntries_le_iff {l : List (Tree × Tree)} {n : Nat} :
    depthOfEntries l ≤ n ↔ ∀ e ∈ l, e.1.depth ≤ n ∧ e.2.depth ≤ n := by
  induction l with
  | nil => simp [depthOfEntries]
  | cons e l ih => rw [depthOfEntries, Nat.max_le, Nat.max_le, ih, List.forall_mem_cons]

mutual
theorem Tree.limited_of_depth_le : ∀ {t : Tree} {n : Nat}, t.depth ≤ n → t.limited n = t
  | .scalar _, 0, _ => rfl
  | .scalar _, _ + 1, _ => rfl
  | .sequence tag _, _ + 1, h =>
    congrArg (Tree.sequence tag) (limitedItems_of_depth_le (Nat.le_of_succ_le_succ h))
  | .mapping tag _, _ + 1, h =>
    congrArg (Tree.mapping tag) (limitedEntries_of_depth_le (Nat.le_of_succ_le_succ h))
  | .unreadable, 0, _ => rfl
  | .unreadable, _ + 1, _ => rfl
theorem limitedItems_of_depth_le : ∀ {l : List Tree} {n : Nat}, depthOfItems l ≤ n →
    limitedItems n l = l
  | [], _, _ => rfl
  | t :: l, n, h => by
    obtain ⟨ht, hl⟩ := Nat.max_le.1 h
    rw [limitedItems, Tree.limited_of_depth_le ht, limitedItems_of_depth_le hl]
theorem limitedEntries_of_depth_le : ∀ {l : List (Tree × Tree)} {n : Nat}, depthOfEntries l ≤ n →
    limitedEntries n l = l
  | [], _, _ => rfl
  | (k, v) :: l, n, h => by
    obtain ⟨hkv, hl⟩ := Nat.max_le.1 h
    obtain ⟨hk, hv⟩ := Nat.max_le.1 hkv
    rw [limitedEntries, Tree.limited_of_depth_le hk, Tree.limited_of_depth_le hv,
      limitedEntries_of_depth_le hl]
end

/-! ## What a JSON value says -/

mutual
/-- What a JSON value says. -/
def Datum.ofJson : Json → Datum
  | .null => .null
  | .bool b => .bool b
  | .integer n => .integer n
  | .float x => .float x
  | .string s => .string s
  | .array items => .list (dataOfItems items)
  | .object members => .mapping (dataOfMembers members)
def dataOfItems : List Json → List Datum
  | [] => []
  | j :: l => Datum.ofJson j :: dataOfItems l
def dataOfMembers : List (String × Json) → List (Datum × Datum)
  | [] => []
  | (k, j) :: l => (.string k, Datum.ofJson j) :: dataOfMembers l
end

theorem Datum.ofJson_array (l : List Json) :
    Datum.ofJson (.array l) = .list (l.map Datum.ofJson) := by
  have h : dataOfItems l = l.map Datum.ofJson := by
    induction l with
    | nil => rfl
    | cons j l ih => rw [dataOfItems, List.map_cons, ih]
  rw [Datum.ofJson, h]

theorem Datum.ofJson_object (l : List (String × Json)) :
    Datum.ofJson (.object l) = .mapping (l.map fun e => (.string e.1, Datum.ofJson e.2)) := by
  have h : dataOfMembers l = l.map fun e => (.string e.1, Datum.ofJson e.2) := by
    induction l with
    | nil => rfl
    | cons e l ih => rw [dataOfMembers, List.map_cons, ih]
  rw [Datum.ofJson, h]

theorem Tree.ofJson_array (l : List Json) :
    Tree.ofJson (.array l) = .sequence none (l.map Tree.ofJson) := by
  have h : Tree.ofJsonItems l = l.map Tree.ofJson := by
    induction l with
    | nil => rfl
    | cons j l ih => rw [Tree.ofJsonItems, List.map_cons, ih]
  rw [Tree.ofJson, h]

theorem Tree.ofJson_object (l : List (String × Json)) :
    Tree.ofJson (.object l) = .mapping none (l.map fun e => (ofString e.1, Tree.ofJson e.2)) := by
  have h : Tree.ofJsonMembers l = l.map fun e => (ofString e.1, Tree.ofJson e.2) := by
    induction l with
    | nil => rfl
    | cons e l ih => rw [Tree.ofJsonMembers, List.map_cons, ih]
  rw [Tree.ofJson, h]

end Yaml

/-- A JSON value that holds no number but words of 64 bits. -/
inductive Json.Exact : Json → Prop
  | null : Exact .null
  | bool (b : Bool) : Exact (.bool b)
  | integer {n : Int} (hn : IsWord n) : Exact (.integer n)
  | string (s : String) : Exact (.string s)
  | array {l : List Json} (hl : ∀ j ∈ l, Exact j) : Exact (.array l)
  | object {l : List (String × Json)} (hl : ∀ e ∈ l, Exact e.2) : Exact (.object l)

namespace Yaml

@[simp] theorem Tree.datum?_ofString (s : String) : (Tree.ofString s).datum? = some (.string s) := rfl

theorem datumItems?_map {α : Type} {f : α → Tree} {g : α → Datum} {l : List α}
    (h : ∀ a ∈ l, (f a).datum? = some (g a)) : datumItems? (l.map f) = some (l.map g) := by
  induction l with
  | nil => rfl
  | cons a l ih =>
    rw [List.map_cons, datumItems?, h a List.mem_cons_self,
      ih fun b hb => h b (List.mem_cons_of_mem a hb)]
    rfl

theorem datumEntries?_map {α : Type} {f : α → Tree × Tree} {g : α → Datum × Datum} {l : List α}
    (h : ∀ a ∈ l, (f a).1.datum? = some (g a).1 ∧ (f a).2.datum? = some (g a).2) :
    datumEntries? (l.map f) = some (l.map g) := by
  induction l with
  | nil => rfl
  | cons a l ih =>
    obtain ⟨hkey, hvalue⟩ := h a List.mem_cons_self
    rw [List.map_cons, datumEntries?, hkey, hvalue,
      ih fun b hb => h b (List.mem_cons_of_mem a hb)]
    rfl

theorem Tree.datum?_ofJson {j : Json} (hj : j.Exact) :
    (Tree.ofJson j).datum? = some (Datum.ofJson j) := by
  induction hj with
  | null => rfl
  | bool b => cases b <;> rfl
  | integer hn => exact plainDatum?_toString hn
  | string s => rfl
  | array _ ih =>
    rw [Tree.ofJson_array, Datum.ofJson_array, Tree.datum?, datumItems?_map ih]
    rfl
  | object _ ih =>
    rw [Tree.ofJson_object, Datum.ofJson_object, Tree.datum?,
      datumEntries?_map (g := fun e => (.string e.1, Datum.ofJson e.2))
        fun e he => ⟨Tree.datum?_ofString e.1, ih e he⟩]
    rfl

/-! ## Tags and keys -/

theorem untaggedItems_iff {l : List Datum} :
    Datum.untaggedItems l = true ↔ ∀ d ∈ l, d.untagged = true := by
  induction l with
  | nil => simp [Datum.untaggedItems]
  | cons d l ih => simp [Datum.untaggedItems, ih]

theorem untaggedEntries_iff {l : List (Datum × Datum)} :
    Datum.untaggedEntries l = true ↔ ∀ e ∈ l, e.1.untagged = true ∧ e.2.untagged = true := by
  induction l with
  | nil => simp [Datum.untaggedEntries]
  | cons e l ih => simp [Datum.untaggedEntries, ih]

theorem Datum.untagged_ofJson {j : Json} (hj : j.Exact) : (Datum.ofJson j).untagged = true := by
  induction hj with
  | null => rfl
  | bool b => rfl
  | integer hn => rfl
  | string s => rfl
  | array _ ih =>
    rw [Datum.ofJson_array, Datum.untagged, untaggedItems_iff]
    exact List.forall_mem_map.2 ih
  | object _ ih =>
    rw [Datum.ofJson_object, Datum.untagged, untaggedEntries_iff]
    exact List.forall_mem_map.2 fun e he => ⟨rfl, ih e he⟩

theorem Tree.content?_ofJson {j : Json} (hj : j.Exact) :
    (Tree.ofJson j).content? = some (Datum.ofJson j) := by
  rw [Tree.content?, Tree.datum?_ofJson hj, Option.bind_some, if_pos (Datum.untagged_ofJson hj)]

theorem wellKeyedItems_iff {l : List Datum} :
    Datum.wellKeyedItems l = true ↔ ∀ d ∈ l, d.wellKeyed = true := by
  induction l with
  | nil => simp [Datum.wellKeyedItems]
  | cons d l ih => simp [Datum.wellKeyedItems, ih]

theorem wellKeyedEntries_of_nodup {l : List (String × Datum)} (hkeys : (l.map (·.1)).Nodup)
    (hl : ∀ e ∈ l, e.2.wellKeyed = true) :
    Datum.wellKeyedEntries (l.map fun e => (.string e.1, e.2)) = true := by
  induction l with
  | nil => rfl
  | cons e l ih =>
    obtain ⟨hfresh, hrest⟩ := List.nodup_cons.1 hkeys
    have hother : (l.map fun e => (Datum.string e.1, e.2)).any
        (fun e' => (Datum.string e.1).same e'.1) = false := by
      rw [List.any_map, List.any_eq_false]
      intro e' he'
      simp only [Function.comp_apply, Datum.same, decide_eq_true_eq]
      intro hsame
      exact hfresh (List.mem_map.2 ⟨e', he', hsame.symm⟩)
    simp only [List.map_cons, Datum.wellKeyedEntries, Datum.wellKeyed, hl e List.mem_cons_self,
      hother, ih hrest fun e he => hl e (List.mem_cons_of_mem _ he), Bool.not_false, Bool.and_self]

/-! ## Data that JSON can hold -/

/-- Data without tags and without numbers but words of 64 bits, in which mappings have strings for
keys, each key once. -/
inductive Datum.Portable : Datum → Prop
  | null : Portable .null
  | bool (b : Bool) : Portable (.bool b)
  | integer {n : Int} (hn : IsWord n) : Portable (.integer n)
  | string (s : String) : Portable (.string s)
  | list {l : List Datum} (hl : ∀ d ∈ l, Portable d) : Portable (.list l)
  | mapping {l : List (String × Datum)} (hkeys : (l.map (·.1)).Nodup)
    (hl : ∀ e ∈ l, Portable e.2) : Portable (.mapping (l.map fun e => (.string e.1, e.2)))

namespace Datum

@[simp] theorem encode_list (l : List Datum) : (Datum.list l).encode = .array (l.map encode) := by
  have h : encodeItems l = l.map encode := by
    induction l with
    | nil => rfl
    | cons d l ih => rw [encodeItems, List.map_cons, ih]
  rw [encode, h]

@[simp] theorem encode_mapping (l : List (String × Datum)) :
    (Datum.mapping (l.map fun e => (.string e.1, e.2))).encode =
      .object (l.map fun e => (e.1, e.2.encode)) := by
  have h : encodeEntries (l.map fun e => (.string e.1, e.2)) =
      l.map fun e => (e.1, e.2.encode) := by
    induction l with
    | nil => rfl
    | cons e l ih => rw [List.map_cons, encodeEntries, List.map_cons, ih, keyText]
  rw [encode, h]

namespace Portable

variable {d : Datum}

theorem exact_encode (hd : d.Portable) : d.encode.Exact := by
  induction hd with
  | null => exact .null
  | bool b => exact .bool b
  | integer hn => exact .integer hn
  | string s => exact .string s
  | list _ ih =>
    rw [encode_list]
    exact .array (List.forall_mem_map.2 ih)
  | mapping _ _ ih =>
    rw [encode_mapping]
    exact .object (List.forall_mem_map.2 ih)

theorem ofJson_encode (hd : d.Portable) : Datum.ofJson d.encode = d := by
  induction hd with
  | null => rfl
  | bool b => rfl
  | integer hn => rfl
  | string s => rfl
  | list _ ih =>
    rw [encode_list, Datum.ofJson_array, List.map_map]
    exact congrArg Datum.list ((List.map_congr_left ih).trans (List.map_id _))
  | mapping _ _ ih =>
    rw [encode_mapping, Datum.ofJson_object, List.map_map]
    exact congrArg Datum.mapping (List.map_congr_left fun e he => congrArg _ (ih e he))

theorem wellKeyed (hd : d.Portable) : d.wellKeyed = true := by
  induction hd with
  | null => rfl
  | bool b => rfl
  | integer hn => rfl
  | string s => rfl
  | list _ ih => exact wellKeyedItems_iff.2 ih
  | mapping hkeys _ ih => exact wellKeyedEntries_of_nodup hkeys ih

/-- Data that JSON can hold is read back from a document as it was. -/
theorem literal?_ofJson_encode (hd : d.Portable) : (Tree.ofJson d.encode).literal? = some d := by
  rw [Tree.literal?, Tree.datum?_ofJson hd.exact_encode, hd.ofJson_encode, Option.bind_some,
    if_pos hd.wellKeyed]

end Portable

end Datum

/-! ## What may be absent -/

theorem Tree.optional?_ofJson {α : Type} {j : Json} (hj : j.Exact) (hnull : j ≠ .null)
    (read : Tree → Option α) :
    (Tree.ofJson j).optional? read = some <$> read (Tree.ofJson j) := by
  cases hj with
  | null => exact absurd rfl hnull
  | bool b => cases b <;> rfl
  | integer _ => exact if_neg (not_null_toString _)
  | string s => rfl
  | array _ => rw [Tree.ofJson_array]; rfl
  | object _ => rw [Tree.ofJson_object]; rfl

theorem Datum.optional?_ofJson {α : Type} {j : Json} (hnull : j ≠ .null)
    (read : Datum → Option α) :
    (Datum.ofJson j).optional? read = some <$> read (Datum.ofJson j) := by
  cases j with
  | null => exact absurd rfl hnull
  | array l => rw [Datum.ofJson_array]; rfl
  | object l => rw [Datum.ofJson_object]; rfl
  | _ => rfl

end Yaml

end RolloutPlan
