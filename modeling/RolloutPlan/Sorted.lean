/-!
# Sorted lists as finite sets, and finite maps

A set is kept as a strictly increasing list, and a map has its entries in a list with strictly
increasing keys, so that two of them with the same members are the same.

* `StrictlyOrdered`: the orders that sets and maps are kept in.
* `Sorted.insert`, `Sorted.ofList`: sets; an element that is there already is kept once.
* `Sorted.sort`: a list in increasing order, every occurrence kept.
* `SortedMap`: maps, which carry the order of their keys. `SortedMap.keys`, `SortedMap.lookup`,
  `SortedMap.filter`: all keys, what is under a key, and the part with some of the entries.
* `Sorted.put`, `Sorted.ofPairs`: maps are made by adding entries; the last value for a key wins.
-/

namespace RolloutPlan

/-! ## Orders -/

/-- A strict order in which any two elements can be compared. -/
class StrictlyOrdered (α : Type) [LT α] : Prop where
  lt_irrefl (a : α) : ¬ a < a
  lt_trans {a b c : α} : a < b → b < c → a < c
  eq_of_not_lt {a b : α} : ¬ a < b → ¬ b < a → a = b

namespace StrictlyOrdered

theorem lt_asymm {α : Type} [LT α] [StrictlyOrdered α] {a b : α} (h : a < b) : ¬ b < a :=
  fun h' => lt_irrefl a (lt_trans h h')

instance : StrictlyOrdered String where
  lt_irrefl := String.lt_irrefl
  lt_trans := String.lt_trans
  eq_of_not_lt h h' := String.le_antisymm (String.not_lt.1 h') (String.not_lt.1 h)

/-- Elements that are compared by keys which tell them apart. -/
theorem of_key {α : Type} [LT α] (key : α → List String) (lt_iff : ∀ a b, a < b ↔ key a < key b)
    (key_injective : ∀ a b, key a = key b → a = b) : StrictlyOrdered α where
  lt_irrefl a h := List.lt_irrefl (key a) ((lt_iff a a).1 h)
  lt_trans h h' := (lt_iff _ _).2 (List.lt_trans ((lt_iff _ _).1 h) ((lt_iff _ _).1 h'))
  eq_of_not_lt h h' := key_injective _ _ (List.le_antisymm
    (List.not_lt.1 fun hlt => h' ((lt_iff _ _).2 hlt))
    (List.not_lt.1 fun hlt => h ((lt_iff _ _).2 hlt)))

end StrictlyOrdered

/-! ## Sets -/

namespace Sorted

section
variable {α : Type} [LT α] [DecidableLT α]

def insert (a : α) : List α → List α
  | [] => [a]
  | b :: l => if a < b then a :: b :: l else if b < a then b :: insert a l else b :: l

def ofList (l : List α) : List α :=
  l.foldr insert []

def sort (l : List α) : List α :=
  l.mergeSort fun a b => !decide (b < a)

end

end Sorted

/-! ## Maps -/

/-- A finite map. -/
structure SortedMap (κ ν : Type) [LT κ] where
  entries : List (κ × ν)
  increasing : (entries.map Prod.fst).Pairwise (· < ·)

namespace SortedMap

variable {κ ν β : Type} [LT κ]

instance : EmptyCollection (SortedMap κ ν) := ⟨⟨[], .nil⟩⟩

instance : Inhabited (SortedMap κ ν) := ⟨∅⟩

@[ext]
theorem ext {m m' : SortedMap κ ν} (h : m.entries = m'.entries) : m = m' := by
  cases m
  cases m'
  cases h
  rfl

@[simp] theorem entries_empty : (∅ : SortedMap κ ν).entries = [] :=
  rfl

instance : Membership (κ × ν) (SortedMap κ ν) := ⟨fun m e => e ∈ m.entries⟩

def keys (m : SortedMap κ ν) : List κ := m.entries.map Prod.fst

def lookup [BEq κ] (k : κ) (m : SortedMap κ ν) : Option ν :=
  m.entries.findSome? fun (k', v) => if k == k' then some v else none

def length (m : SortedMap κ ν) : Nat := m.entries.length

def isEmpty (m : SortedMap κ ν) : Bool := m.entries.isEmpty

def map (f : κ × ν → β) (m : SortedMap κ ν) : List β := m.entries.map f

def flatMap (f : κ × ν → List β) (m : SortedMap κ ν) : List β := m.entries.flatMap f

def filter (p : κ × ν → Bool) (m : SortedMap κ ν) : SortedMap κ ν where
  entries := m.entries.filter p
  increasing := m.increasing.sublist (List.filter_sublist.map Prod.fst)

end SortedMap

/-! ### Adding entries -/

namespace Sorted

section
variable {κ ν : Type} [LT κ] [DecidableLT κ]

/-- Binds a key in a list of pairs with increasing keys. -/
def putEntry (k : κ) (v : ν) : List (κ × ν) → List (κ × ν)
  | [] => [(k, v)]
  | (k', v') :: l =>
    if k < k' then (k, v) :: (k', v') :: l
    else if k' < k then (k', v') :: putEntry k v l
    else (k', v) :: l

theorem eq_or_mem_keys_of_mem_putEntry {k a : κ} {v : ν} : ∀ {l : List (κ × ν)},
    a ∈ (putEntry k v l).map Prod.fst → a = k ∨ a ∈ l.map Prod.fst
  | [], h => .inl (List.mem_singleton.1 h)
  | (k', v') :: l, h => by
    rw [putEntry] at h
    split at h
    · exact List.mem_cons.1 h
    · split at h
      · rcases List.mem_cons.1 h with rfl | h
        · exact .inr List.mem_cons_self
        · exact (eq_or_mem_keys_of_mem_putEntry h).imp_right (List.mem_cons_of_mem _)
      · exact .inr h

variable [StrictlyOrdered κ]

theorem pairwise_putEntry (k : κ) (v : ν) : ∀ {l : List (κ × ν)},
    (l.map Prod.fst).Pairwise (· < ·) → ((putEntry k v l).map Prod.fst).Pairwise (· < ·)
  | [], _ => List.pairwise_singleton _ _
  | (k', v') :: l, h => by
    obtain ⟨hk', hl⟩ := List.pairwise_cons.1 h
    rw [putEntry]
    split
    case isTrue hlt =>
      refine List.pairwise_cons.2 ⟨?_, h⟩
      intro a ha
      rcases List.mem_cons.1 ha with rfl | ha
      · exact hlt
      · exact StrictlyOrdered.lt_trans hlt (hk' a ha)
    case isFalse =>
      split
      case isTrue hgt =>
        refine List.pairwise_cons.2 ⟨?_, pairwise_putEntry k v hl⟩
        intro a ha
        rcases eq_or_mem_keys_of_mem_putEntry ha with rfl | ha
        · exact hgt
        · exact hk' a ha
      case isFalse => exact h

def put (k : κ) (v : ν) (m : SortedMap κ ν) : SortedMap κ ν where
  entries := putEntry k v m.entries
  increasing := pairwise_putEntry k v m.increasing

def ofPairs (l : List (κ × ν)) : SortedMap κ ν :=
  l.foldl (fun m e => put e.1 e.2 m) ∅

end

end Sorted

end RolloutPlan
