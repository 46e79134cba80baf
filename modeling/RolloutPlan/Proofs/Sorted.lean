import Mathlib.Data.List.Induction
import Mathlib.Data.List.Nodup
import Mathlib.Data.List.Perm.Subperm
import RolloutPlan.Graph.Node

/-!
# What sorted lists hold

Sets and maps are lists in increasing order, and what they hold does not depend on how they were made.

* Identifiers and references are totally ordered.
* `flatMap_ite_eq`, `filter_flatMap_eq`, `nodup_flatMap_of_key`: of lists that are joined, one is known
  from a key that no other one has.
* `mem_insert`, `pairwise_insert`, `mem_ofList`, `pairwise_ofList`, `eq_of_mem_iff`, `ofList_eq_iff`:
  sets. `sort_perm`, `pairwise_not_lt_sort`, `pairwise_sort`: sorting.
* `SortedMap.lookup_eq_some_iff`, `SortedMap.ext_of_perm`, `SortedMap.ext_of_lookup`: a map is known from
  its pairs, and from its look-ups.
* `mem_keys_put`, `put_perm`, `lookup_put_self`, `lookup_put_of_ne`: adding a pair.
* `mem_keys_ofPairs`, `ofPairs_perm`, `lookup_ofPairs`: the map of a list of pairs.
  `lookup_ofPairs_eq_getLast?`, `length_ofPairs_eq_iff`: of pairs with one key the last one counts, and
  the others are lost. `filter_ofPairs`: the part of the map under some keys.
-/

namespace RolloutPlan

set_option autoImplicit false

/-! ## The orders of references and identifiers -/

theorem StepReference.lt_iff {a b : StepReference} :
    a < b ↔ a.resourceGroup < b.resourceGroup ∨
      a.resourceGroup = b.resourceGroup ∧ a.step < b.step := by
  change [a.resourceGroup, a.step] < [b.resourceGroup, b.step] ↔ _
  simp [List.cons_lt_cons_iff]

@[simp] theorem Identifier.ofReference_lt_ofReference {group : String} {a b : StepReference} :
    Identifier.ofReference group a < Identifier.ofReference group b ↔ a < b := by
  change [group, a.resourceGroup, a.step] < [group, b.resourceGroup, b.step] ↔
    [a.resourceGroup, a.step] < [b.resourceGroup, b.step]
  simp [List.cons_lt_cons_iff]

theorem Identifier.ofReference_injective (group : String) :
    Function.Injective (Identifier.ofReference group) := by
  intro a b h
  obtain ⟨g, s⟩ := a
  obtain ⟨g', s'⟩ := b
  simpa [Identifier.ofReference] using h

@[simp] theorem Identifier.ofReference_reference (i : Identifier) :
    Identifier.ofReference i.serviceGroup i.reference = i := rfl

/-! ## Lists that are joined -/

section Keys
variable {α β κ : Type} {key : α → κ} {f : α → List β}

/-- Joining lists under a condition is joining those whose elements meet it. -/
theorem flatMap_ite (p : α → Prop) [DecidablePred p] (f : α → List β) : ∀ l : List α,
    (l.flatMap fun a => if p a then f a else []) = (l.filter p).flatMap f
  | [] => rfl
  | a :: l => by
    rw [List.flatMap_cons, List.filter_cons, flatMap_ite p f l]
    by_cases ha : p a <;> simp [ha]

/-- What is sought by the key of its origin comes from the elements with the key. -/
theorem filter_flatMap_of_key {owner : β → κ} (hf : ∀ a, ∀ b ∈ f a, owner b = key a) (q : κ → Bool)
    (l : List α) :
    (l.flatMap f).filter (fun b => q (owner b)) = (l.filter fun a => q (key a)).flatMap f := by
  have hone : ∀ a, (f a).filter (fun b => q (owner b)) = if q (key a) then f a else [] := by
    intro a
    split_ifs with ha
    · rw [List.filter_eq_self]
      intro b hb
      rw [hf a b hb, ha]
    · rw [List.filter_eq_nil_iff]
      intro b hb
      rwa [hf a b hb]
  rw [List.filter_flatMap]
  simp only [hone]
  rw [flatMap_ite]
  simp

/-- Lists that tell the keys of their origins apart repeat nothing when none of them does. -/
theorem nodup_flatMap_of_key {owner : β → κ} (hf : ∀ a, ∀ b ∈ f a, owner b = key a) {l : List α}
    (hl : (l.map key).Nodup) : (l.flatMap f).Nodup ↔ ∀ a ∈ l, (f a).Nodup := by
  rw [List.nodup_flatMap]
  refine and_iff_left ((List.pairwise_map.1 hl).imp ?_)
  intro a b hab c hca hcb
  exact hab ((hf a c hca).symm.trans (hf b c hcb))

variable [DecidableEq κ]

theorem filter_key_eq {a : α} : ∀ {l : List α}, (l.map key).Nodup → a ∈ l →
    l.filter (fun b => key b = key a) = [a]
  | [], _, h => absurd h List.not_mem_nil
  | b :: l, hl, h => by
    obtain ⟨hb, hl⟩ := List.nodup_cons.1 hl
    rw [List.filter_cons]
    rcases List.mem_cons.1 h with rfl | h
    · have hrest : l.filter (fun b => key b = key a) = [] := by
        rw [List.filter_eq_nil_iff]
        intro c hc
        rw [decide_eq_true_eq]
        intro hca
        exact hb (List.mem_map.2 ⟨c, hc, hca⟩)
      rw [if_pos (by simp), hrest]
    · have hne : key b ≠ key a := fun hba => hb (List.mem_map.2 ⟨a, h, hba.symm⟩)
      rw [if_neg (by simpa using hne), filter_key_eq hl h]

/-- Elements that come later under new keys are left out when those of the first keys are sought. -/
theorem filter_mem_keys_eq {l m : List α} (h : ((l ++ m).map key).Nodup) :
    (l ++ m).filter (fun a => key a ∈ l.map key) = l := by
  rw [List.map_append, List.nodup_append] at h
  have hl : l.filter (fun a => key a ∈ l.map key) = l := by
    rw [List.filter_eq_self]
    intro a ha
    rw [decide_eq_true_eq]
    exact List.mem_map_of_mem ha
  have hm : m.filter (fun a => key a ∈ l.map key) = [] := by
    rw [List.filter_eq_nil_iff]
    intro a ha
    rw [decide_eq_true_eq]
    intro hmem
    exact h.2.2 _ hmem _ (List.mem_map_of_mem ha) rfl
  rw [List.filter_append, hl, hm, List.append_nil]

/-- Of lists that are joined, the one under a key is left when the others are emptied. -/
theorem flatMap_ite_eq {a : α} {l : List α} (hl : (l.map key).Nodup) (ha : a ∈ l) :
    (l.flatMap fun b => if key b = key a then f b else []) = f a := by
  rw [flatMap_ite, filter_key_eq hl ha, List.flatMap_singleton]

/-- Of lists that are joined, the one under a key is left when its elements are sought by the key. -/
theorem filter_flatMap_eq {owner : β → κ} (hf : ∀ a, ∀ b ∈ f a, owner b = key a) {l : List α}
    (hl : (l.map key).Nodup) {a : α} (ha : a ∈ l) :
    (l.flatMap f).filter (fun b => owner b = key a) = f a := by
  rw [filter_flatMap_of_key hf (fun k => decide (k = key a)), filter_key_eq hl ha,
    List.flatMap_singleton]

end Keys

namespace Sorted

variable {α : Type} [LT α] [DecidableLT α] [StrictlyOrdered α]

/-! ## Sets -/

@[simp] theorem mem_insert {a b : α} : ∀ {l : List α}, b ∈ insert a l ↔ b = a ∨ b ∈ l
  | [] => by simp [insert]
  | c :: l => by
    rw [insert]
    split_ifs with hac hca
    · simp
    · simp only [List.mem_cons, mem_insert (l := l)]
      tauto
    · obtain rfl : a = c := StrictlyOrdered.eq_of_not_lt hac hca
      simp

theorem pairwise_insert {a : α} :
    ∀ {l : List α}, l.Pairwise (· < ·) → (insert a l).Pairwise (· < ·)
  | [], _ => by simp [insert]
  | c :: l, h => by
    obtain ⟨hc, hl⟩ := List.pairwise_cons.1 h
    rw [insert]
    split_ifs with hac hca
    · refine List.pairwise_cons.2 ⟨?_, h⟩
      intro b hb
      rcases List.mem_cons.1 hb with rfl | hb
      · exact hac
      · exact StrictlyOrdered.lt_trans hac (hc b hb)
    · refine List.pairwise_cons.2 ⟨?_, pairwise_insert hl⟩
      intro b hb
      rcases mem_insert.1 hb with rfl | hb
      · exact hca
      · exact hc b hb
    · exact h

@[simp] theorem mem_ofList {a : α} {l : List α} : a ∈ ofList l ↔ a ∈ l := by
  unfold ofList
  induction l with
  | nil => simp
  | cons b l ih => simp [ih]

theorem pairwise_ofList (l : List α) : (ofList l).Pairwise (· < ·) := by
  unfold ofList
  induction l with
  | nil => simp
  | cons b l ih => exact pairwise_insert ih

omit [DecidableLT α] in
theorem nodup_of_pairwise {l : List α} (h : l.Pairwise (· < ·)) : l.Nodup := by
  apply h.imp
  rintro a _ hab rfl
  exact StrictlyOrdered.lt_irrefl a hab

omit [DecidableLT α] in
/-- A set is known from its members. -/
theorem eq_of_mem_iff {l m : List α} (hl : l.Pairwise (· < ·)) (hm : m.Pairwise (· < ·))
    (h : ∀ a, a ∈ l ↔ a ∈ m) : l = m :=
  ((List.perm_ext_iff_of_nodup (nodup_of_pairwise hl) (nodup_of_pairwise hm)).2 h).eq_of_pairwise
    (fun _ _ _ _ hab hba => absurd hba (StrictlyOrdered.lt_asymm hab)) hl hm

theorem ofList_eq_iff {l m : List α} : ofList l = ofList m ↔ ∀ a, a ∈ l ↔ a ∈ m := by
  constructor
  · intro h a
    rw [← mem_ofList, h, mem_ofList]
  · intro h
    refine eq_of_mem_iff (pairwise_ofList l) (pairwise_ofList m) fun a => ?_
    rw [mem_ofList, mem_ofList, h]

theorem ofList_concat (l : List α) (a : α) : ofList (l ++ [a]) = insert a (ofList l) := by
  refine eq_of_mem_iff (pairwise_ofList _) (pairwise_insert (pairwise_ofList l)) fun b => ?_
  simp [or_comm]

/-! ## Sorting -/

omit [StrictlyOrdered α] in
theorem sort_perm (l : List α) : (sort l).Perm l := List.mergeSort_perm l _

/-- Nothing stands behind something greater. -/
theorem pairwise_not_lt_sort (l : List α) : (sort l).Pairwise fun a b => ¬ b < a := by
  have hle : (sort l).Pairwise fun a b => (!decide (b < a)) = true := by
    refine List.pairwise_mergeSort ?_ ?_ l
    · intro a b c hab hbc
      simp only [Bool.not_eq_true', decide_eq_false_iff_not] at hab hbc ⊢
      intro hca
      by_cases h : b < c
      · exact hab (StrictlyOrdered.lt_trans h hca)
      · obtain rfl := StrictlyOrdered.eq_of_not_lt h hbc
        exact hab hca
    · intro a b
      by_cases hba : b < a
      · simp [hba, StrictlyOrdered.lt_asymm hba]
      · simp [hba]
  exact hle.imp fun h => by simpa using h

theorem pairwise_sort {l : List α} (h : l.Nodup) : (sort l).Pairwise (· < ·) := by
  have hne : (sort l).Nodup := (sort_perm l).nodup_iff.2 h
  refine (pairwise_not_lt_sort l).imp₂ ?_ hne
  intro a b hab hne
  by_contra h
  exact hne (StrictlyOrdered.eq_of_not_lt h hab)

/-! ## Look-ups in lists of pairs -/

section Lookup
variable {κ ν : Type} [BEq κ] [LawfulBEq κ]

theorem lookup_cons_of_ne {a k : κ} (h : a ≠ k) (v : ν) (l : List (κ × ν)) :
    ((k, v) :: l).lookup a = l.lookup a := by
  rw [List.lookup_cons, beq_false_of_ne h]

/-- Pairs with distinct keys are known from the look-ups. -/
theorem lookup_eq_some_iff_mem {k : κ} {v : ν} :
    ∀ {l : List (κ × ν)}, (l.map Prod.fst).Nodup → (l.lookup k = some v ↔ (k, v) ∈ l)
  | [], _ => by simp
  | (k', v') :: l, h => by
    obtain ⟨hk', hl⟩ := List.nodup_cons.1 h
    by_cases hk : k = k'
    · subst hk
      have hnot : (k, v) ∉ l := fun hv => hk' (List.mem_map.2 ⟨_, hv, rfl⟩)
      simp [hnot, eq_comm]
    · rw [lookup_cons_of_ne hk, lookup_eq_some_iff_mem hl]
      simp [hk]

theorem isSome_lookup_iff {k : κ} {l : List (κ × ν)} :
    (l.lookup k).isSome ↔ k ∈ l.map Prod.fst := by
  rw [List.lookup_isSome_iff, List.mem_map]
  constructor
  · rintro ⟨e, he, hk⟩
    exact ⟨e, he, (beq_iff_eq.1 hk).symm⟩
  · rintro ⟨e, he, rfl⟩
    exact ⟨e, he, beq_self_eq_true _⟩

end Lookup

end Sorted

/-! ## Maps -/

namespace SortedMap

variable {κ ν : Type} [LT κ] {m m' : SortedMap κ ν}

@[simp] theorem keys_empty : (∅ : SortedMap κ ν).keys = [] :=
  rfl

@[simp] theorem notMem_empty (e : κ × ν) : e ∉ (∅ : SortedMap κ ν) :=
  List.not_mem_nil

theorem nodup_keys [StrictlyOrdered κ] (m : SortedMap κ ν) : m.keys.Nodup := by
  refine List.Pairwise.imp ?_ m.increasing
  rintro a _ hab rfl
  exact StrictlyOrdered.lt_irrefl a hab

section Lookup
variable [BEq κ] [LawfulBEq κ]

omit [LawfulBEq κ] in
theorem lookup_eq_lookup_entries (m : SortedMap κ ν) (k : κ) : m.lookup k = m.entries.lookup k :=
  List.lookup_eq_findSome?.symm

omit [LawfulBEq κ] in
@[simp] theorem lookup_empty (k : κ) : (∅ : SortedMap κ ν).lookup k = none :=
  rfl

theorem isSome_lookup_iff {k : κ} : (m.lookup k).isSome ↔ k ∈ m.keys := by
  rw [lookup_eq_lookup_entries]
  exact Sorted.isSome_lookup_iff

variable [StrictlyOrdered κ]

theorem lookup_eq_some_iff {k : κ} {v : ν} : m.lookup k = some v ↔ (k, v) ∈ m := by
  rw [lookup_eq_lookup_entries]
  exact Sorted.lookup_eq_some_iff_mem m.nodup_keys

theorem lookup_filter (q : κ → Bool) (m : SortedMap κ ν) (k : κ) :
    (m.filter fun e => q e.1).lookup k = if q k then m.lookup k else none := by
  ext v
  rw [lookup_eq_some_iff]
  split_ifs with hk
  · rw [lookup_eq_some_iff]
    exact List.mem_filter.trans (and_iff_left hk)
  · refine iff_of_false (fun h => hk ?_) (by simp)
    exact (List.mem_filter.1 h).2

end Lookup

variable [StrictlyOrdered κ]

/-- Maps with the same pairs are the same. -/
theorem ext_of_perm (h : m.entries.Perm m'.entries) : m = m' := by
  refine ext (h.eq_of_pairwise ?_ (List.pairwise_map.1 m.increasing)
    (List.pairwise_map.1 m'.increasing))
  intro _ _ _ _ hab hba
  exact absurd hba (StrictlyOrdered.lt_asymm hab)

/-- Maps with the same look-ups are the same. -/
theorem ext_of_lookup [BEq κ] [LawfulBEq κ] (h : ∀ k, m.lookup k = m'.lookup k) : m = m' := by
  refine ext_of_perm ((List.perm_ext_iff_of_nodup (List.Nodup.of_map Prod.fst m.nodup_keys)
    (List.Nodup.of_map Prod.fst m'.nodup_keys)).2 ?_)
  rintro ⟨k, v⟩
  exact lookup_eq_some_iff.symm.trans ((iff_of_eq (congrArg (· = some v) (h k))).trans
    lookup_eq_some_iff)

end SortedMap

namespace Sorted

variable {κ ν : Type} [LT κ] [DecidableLT κ] [StrictlyOrdered κ]

/-! ### Adding a pair -/

theorem mem_keys_putEntry {k a : κ} {v : ν} : ∀ {l : List (κ × ν)},
    a ∈ (putEntry k v l).map Prod.fst ↔ a = k ∨ a ∈ l.map Prod.fst
  | [] => by simp [putEntry]
  | (k', v') :: l => by
    rw [putEntry]
    split_ifs with hk hk'
    · simp
    · simp only [List.map_cons, List.mem_cons, mem_keys_putEntry (l := l)]
      tauto
    · obtain rfl : k = k' := StrictlyOrdered.eq_of_not_lt hk hk'
      simp

theorem eq_or_mem_of_mem_putEntry {k : κ} {v : ν} {e : κ × ν} : ∀ {l : List (κ × ν)},
    e ∈ putEntry k v l → e = (k, v) ∨ e ∈ l
  | [], h => .inl (List.mem_singleton.1 h)
  | (k', v') :: l, h => by
    rw [putEntry] at h
    split_ifs at h with hk hk'
    · exact List.mem_cons.1 h
    · rcases List.mem_cons.1 h with rfl | h
      · exact .inr List.mem_cons_self
      · exact (eq_or_mem_of_mem_putEntry h).imp_right (List.mem_cons_of_mem _)
    · obtain rfl : k = k' := StrictlyOrdered.eq_of_not_lt hk hk'
      exact (List.mem_cons.1 h).imp_right (List.mem_cons_of_mem _)

theorem putEntry_perm {k : κ} {v : ν} : ∀ {l : List (κ × ν)},
    k ∉ l.map Prod.fst → (putEntry k v l).Perm ((k, v) :: l)
  | [], _ => .refl _
  | (k', v') :: l, h => by
    rw [List.map_cons, List.mem_cons, not_or] at h
    rw [putEntry]
    split_ifs with hlt hgt
    · exact .refl _
    · exact ((putEntry_perm h.2).cons _).trans (.swap _ _ _)
    · exact absurd (StrictlyOrdered.eq_of_not_lt hlt hgt) h.1

section Lookup
variable [BEq κ] [LawfulBEq κ]

theorem lookup_putEntry_self (k : κ) (v : ν) :
    ∀ l : List (κ × ν), (putEntry k v l).lookup k = some v
  | [] => by simp [putEntry]
  | (k', v') :: l => by
    rw [putEntry]
    split_ifs with hk hk'
    · simp
    · have hne : k ≠ k' := by
        rintro rfl
        exact hk hk'
      rw [lookup_cons_of_ne hne, lookup_putEntry_self k v l]
    · obtain rfl : k = k' := StrictlyOrdered.eq_of_not_lt hk hk'
      simp

theorem lookup_putEntry_of_ne {k a : κ} (h : a ≠ k) (v : ν) :
    ∀ l : List (κ × ν), (putEntry k v l).lookup a = l.lookup a
  | [] => by rw [putEntry, lookup_cons_of_ne h]
  | (k', v') :: l => by
    rw [putEntry]
    split_ifs with hk hk'
    · rw [lookup_cons_of_ne h]
    · simp only [List.lookup_cons, lookup_putEntry_of_ne h v l]
    · obtain rfl : k = k' := StrictlyOrdered.eq_of_not_lt hk hk'
      rw [lookup_cons_of_ne h, lookup_cons_of_ne h]

end Lookup

variable {m : SortedMap κ ν}

@[simp] theorem mem_keys_put {k a : κ} {v : ν} : a ∈ (put k v m).keys ↔ a = k ∨ a ∈ m.keys :=
  mem_keys_putEntry

theorem eq_or_mem_of_mem_put {k : κ} {v : ν} {e : κ × ν} (h : e ∈ put k v m) :
    e = (k, v) ∨ e ∈ m :=
  eq_or_mem_of_mem_putEntry h

theorem put_perm {k : κ} {v : ν} (h : k ∉ m.keys) :
    (put k v m).entries.Perm ((k, v) :: m.entries) :=
  putEntry_perm h

@[simp] theorem lookup_put_self [BEq κ] [LawfulBEq κ] (k : κ) (v : ν) (m : SortedMap κ ν) :
    (put k v m).lookup k = some v := by
  rw [SortedMap.lookup_eq_lookup_entries]
  exact lookup_putEntry_self k v m.entries

theorem lookup_put_of_ne [BEq κ] [LawfulBEq κ] {k a : κ} (h : a ≠ k) (v : ν) (m : SortedMap κ ν) :
    (put k v m).lookup a = m.lookup a := by
  rw [SortedMap.lookup_eq_lookup_entries, SortedMap.lookup_eq_lookup_entries]
  exact lookup_putEntry_of_ne h v m.entries

/-! ### Maps from lists of pairs -/

@[simp] theorem ofPairs_nil : ofPairs ([] : List (κ × ν)) = ∅ :=
  rfl

theorem ofPairs_concat (l : List (κ × ν)) (e : κ × ν) :
    ofPairs (l ++ [e]) = put e.1 e.2 (ofPairs l) := by
  unfold ofPairs
  rw [List.foldl_append, List.foldl_cons, List.foldl_nil]

@[simp] theorem mem_keys_ofPairs {k : κ} {l : List (κ × ν)} :
    k ∈ (ofPairs l).keys ↔ k ∈ l.map Prod.fst := by
  induction l using List.reverseRecOn with
  | nil => simp
  | append_singleton l e ih =>
    rw [ofPairs_concat, mem_keys_put, ih, List.map_append, List.mem_append, List.map_singleton,
      List.mem_singleton, or_comm]

theorem ofPairs_perm {l : List (κ × ν)} (h : (l.map Prod.fst).Nodup) :
    (ofPairs l).entries.Perm l := by
  induction l using List.reverseRecOn with
  | nil => exact .refl _
  | append_singleton l e ih =>
    rw [List.map_append, List.nodup_append] at h
    have he : e.1 ∉ (ofPairs l).keys := by
      rw [mem_keys_ofPairs]
      intro hmem
      exact h.2.2 _ hmem _ (List.mem_singleton_self _) rfl
    rw [ofPairs_concat]
    exact (put_perm he).trans (((ih h.1).cons e).trans (List.perm_append_singleton e l).symm)

/-- Later pairs count before earlier ones. -/
theorem lookup_ofPairs_append [BEq κ] [LawfulBEq κ] (l l' : List (κ × ν)) (k : κ) :
    (ofPairs (l ++ l')).lookup k = ((ofPairs l').lookup k).or ((ofPairs l).lookup k) := by
  induction l' using List.reverseRecOn with
  | nil => simp
  | append_singleton l' e ih =>
    rw [← List.append_assoc, ofPairs_concat, ofPairs_concat]
    by_cases hk : k = e.1
    · rw [hk, lookup_put_self, lookup_put_self, Option.some_or]
    · rw [lookup_put_of_ne hk, lookup_put_of_ne hk, ih]

/-- The last pair with a key counts. -/
theorem lookup_ofPairs_eq_getLast? [BEq κ] [LawfulBEq κ] [DecidableEq κ] (l : List (κ × ν))
    (k : κ) :
    (ofPairs l).lookup k = ((l.filter (·.1 = k)).getLast?).map Prod.snd := by
  induction l using List.reverseRecOn with
  | nil => rfl
  | append_singleton l e ih =>
    rw [ofPairs_concat, List.filter_append, List.filter_singleton]
    by_cases hk : e.1 = k
    · rw [← hk, lookup_put_self]
      simp
    · rw [lookup_put_of_ne (Ne.symm hk), ih]
      simp [hk]

/-- The map of pairs with distinct keys does not depend on their order. -/
theorem ofPairs_eq_of_perm {l l' : List (κ × ν)} (h : l.Perm l') (hl : (l.map Prod.fst).Nodup) :
    ofPairs l = ofPairs l' := by
  have hl' : (l'.map Prod.fst).Nodup := (h.map Prod.fst).nodup_iff.1 hl
  exact SortedMap.ext_of_perm ((ofPairs_perm hl).trans (h.trans (ofPairs_perm hl').symm))

/-- The map of the pairs of a map is the map itself. -/
@[simp] theorem ofPairs_entries (m : SortedMap κ ν) : ofPairs m.entries = m :=
  SortedMap.ext_of_perm (ofPairs_perm m.nodup_keys)

/-- A map has as many pairs as it was made of when no key was given twice. -/
theorem length_ofPairs_eq_iff {l : List (κ × ν)} :
    (ofPairs l).length = l.length ↔ (l.map Prod.fst).Nodup := by
  constructor
  · intro h
    have hkeys := (ofPairs l).nodup_keys
    have hsub : (ofPairs l).keys ⊆ l.map Prod.fst := fun _ => mem_keys_ofPairs.1
    have hlength : (l.map Prod.fst).length ≤ (ofPairs l).keys.length := by
      rw [SortedMap.keys, List.length_map, List.length_map]
      exact Nat.le_of_eq h.symm
    exact ((hkeys.subperm hsub).perm_of_length_le hlength).nodup_iff.1 hkeys
  · intro h
    exact (ofPairs_perm h).length_eq

section Lookup
variable [BEq κ] [LawfulBEq κ]

theorem lookup_ofPairs {l : List (κ × ν)} (h : (l.map Prod.fst).Nodup) (k : κ) :
    (ofPairs l).lookup k = l.lookup k := by
  ext v
  rw [SortedMap.lookup_eq_some_iff, lookup_eq_some_iff_mem h]
  exact (ofPairs_perm h).mem_iff

/-- Maps are joined into the map of all pairs that they were made of. -/
theorem ofPairs_flatMap_ofPairs {β : Type} (f : β → List (κ × ν)) (l : List β) :
    ofPairs (l.flatMap fun a => (ofPairs (f a)).entries) = ofPairs (l.flatMap f) := by
  refine SortedMap.ext_of_lookup fun k => ?_
  induction l with
  | nil => rfl
  | cons a l ih =>
    rw [List.flatMap_cons, List.flatMap_cons, lookup_ofPairs_append, lookup_ofPairs_append, ih,
      ofPairs_entries]

theorem filter_put (q : κ → Bool) (k : κ) (v : ν) (m : SortedMap κ ν) :
    ((put k v m).filter fun e => q e.1) =
      if q k then put k v (m.filter fun e => q e.1) else m.filter fun e => q e.1 := by
  refine SortedMap.ext_of_lookup fun a => ?_
  rw [SortedMap.lookup_filter]
  by_cases ha : a = k
  · subst ha
    split_ifs with hq
    · rw [lookup_put_self, lookup_put_self]
    · rw [SortedMap.lookup_filter, if_neg hq]
  · rw [lookup_put_of_ne ha, ← SortedMap.lookup_filter]
    split_ifs
    · rw [lookup_put_of_ne ha]
    · rfl

/-- The part of a map under some keys is the map of the pairs with these keys. -/
theorem filter_ofPairs (q : κ → Bool) (l : List (κ × ν)) :
    ((ofPairs l).filter fun e => q e.1) = ofPairs (l.filter fun e => q e.1) := by
  induction l using List.reverseRecOn with
  | nil => rfl
  | append_singleton l e ih =>
    rw [ofPairs_concat, filter_put, ih, List.filter_append, List.filter_cons, List.filter_nil]
    split_ifs with he
    · rw [ofPairs_concat]
    · rw [List.append_nil]

end Lookup

end Sorted

end RolloutPlan
