import Mathlib.Data.List.Dedup
import Mathlib.Data.String.Basic
import RolloutPlan.Proofs.Declarations

/-!
# Agreement and difference of targets

Whether two targets agree and in what they differ is decided by going over their parts twice. Both say the
same: targets agree when there is nothing to list, and what is listed are the parts that are not the same,
where the clouds, environments and regions of a constraint are sets.

* `TargetDifference.mem_between`, `between_eq_nil_iff`, `between_swap`: one part.
* `ResourceGroupTarget.comparedParts`: the parts of two targets in their order.
* `ResourceGroupTarget.DiffersIn`, `ResourceGroupTarget.textOf`: whether two targets differ in a part, and
  what a target says about it. `mem_differences`: this is what is listed.
* `ResourceGroupTarget.Restates`: the same target with its sets written in another way.
* `ResourceGroupTarget.writtenComparison`: the lines of a comparison, part by part. `comparison_eq`.
* `ResourceGroupTarget.agreement_and_differences`: agreement is an equivalence, and the comparison explains
  why targets do not agree.
-/

namespace RolloutPlan

set_option autoImplicit false

/-! ## One part -/

namespace TargetDifference

/-- A difference seen from the other side. -/
def swap (d : TargetDifference) : TargetDifference := ⟨d.part, d.incoming, d.recorded⟩

section Between
variable {α : Type} [DecidableEq α] {part : TargetPart} {text : α → String} {recorded incoming : α}

@[simp] theorem mem_between {d : TargetDifference} : d ∈ between part text recorded incoming ↔
    recorded ≠ incoming ∧ d = ⟨part, text recorded, text incoming⟩ := by
  unfold between
  split_ifs with h <;> simp [h]

@[simp]
theorem between_eq_nil_iff : between part text recorded incoming = [] ↔ recorded = incoming := by
  unfold between
  split_ifs with h <;> simp [h]

theorem between_swap (part : TargetPart) (text : α → String) (recorded incoming : α) :
    between part text incoming recorded = (between part text recorded incoming).map swap := by
  unfold between
  by_cases h : recorded = incoming
  · rw [if_pos h, if_pos h.symm]
    rfl
  · rw [if_neg h, if_neg (Ne.symm h)]
    rfl

theorem parts_between_sublist :
    ((between part text recorded incoming).map TargetDifference.part).Sublist [part] := by
  unfold between
  split_ifs with h
  · exact List.nil_sublist _
  · exact List.Sublist.refl _

end Between

/-! ## Constraints -/

/-- The parts of the constraint at a place. -/
def constraintParts (index : Nat) : List TargetPart :=
  [.singleton index, .clouds index, .environments index, .regions index]

section Constraints
variable {index : Nat} {a b : ExecutionConstraint} {l m : List ExecutionConstraint}

theorem mem_ofConstraints {d : TargetDifference} : d ∈ ofConstraints index a b ↔
    a.singleton ≠ b.singleton ∧
        d = ⟨.singleton index, flagText a.singleton, flagText b.singleton⟩ ∨
      ¬ (∀ s, s ∈ a.clouds ↔ s ∈ b.clouds) ∧
        d = ⟨.clouds index, setText (Sorted.ofList a.clouds), setText (Sorted.ofList b.clouds)⟩ ∨
      ¬ (∀ s, s ∈ a.environments ↔ s ∈ b.environments) ∧
        d = ⟨.environments index, setText (Sorted.ofList a.environments),
          setText (Sorted.ofList b.environments)⟩ ∨
      ¬ (∀ s, s ∈ a.regions ↔ s ∈ b.regions) ∧
        d = ⟨.regions index, setText (Sorted.ofList a.regions),
          setText (Sorted.ofList b.regions)⟩ := by
  simp only [ofConstraints, List.mem_append, mem_between, Ne, Sorted.ofList_eq_iff, or_assoc]

theorem ofConstraints_eq_nil_iff : ofConstraints index a b = [] ↔ a.agrees b := by
  simp [ofConstraints, ExecutionConstraint.agrees, and_assoc]

theorem ofConstraints_swap (index : Nat) (a b : ExecutionConstraint) :
    ofConstraints index b a = (ofConstraints index a b).map swap := by
  simp only [ofConstraints, List.map_append, ← between_swap]

theorem parts_ofConstraints_sublist :
    ((ofConstraints index a b).map TargetDifference.part).Sublist (constraintParts index) := by
  simp only [ofConstraints, List.map_append]
  exact ((parts_between_sublist.append parts_between_sublist).append parts_between_sublist).append
    parts_between_sublist

/-- Constraints are compared at the places that both lists have. -/
theorem mem_ofConstraintLists {d : TargetDifference} : d ∈ ofConstraintLists index l m ↔
    ∃ i x y, l[i]? = some x ∧ m[i]? = some y ∧ d ∈ ofConstraints (index + i) x y := by
  induction l generalizing index m with
  | nil => simp [ofConstraintLists]
  | cons a l ih =>
    cases m with
    | nil => simp [ofConstraintLists]
    | cons b m =>
      rw [ofConstraintLists, List.mem_append, ih]
      constructor
      · rintro (h | ⟨i, x, y, hx, hy, h⟩)
        · exact ⟨0, a, b, rfl, rfl, h⟩
        · refine ⟨i + 1, x, y, hx, hy, ?_⟩
          rwa [Nat.add_comm i 1, ← Nat.add_assoc]
      · rintro ⟨i, x, y, hx, hy, h⟩
        cases i with
        | zero =>
          obtain rfl := Option.some.inj hx
          obtain rfl := Option.some.inj hy
          exact .inl h
        | succ i =>
          refine .inr ⟨i, x, y, hx, hy, ?_⟩
          rwa [Nat.add_assoc, Nat.add_comm 1 i]

theorem ofConstraintLists_eq_nil_iff :
    ofConstraintLists index l m = [] ↔ ∀ e ∈ l.zip m, e.1.agrees e.2 := by
  induction l generalizing index m with
  | nil => simp [ofConstraintLists]
  | cons a l ih =>
    cases m with
    | nil => simp [ofConstraintLists]
    | cons b m =>
      rw [ofConstraintLists, List.append_eq_nil_iff, ofConstraints_eq_nil_iff, ih, List.zip_cons_cons,
        List.forall_mem_cons]

theorem ofConstraintLists_swap (index : Nat) (l m : List ExecutionConstraint) :
    ofConstraintLists index m l = (ofConstraintLists index l m).map swap := by
  induction l generalizing index m with
  | nil => cases m <;> rfl
  | cons a l ih =>
    cases m with
    | nil => rfl
    | cons b m =>
      rw [ofConstraintLists, ofConstraintLists, List.map_append, ih, ofConstraints_swap]

theorem parts_ofConstraintLists_sublist :
    ((ofConstraintLists index l m).map TargetDifference.part).Sublist
      ((List.range' index (min l.length m.length)).flatMap constraintParts) := by
  induction l generalizing index m with
  | nil => exact List.nil_sublist _
  | cons a l ih =>
    cases m with
    | nil => exact List.nil_sublist _
    | cons b m =>
      have hlength : min (a :: l).length (b :: m).length = min l.length m.length + 1 :=
        (Nat.add_min_add_right _ _ 1)
      rw [ofConstraintLists, List.map_append, hlength, List.range'_succ, List.flatMap_cons]
      exact parts_ofConstraints_sublist.append ih

end Constraints

end TargetDifference

/-- The same constraint, with the entries of its sets in another order or repeated. -/
structure ExecutionConstraint.Restates (x y : ExecutionConstraint) : Prop where
  singleton : x.singleton = y.singleton
  clouds : ∀ s, s ∈ x.clouds ↔ s ∈ y.clouds
  environments : ∀ s, s ∈ x.environments ↔ s ∈ y.environments
  regions : ∀ s, s ∈ x.regions ↔ s ∈ y.regions

theorem ExecutionConstraint.Restates.normal_eq {x y : ExecutionConstraint} (h : x.Restates y) :
    x.normal = y.normal := by
  simp only [normal, h.singleton, Sorted.ofList_eq_iff.2 h.clouds,
    Sorted.ofList_eq_iff.2 h.environments, Sorted.ofList_eq_iff.2 h.regions]

/-! ## Targets -/

namespace ResourceGroupTarget

open TargetDifference

variable {a b c : ResourceGroupTarget}

/-- The parts that two targets are compared in. -/
def comparedParts (a b : ResourceGroupTarget) : List TargetPart :=
  [.name, .resourceGroup, .subscription, .constraintCount] ++
    (List.range (min a.executionConstraints.length b.executionConstraints.length)).flatMap
      constraintParts

/-- Whether both targets have a constraint at a place, and these are in some relation. -/
def AtConstraint (a b : ResourceGroupTarget) (index : Nat)
    (p : ExecutionConstraint → ExecutionConstraint → Prop) : Prop :=
  ∃ x y, a.executionConstraints[index]? = some x ∧ b.executionConstraints[index]? = some y ∧ p x y

/-- Whether two targets are not the same in a part. -/
def DiffersIn (a b : ResourceGroupTarget) : TargetPart → Prop
  | .name => a.name ≠ b.name
  | .resourceGroup => a.resourceGroup ≠ b.resourceGroup
  | .subscription => a.subscription ≠ b.subscription
  | .constraintCount => a.executionConstraints.length ≠ b.executionConstraints.length
  | .singleton index => a.AtConstraint b index fun x y => x.singleton ≠ y.singleton
  | .clouds index => a.AtConstraint b index fun x y => ¬ ∀ s, s ∈ x.clouds ↔ s ∈ y.clouds
  | .environments index =>
    a.AtConstraint b index fun x y => ¬ ∀ s, s ∈ x.environments ↔ s ∈ y.environments
  | .regions index => a.AtConstraint b index fun x y => ¬ ∀ s, s ∈ x.regions ↔ s ∈ y.regions

/-- What a target says about one of its constraints. -/
def textAt (a : ResourceGroupTarget) (index : Nat) (text : ExecutionConstraint → String) : String :=
  a.executionConstraints[index]?.elim "" text

/-- What a target says about a part. -/
def textOf (a : ResourceGroupTarget) : TargetPart → String
  | .name => nameText a.name
  | .resourceGroup => nameText a.resourceGroup
  | .subscription => nameText a.subscription
  | .constraintCount => countText a.executionConstraints.length
  | .singleton index => a.textAt index fun x => flagText x.singleton
  | .clouds index => a.textAt index fun x => setText (Sorted.ofList x.clouds)
  | .environments index => a.textAt index fun x => setText (Sorted.ofList x.environments)
  | .regions index => a.textAt index fun x => setText (Sorted.ofList x.regions)

theorem mem_differences {d : TargetDifference} : d ∈ differences a b ↔
    a.DiffersIn b d.part ∧ d = ⟨d.part, a.textOf d.part, b.textOf d.part⟩ := by
  simp only [differences, List.mem_append, mem_between, mem_ofConstraintLists, mem_ofConstraints,
    Nat.zero_add]
  constructor
  · rintro ((((⟨h, rfl⟩ | ⟨h, rfl⟩) | ⟨h, rfl⟩) | ⟨h, rfl⟩) |
      ⟨i, x, y, hx, hy, ⟨h, rfl⟩ | ⟨h, rfl⟩ | ⟨h, rfl⟩ | ⟨h, rfl⟩⟩)
    · exact ⟨h, rfl⟩
    · exact ⟨h, rfl⟩
    · exact ⟨h, rfl⟩
    · exact ⟨h, rfl⟩
    all_goals exact ⟨⟨x, y, hx, hy, h⟩, by simp [textOf, textAt, hx, hy]⟩
  · obtain ⟨part, recorded, incoming⟩ := d
    simp only [TargetDifference.mk.injEq, true_and]
    rintro ⟨h, rfl, rfl⟩
    cases part with
    | name => exact .inl (.inl (.inl (.inl ⟨h, rfl, rfl, rfl⟩)))
    | resourceGroup => exact .inl (.inl (.inl (.inr ⟨h, rfl, rfl, rfl⟩)))
    | subscription => exact .inl (.inl (.inr ⟨h, rfl, rfl, rfl⟩))
    | constraintCount => exact .inl (.inr ⟨h, rfl, rfl, rfl⟩)
    | singleton i =>
      obtain ⟨x, y, hx, hy, h⟩ := h
      exact .inr ⟨i, x, y, hx, hy, .inl ⟨h, by simp [textOf, textAt, hx, hy]⟩⟩
    | clouds i =>
      obtain ⟨x, y, hx, hy, h⟩ := h
      exact .inr ⟨i, x, y, hx, hy, .inr (.inl ⟨h, by simp [textOf, textAt, hx, hy]⟩)⟩
    | environments i =>
      obtain ⟨x, y, hx, hy, h⟩ := h
      exact .inr ⟨i, x, y, hx, hy, .inr (.inr (.inl ⟨h, by simp [textOf, textAt, hx, hy]⟩))⟩
    | regions i =>
      obtain ⟨x, y, hx, hy, h⟩ := h
      exact .inr ⟨i, x, y, hx, hy, .inr (.inr (.inr ⟨h, by simp [textOf, textAt, hx, hy]⟩))⟩

theorem agrees_iff_differences_eq_nil : a.agrees b ↔ differences a b = [] := by
  simp [agrees, differences, ofConstraintLists_eq_nil_iff, and_assoc]

theorem differences_swap (a b : ResourceGroupTarget) :
    differences b a = (differences a b).map swap := by
  simp only [differences, List.map_append, ← between_swap, ← ofConstraintLists_swap]

theorem parts_differences_sublist :
    ((differences a b).map TargetDifference.part).Sublist (a.comparedParts b) := by
  simp only [differences, List.map_append, comparedParts, List.range_eq_range']
  refine List.Sublist.append ?_ parts_ofConstraintLists_sublist
  exact ((parts_between_sublist.append parts_between_sublist).append parts_between_sublist).append
    parts_between_sublist

theorem nodup_comparedParts (a b : ResourceGroupTarget) : (a.comparedParts b).Nodup := by
  have hconstraints (n : Nat) : ((List.range n).flatMap constraintParts).Nodup := by
    refine List.nodup_flatMap.2 ⟨fun i _ => by simp [constraintParts], ?_⟩
    refine List.nodup_range.imp fun {i j} hij => ?_
    simp [List.Disjoint, constraintParts, hij]
  refine List.nodup_append.2 ⟨by decide, hconstraints _, ?_⟩
  rintro p hp q hq rfl
  obtain ⟨i, -, hi⟩ := List.mem_flatMap.1 hq
  simp only [constraintParts, List.mem_cons, List.not_mem_nil, or_false] at hi
  rcases hi with rfl | rfl | rfl | rfl <;> simp at hp

/-- Nothing but the beginning and the end is written when there are no differences. -/
theorem comparison_eq_iff : comparison a b = "  ResourceGroupMeta\x7b\n  \x7d" ↔
    differences a b = [] := by
  unfold comparison
  cases differences a b with
  | nil => exact iff_of_true (by decide) rfl
  | cons d l =>
    refine iff_of_false (fun heq => ?_) (List.cons_ne_nil d l)
    have hchars := congrArg String.toList heq
    simp [String.toList_intercalate, TargetDifference.lines] at hchars

/-! ## Other ways of writing a target -/

/-- The same target, with its constraints written in another way. -/
structure Restates (a b : ResourceGroupTarget) : Prop where
  name : a.name = b.name
  resourceGroup : a.resourceGroup = b.resourceGroup
  subscription : a.subscription = b.subscription
  constraints : List.Forall₂ ExecutionConstraint.Restates a.executionConstraints
    b.executionConstraints

theorem Restates.normal_eq (h : a.Restates b) : a.normal = b.normal := by
  have hconstraints : a.executionConstraints.map ExecutionConstraint.normal =
      b.executionConstraints.map ExecutionConstraint.normal := by
    rw [← List.forall₂_eq_eq_eq, List.forall₂_map_left_iff, List.forall₂_map_right_iff]
    exact h.constraints.imp fun _ _ hxy => hxy.normal_eq
  simp only [normal, h.name, h.resourceGroup, h.subscription, hconstraints]

theorem equivalence_agrees : Equivalence fun a b : ResourceGroupTarget => a.agrees b = true where
  refl _ := agrees_iff.2 rfl
  symm h := agrees_iff.2 (agrees_iff.1 h).symm
  trans h h' := agrees_iff.2 ((agrees_iff.1 h).trans (agrees_iff.1 h'))

theorem Restates.agrees_eq (h : a.Restates b) (c : ResourceGroupTarget) :
    a.agrees c = b.agrees c ∧ c.agrees a = c.agrees b := by
  constructor
  · rw [Bool.eq_iff_iff, agrees_iff, agrees_iff, h.normal_eq]
  · rw [Bool.eq_iff_iff, agrees_iff, agrees_iff, h.normal_eq]

/-! ## The written comparison -/

/-- A set as it is written: every entry once, in increasing order. -/
def entriesText (l : List String) : String :=
  "[" ++ ", ".intercalate (l.dedup.mergeSort fun a b => a ≤ b) ++ "]"

/-- What a target says about a part, on one line. -/
def lineOf (a : ResourceGroupTarget) : TargetPart → String
  | .name => "name: " ++ Text.quote a.name ++ ","
  | .resourceGroup => "resourceGroup: " ++ Text.quote a.resourceGroup ++ ","
  | .subscription => "subscription: " ++ Text.quote a.subscription ++ ","
  | .constraintCount =>
    "executionConstraints: " ++ toString a.executionConstraints.length ++ " entries"
  | .singleton index => "executionConstraints[" ++ toString index ++ "].singleton: " ++
      a.textAt index fun x => if x.singleton then "true" else "false"
  | .clouds index => "executionConstraints[" ++ toString index ++ "].clouds: " ++
      a.textAt index fun x => entriesText x.clouds
  | .environments index => "executionConstraints[" ++ toString index ++ "].environments: " ++
      a.textAt index fun x => entriesText x.environments
  | .regions index => "executionConstraints[" ++ toString index ++ "].regions: " ++
      a.textAt index fun x => entriesText x.regions

/-- Two lines for each of some parts, the recorded side first, between a first and a last line. -/
def writtenComparison (recorded incoming : ResourceGroupTarget) (parts : List TargetPart) : String :=
  "\n".intercalate ("  ResourceGroupMeta\x7b" :: ((parts.flatMap fun part =>
    ["-   " ++ recorded.lineOf part, "+   " ++ incoming.lineOf part]) ++ ["  \x7d"]))

@[simp] theorem setText_ofList (l : List String) : setText (Sorted.ofList l) = entriesText l := by
  have hperm := List.mergeSort_perm l.dedup fun a b => decide (a ≤ b)
  have hle : (l.dedup.mergeSort fun a b => a ≤ b).Pairwise fun a b => decide (a ≤ b) = true := by
    refine List.pairwise_mergeSort (fun a b c hab hbc => ?_) (fun a b => ?_) _
    · simp only [decide_eq_true_eq] at hab hbc ⊢
      exact le_trans hab hbc
    · simp only [Bool.or_eq_true, decide_eq_true_eq]
      exact le_total a b
  have hlt : (l.dedup.mergeSort fun a b => a ≤ b).Pairwise (· < ·) :=
    (hle.and (hperm.nodup_iff.2 l.nodup_dedup)).imp fun h =>
      lt_of_le_of_ne (of_decide_eq_true h.1) h.2
  have heq : Sorted.ofList l = l.dedup.mergeSort fun a b => a ≤ b := by
    refine Sorted.eq_of_mem_iff (Sorted.pairwise_ofList l) hlt fun s => ?_
    rw [Sorted.mem_ofList, hperm.mem_iff, List.mem_dedup]
  rw [setText, entriesText, heq]

theorem label_append_textOf (a : ResourceGroupTarget) (part : TargetPart) :
    part.label ++ ": " ++ a.textOf part = a.lineOf part := by
  have hflag (b : Bool) : flagText b = if b then "true" else "false" := by
    cases b <;> simp [flagText, toString]
  have hlabel (index : Nat) : TargetPart.constraintLabel index =
      "executionConstraints[" ++ toString index ++ "]" := by
    delta TargetPart.constraintLabel
    exact Eq.refl _
  rw [← String.toList_inj, lineOf.eq_def]
  cases part <;>
    simp [TargetPart.label, hlabel, textOf, nameText, countText, hflag]

theorem comparison_eq (a b : ResourceGroupTarget) :
    comparison a b = writtenComparison a b ((differences a b).map TargetDifference.part) := by
  have hlines : ∀ d ∈ differences a b, d.lines =
      ["-   " ++ a.lineOf d.part, "+   " ++ b.lineOf d.part] := by
    intro d hd
    obtain ⟨-, heq⟩ := mem_differences.1 hd
    rw [← label_append_textOf, ← label_append_textOf, TargetDifference.lines]
    conv_lhs => rw [heq]
    simp only [String.append_assoc]
  rw [comparison, writtenComparison, List.flatMap_map, List.flatMap_congr hlines]

/-! ## Agreement and differences -/

/-- These are the parts in which two targets differ, each once and in the order of comparison. -/
structure DifferIn (a b : ResourceGroupTarget) (parts : List TargetPart) : Prop where
  ordered : parts.Sublist (a.comparedParts b)
  nodup : parts.Nodup
  mem_iff : ∀ part, part ∈ parts ↔ a.DiffersIn b part

theorem differIn_differences (a b : ResourceGroupTarget) :
    a.DifferIn b ((differences a b).map TargetDifference.part) where
  ordered := parts_differences_sublist
  nodup := (nodup_comparedParts a b).sublist parts_differences_sublist
  mem_iff part := by
    constructor
    · intro h
      obtain ⟨d, hd, rfl⟩ := List.mem_map.1 h
      exact (mem_differences.1 hd).1
    · intro h
      have hd : ⟨part, a.textOf part, b.textOf part⟩ ∈ differences a b :=
        mem_differences.2 ⟨h, rfl⟩
      exact List.mem_map.2 ⟨_, hd, rfl⟩

/-- Whether targets agree, and what is written of those that do not. -/
structure AgreementAndDifferences : Prop where
  equivalence : Equivalence fun a b : ResourceGroupTarget => a.agrees b = true
  /-- Agreement does not depend on how sets are written. -/
  restated : ∀ a b c : ResourceGroupTarget, a.Restates b →
    a.agrees c = b.agrees c ∧ c.agrees a = c.agrees b
  agrees_iff : ∀ a b, a.agrees b ↔ comparison a b = "  ResourceGroupMeta\x7b\n  \x7d"
  /-- A comparison has two lines for each part in which targets differ. The other way round it has the same
  parts, with the sides exchanged. -/
  written : ∀ a b, ∃ parts, a.DifferIn b parts ∧
    comparison a b = writtenComparison a b parts ∧ comparison b a = writtenComparison b a parts

/-- Agreement of targets is an equivalence that does not depend on how sets are written. Targets agree when
nothing is written between the first and the last line of their comparison, which otherwise says part by
part in what they differ. -/
theorem agreement_and_differences : AgreementAndDifferences where
  equivalence := equivalence_agrees
  restated _ _ c h := h.agrees_eq c
  agrees_iff a b := by
    rw [comparison_eq_iff, agrees_iff_differences_eq_nil]
  written a b := by
    refine ⟨_, differIn_differences a b, comparison_eq a b, ?_⟩
    rw [comparison_eq, differences_swap, List.map_map]
    rfl

/-- Where a zone is deployed to. -/
def zoneTarget : ResourceGroupTarget where
  name := "zone"
  resourceGroup := "zone-rg"
  subscription := "main"
  executionConstraints := [
    { clouds := ["public", "fairfax"], regions := ["east", "west"] }, { singleton := true }]

/-- The same place, with its sets written in another way. -/
def restatedZoneTarget : ResourceGroupTarget where
  name := "zone"
  resourceGroup := "zone-rg"
  subscription := "main"
  executionConstraints := [
    { clouds := ["fairfax", "public", "fairfax"], regions := ["west", "east", "east"] },
    { singleton := true }]

theorem zoneTarget_restates : zoneTarget.Restates restatedZoneTarget where
  name := rfl
  resourceGroup := rfl
  subscription := rfl
  constraints := by
    refine .cons ⟨rfl, ?_, ?_, ?_⟩ (.cons ⟨rfl, ?_, ?_, ?_⟩ .nil)
    all_goals intro s
    all_goals simp only [List.mem_cons, List.not_mem_nil]
    all_goals tauto

theorem restatedZoneTarget_agrees :
    zoneTarget.Restates restatedZoneTarget ∧
      zoneTarget.agrees zoneTarget = restatedZoneTarget.agrees zoneTarget ∧
      comparison zoneTarget restatedZoneTarget = "  ResourceGroupMeta\x7b\n  \x7d" := by
  obtain ⟨hequivalence, hrestated, hagrees, -⟩ := agreement_and_differences
  obtain ⟨heq, -⟩ := hrestated zoneTarget restatedZoneTarget zoneTarget zoneTarget_restates
  refine ⟨zoneTarget_restates, heq, (hagrees _ _).1 (hequivalence.symm ?_)⟩
  rw [← heq]
  exact hequivalence.refl zoneTarget

end ResourceGroupTarget

end RolloutPlan
