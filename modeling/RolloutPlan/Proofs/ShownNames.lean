import Mathlib.Tactic.SplitIfs
import RolloutPlan.Graph.Dot

/-!
# How service groups and steps are shown

A service group is a sequence of parts between dots. Drawings leave out the first four parts, which name
the organisation; a service group without any further part cannot be shown.

* `groupParts`, `shownGroup`: the parts of a service group, and what is shown of it.
* `shortenServiceGroup_eq`: a service group is shown when it has five parts at least.
* `shortenServiceGroup_exact`: four parts and the dots after them are left out, nothing else.
* `Identifier.shownName`, `Identifier.shownLabel`: how a step is named in a drawing and what its box says.
-/

namespace RolloutPlan

set_option autoImplicit false

/-! ## Service groups -/

/-- The parts of a service group, between its dots. -/
def groupParts (serviceGroup : String) : List (List Char) := serviceGroup.toList.splitOn '.'

/-- What is shown of a service group: its parts after those of the organisation. -/
def shownGroup (serviceGroup : String) : String :=
  String.ofList (['.'].intercalate ((groupParts serviceGroup).drop organisationParts))

/-- A service group has a part after those of the organisation. -/
def Showable (serviceGroup : String) : Prop := 5 ≤ (groupParts serviceGroup).length

instance (serviceGroup : String) : Decidable (Showable serviceGroup) :=
  inferInstanceAs (Decidable (5 ≤ (groupParts serviceGroup).length))

/-- Parts are dropped up to the dot that ends the last of them. -/
theorem dropParts?_eq (cs : List Char) : ∀ n, dropParts? n cs =
    if n < (cs.splitOn '.').length then some (['.'].intercalate ((cs.splitOn '.').drop n))
    else none := by
  induction cs with
  | nil =>
    intro n
    cases n with
    | zero => rfl
    | succ n => rw [dropParts?, if_neg (by simp)]
  | cons c cs ih =>
    intro n
    cases n with
    | zero =>
      have hpos : 0 < ((c :: cs).splitOn '.').length :=
        List.length_pos_iff.2 (List.splitOn_ne_nil _ _)
      rw [dropParts?, if_pos hpos, List.drop_zero, List.intercalate_splitOn]
    | succ n =>
      rw [dropParts?, List.splitOn_cons_eq_if_modifyHead]
      by_cases hdot : c = '.'
      · rw [if_pos hdot, if_pos (beq_iff_eq.2 hdot), ih n]
        simp
      · rw [if_neg hdot, if_neg (mt beq_iff_eq.1 hdot), ih (n + 1)]
        simp

theorem shortenServiceGroup_eq (serviceGroup : String) : shortenServiceGroup serviceGroup =
    if Showable serviceGroup then .ok (shownGroup serviceGroup)
    else .error (.shortServiceGroup serviceGroup) := by
  have hiff : organisationParts < (serviceGroup.toList.splitOn '.').length ↔
      Showable serviceGroup := Iff.rfl
  rw [shortenServiceGroup, dropParts?_eq]
  simp only [hiff]
  split_ifs <;> rfl

theorem intercalate_append {α : Type} {sep : List α} {l m : List (List α)} (hl : l ≠ [])
    (hm : m ≠ []) : sep.intercalate (l ++ m) = sep.intercalate l ++ sep ++ sep.intercalate m := by
  induction l with
  | nil => exact absurd rfl hl
  | cons a l ih =>
    rw [List.cons_append]
    cases l with
    | nil => rw [List.nil_append, List.intercalate_cons_of_ne_nil hm, List.intercalate_singleton]
    | cons b l =>
      rw [List.cons_append, List.intercalate_cons_cons, ← List.cons_append,
        ih (List.cons_ne_nil b l), List.intercalate_cons_cons]
      simp only [List.append_assoc]

/-- A service group is its organisation and what is shown of it. -/
theorem toList_eq_of_showable {serviceGroup : String} (h : Showable serviceGroup) :
    serviceGroup.toList = ['.'].intercalate ((groupParts serviceGroup).take organisationParts) ++
      '.' :: (shownGroup serviceGroup).toList := by
  have hlength : organisationParts < (groupParts serviceGroup).length := h
  have htake : (groupParts serviceGroup).take organisationParts ≠ [] := by
    rw [← List.length_pos_iff, List.length_take]
    exact Nat.lt_min.2 ⟨by decide, Nat.zero_lt_of_lt hlength⟩
  have hdrop : (groupParts serviceGroup).drop organisationParts ≠ [] := by
    rw [← List.length_pos_iff, List.length_drop]
    exact Nat.sub_pos_of_lt hlength
  have hwhole : ['.'].intercalate (groupParts serviceGroup) = serviceGroup.toList :=
    List.intercalate_splitOn '.'
  rw [← List.take_append_drop organisationParts (groupParts serviceGroup),
    intercalate_append htake hdrop] at hwhole
  rw [shownGroup, String.toList_ofList, ← hwhole, List.append_assoc]
  rfl

/-- Service groups of one organisation are told apart by what is shown of them. -/
theorem eq_of_shownGroup_eq {a b : String} (ha : Showable a) (hb : Showable b)
    (horganisation : (groupParts a).take organisationParts = (groupParts b).take organisationParts)
    (h : shownGroup a = shownGroup b) : a = b := by
  rw [← String.toList_inj, toList_eq_of_showable ha, toList_eq_of_showable hb, horganisation, h]

/-! ## Dropping parts -/

/-- One part more is dropped: what stands before a dot and has none in it. -/
theorem dropParts?_succ_eq_some_iff {n : Nat} {cs rest : List Char} :
    dropParts? (n + 1) cs = some rest ↔ ∃ part after, '.' ∉ part ∧ cs = part ++ '.' :: after ∧
      dropParts? n after = some rest := by
  induction cs with
  | nil => simp [dropParts?]
  | cons c cs ih =>
    by_cases hdot : c = '.'
    · -- the part is empty
      rw [dropParts?, if_pos hdot, hdot]
      constructor
      · exact fun h => ⟨[], cs, List.not_mem_nil, rfl, h⟩
      · rintro ⟨part, after, hpart, hcs, h⟩
        cases part with
        | nil => rwa [(List.cons.inj hcs).2]
        | cons d part => exact absurd ((List.cons.inj hcs).1 ▸ List.mem_cons_self) hpart
    · -- the part begins with this character
      rw [dropParts?, if_neg hdot, ih]
      constructor
      · rintro ⟨part, after, hpart, rfl, h⟩
        exact ⟨c :: part, after, List.not_mem_cons_of_ne_of_not_mem (Ne.symm hdot) hpart, rfl, h⟩
      · rintro ⟨part, after, hpart, hcs, h⟩
        cases part with
        | nil => exact absurd (List.cons.inj hcs).1 hdot
        | cons d part =>
          exact ⟨part, after, List.not_mem_of_not_mem_cons hpart, (List.cons.inj hcs).2, h⟩

@[simp] theorem dropParts?_zero (cs : List Char) : dropParts? 0 cs = some cs := by
  rw [dropParts?]

/-- Four parts are dropped, each up to a dot of its own. -/
theorem dropParts?_organisationParts_eq_some_iff {cs rest : List Char} :
    dropParts? organisationParts cs = some rest ↔ ∃ a b c d : List Char,
      ('.' ∉ a ∧ '.' ∉ b ∧ '.' ∉ c ∧ '.' ∉ d) ∧
        cs = a ++ '.' :: (b ++ '.' :: (c ++ '.' :: (d ++ '.' :: rest))) := by
  simp only [organisationParts, dropParts?_succ_eq_some_iff, dropParts?_zero, Option.some.injEq]
  constructor
  · rintro ⟨a, _, ha, rfl, b, _, hb, rfl, c, _, hc, rfl, d, _, hd, rfl, rfl⟩
    exact ⟨a, b, c, d, ⟨ha, hb, hc, hd⟩, rfl⟩
  · rintro ⟨a, b, c, d, ⟨ha, hb, hc, hd⟩, rfl⟩
    exact ⟨a, _, ha, rfl, b, _, hb, rfl, c, _, hc, rfl, d, _, hd, rfl, rfl⟩

/-- Nothing is left when there are fewer dots than parts to drop, and only then. -/
theorem dropParts?_eq_none_iff {n : Nat} {cs : List Char} :
    dropParts? n cs = none ↔ cs.count '.' < n := by
  fun_induction dropParts? n cs with
  | case1 cs => simp
  | case2 n => simp
  | case3 n cs ih => rw [ih, List.count_cons_self, Nat.add_lt_add_iff_right]
  | case4 n c cs hdot ih => rw [ih, List.count_cons_of_ne hdot]

theorem shortenServiceGroup_eq_ok_iff {s t : String} :
    shortenServiceGroup s = .ok t ↔ dropParts? organisationParts s.toList = some t.toList := by
  rw [shortenServiceGroup]
  cases dropParts? organisationParts s.toList with
  | none => simp
  | some cs => simp [← String.toList_inj]

theorem shortenServiceGroup_eq_error_iff {s : String} {e : GraphError} :
    shortenServiceGroup s = .error e ↔
      e = .shortServiceGroup s ∧ dropParts? organisationParts s.toList = none := by
  rw [shortenServiceGroup]
  cases dropParts? organisationParts s.toList with
  | none => simp [eq_comm]
  | some cs => simp

/-- What is shown of a text is what follows four parts without dots, each with a dot after it; any of them
may be empty, and so may be what follows. A text with fewer than four dots is refused, and the failure
carries it; there is no other failure. -/
theorem shortenServiceGroup_exact (s : String) :
    (∀ t, shortenServiceGroup s = .ok t ↔ ∃ a b c d : String,
      ('.' ∉ a.toList ∧ '.' ∉ b.toList ∧ '.' ∉ c.toList ∧ '.' ∉ d.toList) ∧
        s = a ++ "." ++ b ++ "." ++ c ++ "." ++ d ++ "." ++ t) ∧
    ∀ e, shortenServiceGroup s = .error e ↔ e = .shortServiceGroup s ∧ s.toList.count '.' < 4 := by
  constructor
  · intro t
    rw [shortenServiceGroup_eq_ok_iff, dropParts?_organisationParts_eq_some_iff]
    constructor
    · rintro ⟨a, b, c, d, hdots, hs⟩
      refine ⟨.ofList a, .ofList b, .ofList c, .ofList d, ?_, ?_⟩
      · simpa only [String.toList_ofList] using hdots
      · simp [← String.toList_inj, hs]
    · rintro ⟨a, b, c, d, hdots, rfl⟩
      exact ⟨a.toList, b.toList, c.toList, d.toList, hdots, by simp⟩
  · intro e
    rw [shortenServiceGroup_eq_error_iff, dropParts?_eq_none_iff]
    rfl

example : shortenServiceGroup "...." = .ok "" := rfl

example : shortenServiceGroup "a.b.c.d" = .error (.shortServiceGroup "a.b.c.d") := rfl

/-! ## Steps -/

namespace Identifier

/-- The name of a step in a drawing. -/
def shownName (i : Identifier) : String :=
  shownGroup i.serviceGroup ++ "_" ++ i.resourceGroup ++ "_" ++ i.step

/-- What the box of a step says. -/
def shownLabel (i : Identifier) : String :=
  shownGroup i.serviceGroup ++ "/" ++ i.resourceGroup ++ "/" ++ i.step

theorem toList_shownName (i : Identifier) : i.shownName.toList = (shownGroup i.serviceGroup).toList ++
    '_' :: (i.resourceGroup.toList ++ '_' :: i.step.toList) := by
  simp [shownName]

theorem toList_shownLabel (i : Identifier) : i.shownLabel.toList = (shownGroup i.serviceGroup).toList ++
    '/' :: (i.resourceGroup.toList ++ '/' :: i.step.toList) := by
  simp [shownLabel]

theorem drawingName_eq_ok_iff {i : Identifier} {name : String} :
    i.drawingName = .ok name ↔ Showable i.serviceGroup ∧ name = i.shownName := by
  rw [drawingName, shortenServiceGroup_eq]
  split_ifs with h
  · simp [h, shownName, bind, Except.bind, pure, Except.pure, eq_comm]
  · simp [h, bind, Except.bind]

theorem drawingLabel_eq_ok_iff {i : Identifier} {label : String} :
    i.drawingLabel = .ok label ↔ Showable i.serviceGroup ∧ label = i.shownLabel := by
  rw [drawingLabel, shortenServiceGroup_eq]
  split_ifs with h
  · simp [h, shownLabel, bind, Except.bind, pure, Except.pure, eq_comm]
  · simp [h, bind, Except.bind]

end Identifier

end RolloutPlan
