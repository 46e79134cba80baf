import Mathlib.Data.List.Induction
import Mathlib.Data.List.Nodup
import Mathlib.Tactic.SplitIfs
import Mathlib.Tactic.Tauto

/-!
# The first of several objections

A check asks one thing after the other and fails at the first one that is wrong. Here everything that is
wrong is listed in the order in which it is asked, without the state that a check carries along.

* `objectIf`, `withEarlier`: an objection under a condition; the objections to the elements of a list,
  each of which is seen with the elements before it.
* `Checks`: a computation fails with the first of some objections, and without any it returns something
  that has a property.
* `Checks.bind`, `Checks.run`, `Checks.forM`, `Checks.mapM`: one check after the other, and loops.
* `withEarlier_eq_nil_iff`, `withEarlier_objectIf_mem_eq_nil_iff`: nothing is wrong.
  `head?_withEarlier_eq_some`, `eq_nil_of_head?_append`: what is wrong first.
-/

namespace RolloutPlan

set_option autoImplicit false

variable {ε α β σ : Type}

/-! ## Objections -/

/-- An objection under a condition. -/
def objectIf (c : Prop) [Decidable c] (e : ε) : List ε := if c then [e] else []

/-- What is said about the elements of a list, each of which is seen with those before it. -/
def withEarlier (f : List α → α → List β) : List α → List α → List β
  | _, [] => []
  | earlier, a :: l => f earlier a ++ withEarlier f (earlier ++ [a]) l

@[simp] theorem mem_objectIf {c : Prop} [Decidable c] {e e' : ε} : e' ∈ objectIf c e ↔ c ∧ e' = e := by
  unfold objectIf
  split_ifs with hc <;> simp [hc]

@[simp] theorem objectIf_eq_nil_iff {c : Prop} [Decidable c] {e : ε} : objectIf c e = [] ↔ ¬ c := by
  unfold objectIf
  split_ifs with hc <;> simp [hc]

/-- What is not said first of all is said after nothing. -/
theorem eq_nil_of_head?_append {b : β} {l m : List β} (h : (l ++ m).head? = some b) (hb : b ∉ l) :
    l = [] ∧ m.head? = some b := by
  cases l with
  | nil => exact ⟨rfl, h⟩
  | cons a l =>
    rw [List.cons_append, List.head?_cons] at h
    exact absurd (Option.some.inj h ▸ List.mem_cons_self) hb

theorem withEarlier_append (f : List α → α → List β) (l m : List α) : ∀ earlier : List α,
    withEarlier f earlier (l ++ m) = withEarlier f earlier l ++ withEarlier f (earlier ++ l) m := by
  induction l with
  | nil =>
    intro earlier
    simp [withEarlier]
  | cons a l ih =>
    intro earlier
    simp [withEarlier, ih]

theorem mem_withEarlier {f : List α → α → List β} {b : β} {l : List α} : ∀ {earlier : List α},
    b ∈ withEarlier f earlier l ↔ ∃ l₁ a l₂, l = l₁ ++ a :: l₂ ∧ b ∈ f (earlier ++ l₁) a := by
  induction l with
  | nil =>
    intro earlier
    simp [withEarlier]
  | cons a l ih =>
    intro earlier
    rw [withEarlier, List.mem_append, ih]
    constructor
    · rintro (h | ⟨l₁, a', l₂, rfl, h⟩)
      · exact ⟨[], a, l, rfl, by rwa [List.append_nil]⟩
      · exact ⟨a :: l₁, a', l₂, rfl, by rwa [List.append_cons]⟩
    · rintro ⟨l₁, a', l₂, heq, h⟩
      rcases List.cons_eq_append_iff.1 heq with ⟨rfl, heq⟩ | ⟨l₁, rfl, rfl⟩
      · obtain ⟨rfl, rfl⟩ := List.cons.inj heq
        exact .inl (by rwa [List.append_nil] at h)
      · exact .inr ⟨l₁, a', l₂, rfl, by rwa [List.append_cons] at h⟩

/-- The first thing that is said is the first one about an element before which nothing is said. -/
theorem head?_withEarlier_eq_some {f : List α → α → List β} {b : β} {l : List α} :
    ∀ {earlier : List α}, (withEarlier f earlier l).head? = some b →
      ∃ l₁ a l₂, l = l₁ ++ a :: l₂ ∧ withEarlier f earlier l₁ = [] ∧
        (f (earlier ++ l₁) a).head? = some b := by
  induction l with
  | nil =>
    intro earlier h
    cases h
  | cons a l ih =>
    intro earlier h
    rw [withEarlier] at h
    cases ha : f earlier a with
    | nil =>
      rw [ha, List.nil_append] at h
      obtain ⟨l₁, a', l₂, rfl, hnone, h⟩ := ih h
      exact ⟨a :: l₁, a', l₂, rfl, by rw [withEarlier, ha, hnone, List.nil_append],
        by rwa [List.append_cons]⟩
    | cons b' rest =>
      rw [ha, List.cons_append, List.head?_cons] at h
      exact ⟨[], a, l, rfl, rfl, by rw [List.append_nil, ha, List.head?_cons, h]⟩

theorem withEarlier_eq_nil_iff {f : List α → α → List β} {earlier l : List α} :
    withEarlier f earlier l = [] ↔
      ∀ l₁ a l₂, l = l₁ ++ a :: l₂ → f (earlier ++ l₁) a = [] := by
  simp only [List.eq_nil_iff_forall_not_mem, mem_withEarlier, not_exists, not_and]
  constructor
  · intro h l₁ a l₂ heq b
    exact h b l₁ a l₂ heq
  · intro h b l₁ a l₂ heq
    exact h l₁ a l₂ heq b

/-- Elements are told apart by a key when none has the key of one before it. -/
theorem nodup_map_iff {κ : Type} {key : α → κ} {l : List α} :
    (l.map key).Nodup ↔ ∀ l₁ a l₂, l = l₁ ++ a :: l₂ → key a ∉ l₁.map key := by
  constructor
  · rintro h l₁ a l₂ rfl ha
    rw [List.map_append, List.nodup_append] at h
    exact h.2.2 _ ha _ (by simp) rfl
  · intro h
    induction l using List.reverseRecOn with
    | nil => exact .nil
    | append_singleton l a ih =>
      rw [List.map_append, List.map_singleton]
      refine List.nodup_append.2 ⟨ih ?_, List.nodup_singleton _, ?_⟩
      · rintro l₁ b l₂ rfl
        exact h l₁ b (l₂ ++ [a]) (by simp)
      · rintro k hk _ hk' rfl
        exact h l a [] rfl (List.mem_singleton.1 hk' ▸ hk)

/-- Nothing is said against repetitions when there are none. -/
theorem withEarlier_objectIf_mem_eq_nil_iff {κ : Type} [DecidableEq κ] (key : α → κ) (e : α → ε)
    {l : List α} : withEarlier (fun earlier a => objectIf (key a ∈ earlier.map key) (e a)) [] l = [] ↔
      (l.map key).Nodup := by
  simp only [withEarlier_eq_nil_iff, objectIf_eq_nil_iff, List.nil_append, nodup_map_iff]

/-! ## Checks -/

/-- A computation fails with the first of some objections. Without any it returns, and what it returns
has a property. -/
structure Checks (x : Except ε α) (objections : List ε) (P : α → Prop) : Prop where
  error_iff : ∀ e, x = .error e ↔ objections.head? = some e
  property : ∀ a, x = .ok a → P a

namespace Checks
variable {x : Except ε α} {l m : List ε} {P Q : α → Prop} {R : β → Prop}

theorem ok {a : α} (h : P a) : Checks (.ok a : Except ε α) [] P := by
  refine ⟨by simp, ?_⟩
  intro b hb
  obtain rfl := Except.ok.inj hb
  exact h

theorem error (e : ε) (l : List ε) : Checks (.error e : Except ε α) (e :: l) P :=
  ⟨by simp, by simp⟩

theorem of_property (h : Checks x l Q) (hP : ∀ a, x = .ok a → P a) : Checks x l P :=
  ⟨h.error_iff, hP⟩

theorem mono (h : Checks x l Q) (hP : ∀ a, Q a → P a) : Checks x l P :=
  h.of_property fun a ha => hP a (h.property a ha)

theorem and_property (h : Checks x l P) (hQ : ∀ a, x = .ok a → Q a) :
    Checks x l fun a => Q a ∧ P a :=
  h.of_property fun a ha => ⟨hQ a ha, h.property a ha⟩

theorem exists_ok_iff (h : Checks x l P) : (∃ a, x = .ok a) ↔ l = [] := by
  cases x with
  | ok a =>
    cases l with
    | nil => simp
    | cons e l => cases (h.error_iff e).2 rfl
  | error e =>
    cases l with
    | nil => cases (h.error_iff e).1 rfl
    | cons e l => simp

theorem mem_of_error (h : Checks x l P) {e : ε} (he : x = .error e) : e ∈ l :=
  List.mem_of_mem_head? ((h.error_iff e).1 he)

theorem bind {f : α → Except ε β} (hx : Checks x l Q) (hf : ∀ a, Q a → Checks (f a) m R) :
    Checks (x >>= f) (l ++ m) R := by
  cases x with
  | ok a =>
    obtain rfl := hx.exists_ok_iff.1 ⟨a, rfl⟩
    exact hf a (hx.property a rfl)
  | error e =>
    obtain ⟨l, rfl⟩ := List.head?_eq_some_iff.1 ((hx.error_iff e).1 rfl)
    exact error e (l ++ m)

/-- What comes after a check may have nothing to object to. -/
theorem bind_ok {f : α → Except ε β} (hx : Checks x l Q) (hf : ∀ a, Q a → Checks (f a) [] R) :
    Checks (x >>= f) l R := by
  rw [← List.append_nil l]
  exact hx.bind hf

/-- What a computation does first may fail, and then the rest of it is checked. -/
theorem guard {c : Prop} [Decidable c] {e : ε} (hx : ¬ c → Checks x l P) :
    Checks (if c then .error e else x) (objectIf c e ++ l) P := by
  unfold objectIf
  split_ifs with hc
  · exact error e l
  · exact hx hc

/-! ## Loops -/

/-- A loop that keeps up a description of its state by the elements that it has gone through. -/
theorem run (D : List α → σ → Prop) (step : σ → α → Except ε σ) {f : List α → α → List ε}
    {go : σ → List α → Except ε σ} (hnil : ∀ s, go s [] = .ok s)
    (hcons : ∀ s a l, go s (a :: l) = step s a >>= fun s' => go s' l)
    (hstep : ∀ earlier s a, D earlier s → Checks (step s a) (f earlier a) (D (earlier ++ [a]))) :
    ∀ {l earlier : List α} {s : σ}, D earlier s →
      Checks (go s l) (withEarlier f earlier l) (D (earlier ++ l))
  | [], earlier, s, hs => by
    rw [hnil, List.append_nil]
    exact ok hs
  | a :: l, earlier, s, hs => by
    rw [hcons, List.append_cons]
    exact (hstep earlier s a hs).bind fun s' hs' => run D step hnil hcons hstep hs'

theorem forM {f : α → Except ε Unit} {objections : α → List ε} : ∀ {l : List α},
    (∀ a ∈ l, Checks (f a) (objections a) fun _ => True) →
      Checks (l.forM f) (l.flatMap objections) fun _ => True
  | [], _ => ok trivial
  | a :: _, h =>
    (h a List.mem_cons_self).bind fun _ _ => forM fun b hb => h b (List.mem_cons_of_mem a hb)

theorem mapM {f : α → Except ε β} {objections : α → List ε} : ∀ {l : List α},
    (∀ a ∈ l, Checks (f a) (objections a) fun _ => True) →
      Checks (l.mapM f) (l.flatMap objections) fun _ => True
  | [], _ => ok trivial
  | a :: l, h => by
    rw [List.mapM_cons, List.flatMap_cons]
    exact (h a List.mem_cons_self).bind fun _ _ =>
      (mapM fun b hb => h b (List.mem_cons_of_mem a hb)).bind_ok fun _ _ => ok trivial

end Checks

end RolloutPlan
