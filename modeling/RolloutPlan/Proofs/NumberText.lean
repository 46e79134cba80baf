import RolloutPlan.Yaml.Scalar

/-!
# Texts of integers

An integer that is written in decimal digits is read back as the same integer: the text is neither null
nor a truth value, it has no mark of another base and no leading zero.

* `digits?_toDigits`: the digits of a number have its value.
* `integerOfText?_toString`: the text of an integer is read as that integer.
* `plainDatum?_toString`: so is the plain scalar with that text, if 64 bits are enough for it.
-/

namespace RolloutPlan.Yaml

set_option autoImplicit false

/-! ## Digits -/

theorem digitIn?_ten {c : Char} (hc : c.isDigit) : digitIn? 10 c = some (c.toNat - '0'.toNat) := by
  obtain ⟨hzero, hnine⟩ := Char.isDigit_iff_toNat.1 hc
  have hrange : '0' ≤ c ∧ c ≤ '9' := ⟨hzero, hnine⟩
  have hlt : c.toNat - 48 < 10 := by
    have : '9'.toNat = 57 := rfl
    omega
  simp only [digitIn?, Text.hexValue?, if_pos hrange, Option.bind_some, if_pos hlt]
  rfl

theorem digits?_eq_ofDigitChars {l : List Char} (hne : l ≠ []) (hl : ∀ c ∈ l, c.isDigit) :
    digits? 10 l = some (Nat.ofDigitChars 10 l 0) := by
  suffices hfold : ∀ n, l.foldl (fun n c => do return 10 * (← n) + (← digitIn? 10 c)) (some n) =
      some (Nat.ofDigitChars 10 l n) by
    rw [digits?, if_neg hne]
    exact hfold 0
  clear hne
  induction l with
  | nil => intro n; rfl
  | cons c l ih =>
    intro n
    have hc := digitIn?_ten (hl c List.mem_cons_self)
    simp only [List.foldl_cons, hc, Option.bind_eq_bind, Option.bind_some, Option.pure_def,
      Nat.ofDigitChars_cons]
    exact ih (fun c hc => hl c (List.mem_cons_of_mem _ hc)) _

theorem foldl_bind_none {α β : Type} (f : α → β → Option α) (l : List β) :
    l.foldl (fun a b => a.bind (f · b)) none = none := by
  induction l with
  | nil => rfl
  | cons b l ih => exact ih

theorem digits?_cons_eq_none {base : Nat} {c : Char} {l : List Char} (hc : digitIn? base c = none) :
    digits? base (c :: l) = none := by
  simp only [digits?, if_neg (List.cons_ne_nil c l), List.foldl_cons, hc, Option.bind_eq_bind,
    Option.bind_none, Option.bind_some]
  exact foldl_bind_none _ l

theorem isDigit_of_mem_toDigits {n : Nat} {c : Char} (hc : c ∈ Nat.toDigits 10 n) : c.isDigit :=
  Nat.isDigit_of_mem_toDigits (by decide) (by decide) hc

@[simp] theorem digits?_toDigits (n : Nat) : digits? 10 (Nat.toDigits 10 n) = some n := by
  rw [digits?_eq_ofDigitChars Nat.toDigits_ne_nil fun c => isDigit_of_mem_toDigits,
    Nat.ofDigitChars_ten_toDigits]

theorem toDigits_eq_zero_cons {n : Nat} {l : List Char} (h : Nat.toDigits 10 n = '0' :: l) :
    l = [] := by
  induction n using Nat.strongRecOn generalizing l with
  | ind n ih =>
    rcases Nat.lt_or_ge n 10 with hn | hn
    · rw [Nat.toDigits_of_lt_base hn] at h
      exact (List.cons.inj h).2.symm
    · rw [Nat.toDigits_of_base_le (by decide) hn] at h
      cases hd : Nat.toDigits 10 (n / 10) with
      | nil => exact absurd hd Nat.toDigits_ne_nil
      | cons c r =>
        rw [hd, List.cons_append] at h
        obtain ⟨rfl, -⟩ := List.cons.inj h
        -- The digits before the last are those of a number that is not zero.
        have hr := ih (n / 10) (by omega) hd
        have hvalue : n / 10 = 0 := by
          rw [← Nat.ofDigitChars_ten_toDigits (n := n / 10), hd, hr]
          rfl
        omega

theorem notMem_toDigits {n : Nat} {c : Char} (hc : ¬ c.isDigit) : c ∉ Nat.toDigits 10 n :=
  fun hmem => hc (isDigit_of_mem_toDigits hmem)

theorem hasLeadingZero_minus_toDigits (n : Nat) :
    hasLeadingZero ('-' :: Nat.toDigits 10 n) = false := by
  simp only [hasLeadingZero]
  split
  next d r h => exact absurd (toDigits_eq_zero_cons h) (List.cons_ne_nil d r)
  next => rfl

theorem exists_toDigits_eq_cons (n : Nat) :
    ∃ c r, Nat.toDigits 10 n = c :: r ∧ c ≠ '-' ∧ c ≠ '+' := by
  obtain ⟨c, r, h⟩ := List.exists_cons_of_ne_nil (Nat.toDigits_ne_nil (n := n) (b := 10))
  have hc : c ∈ Nat.toDigits 10 n := h ▸ List.mem_cons_self
  refine ⟨c, r, h, ?_, ?_⟩
  · rintro rfl
    exact notMem_toDigits (by decide) hc
  · rintro rfl
    exact notMem_toDigits (by decide) hc

theorem hasLeadingZero_toDigits (n : Nat) : hasLeadingZero (Nat.toDigits 10 n) = false := by
  obtain ⟨c, r, h, hminus, hplus⟩ := exists_toDigits_eq_cons n
  have hsigned := hasLeadingZero_minus_toDigits n
  rw [h] at hsigned ⊢
  simpa [hasLeadingZero, hminus, hplus] using hsigned

/-! ## Texts -/

/-- The text of an integer is the digits of a number, maybe after a sign. -/
theorem exists_toList_toString (n : Int) : ∃ m : Nat,
    (n = m ∧ (toString n).toList = Nat.toDigits 10 m) ∨
      n = -m ∧ (toString n).toList = '-' :: Nat.toDigits 10 m := by
  have hrepr := n.repr_eq_if
  rw [Nat.repr_eq_ofList_toDigits, Nat.repr_eq_ofList_toDigits] at hrepr
  rw [Int.toString_eq_repr, hrepr]
  rcases Int.lt_or_le n 0 with hn | hn
  · refine ⟨(-n).toNat, .inr ⟨by omega, ?_⟩⟩
    rw [if_neg (by omega), String.toList_append]
    exact congrArg ('-' :: ·) String.toList_ofList
  · refine ⟨n.toNat, .inl ⟨(Int.toNat_of_nonneg hn).symm, ?_⟩⟩
    rw [if_pos hn, String.toList_ofList]

theorem after?_eq_none {start : String} {l : List Char} {c : Char} (hc : c ∈ start.toList)
    (hl : c ∉ l) : after? start l = none :=
  if_neg fun hprefix => hl ((List.isPrefixOf_iff_prefix.1 hprefix).subset hc)

theorem marked?_eq_none {sign : String} {l : List Char} (hx : 'x' ∉ l) (ho : 'o' ∉ l)
    (hb : 'b' ∉ l) : marked? sign l = none := by
  rw [marked?, after?_eq_none (c := 'x') (by simp) hx, after?_eq_none (c := 'o') (by simp) ho,
    after?_eq_none (c := 'b') (by simp) hb]
  rfl

/-- Nothing but digits and a sign is in the text of an integer. -/
theorem mem_toString {n : Int} {c : Char} (hc : c ∈ (toString n).toList) : c.isDigit ∨ c = '-' := by
  obtain ⟨m, ⟨-, h⟩ | ⟨-, h⟩⟩ := exists_toList_toString n
  · rw [h] at hc
    exact .inl (isDigit_of_mem_toDigits hc)
  · rw [h, List.mem_cons] at hc
    exact hc.symm.imp_left isDigit_of_mem_toDigits

theorem integerOfText?_of_toDigits {s : String} {n : Nat} (hs : s.toList = Nat.toDigits 10 n) :
    integerOfText? s = some (n : Int) := by
  have hmarked (sign : String) : marked? sign (Nat.toDigits 10 n) = none :=
    marked?_eq_none (notMem_toDigits (by decide)) (notMem_toDigits (by decide))
      (notMem_toDigits (by decide))
  have hzero := hasLeadingZero_toDigits n
  have hdigits := digits?_toDigits n
  obtain ⟨c, r, h, -, hplus⟩ := exists_toDigits_eq_cons n
  rw [h] at hs hmarked hzero hdigits
  simp [integerOfText?, hs, hplus, hmarked, hzero, hdigits]

theorem integerOfText?_of_minus_toDigits {s : String} {n : Nat}
    (hs : s.toList = '-' :: Nat.toDigits 10 n) : integerOfText? s = some (-(n : Int)) := by
  have hletter {c : Char} (hdigit : ¬ c.isDigit) (hsign : c ≠ '-') : c ∉ '-' :: Nat.toDigits 10 n :=
    List.not_mem_cons_of_ne_of_not_mem hsign (notMem_toDigits hdigit)
  have hmarked (sign : String) : marked? sign ('-' :: Nat.toDigits 10 n) = none :=
    marked?_eq_none (hletter (by decide) (by decide)) (hletter (by decide) (by decide))
      (hletter (by decide) (by decide))
  have hunsigned : digits? 10 ('-' :: Nat.toDigits 10 n) = none := digits?_cons_eq_none rfl
  simp [integerOfText?, hs, hmarked, hasLeadingZero_minus_toDigits, hunsigned]

@[simp] theorem integerOfText?_toString (n : Int) : integerOfText? (toString n) = some n := by
  obtain ⟨m, ⟨hn, h⟩ | ⟨hn, h⟩⟩ := exists_toList_toString n
  · rw [integerOfText?_of_toDigits h, hn]
  · rw [integerOfText?_of_minus_toDigits h, hn]

/-! ## Plain scalars -/

theorem toString_ne {n : Int} {s : String}
    (hs : s.toList.any (fun c => !c.isDigit && c != '-') = true) : toString n ≠ s := by
  rintro rfl
  obtain ⟨c, hc, h⟩ := List.any_eq_true.1 hs
  rw [Bool.and_eq_true, Bool.not_eq_true', bne_iff_ne] at h
  rcases mem_toString hc with hdigit | hsign
  · exact Bool.false_ne_true (h.1.symm.trans hdigit)
  · exact h.2 hsign

theorem toString_ne_empty (n : Int) : toString n ≠ "" := by
  intro h
  have hnil : (toString n).toList = [] := congrArg String.toList h
  obtain ⟨m, ⟨-, h⟩ | ⟨-, h⟩⟩ := exists_toList_toString n
  · exact Nat.toDigits_ne_nil (h.symm.trans hnil)
  · exact List.cons_ne_nil _ _ (h.symm.trans hnil)

@[simp] theorem isNullText_toString (n : Int) : isNullText (toString n) = false := by
  simp only [isNullText, Bool.or_eq_false_iff, decide_eq_false_iff_not]
  refine ⟨⟨⟨?_, ?_⟩, ?_⟩, ?_⟩ <;> exact toString_ne (by decide)

theorem not_null_toString (n : Int) : ¬ (toString n = "" || isNullText (toString n)) := by
  rw [isNullText_toString, Bool.or_false, decide_eq_true_eq]
  exact toString_ne_empty n

@[simp] theorem boolOfText?_toString (n : Int) : boolOfText? (toString n) = none := by
  have htrue : ¬ (toString n = "true" ∨ toString n = "True" ∨ toString n = "TRUE") := by
    rintro (h | h | h) <;> exact toString_ne (by decide) h
  have hfalse : ¬ (toString n = "false" ∨ toString n = "False" ∨ toString n = "FALSE") := by
    rintro (h | h | h) <;> exact toString_ne (by decide) h
  rw [boolOfText?, if_neg htrue, if_neg hfalse]

/-- An integer of 64 bits, with or without a sign. -/
def IsWord (n : Int) : Prop := -(Nat.pow 2 63 : Int) ≤ n ∧ n < (Nat.pow 2 64 : Int)

instance : DecidablePred IsWord := fun n =>
  inferInstanceAs (Decidable (-(Nat.pow 2 63 : Int) ≤ n ∧ n < (Nat.pow 2 64 : Int)))

theorem IsWord.fitsWide {n : Int} (hn : IsWord n) : fitsWide n = true := by
  simp only [IsWord, Nat.pow_eq, Nat.reducePow] at hn
  simp only [Yaml.fitsWide, Nat.pow_eq, Nat.reducePow, decide_eq_true_eq]
  omega

/-- A number of 32 bits, as retries are counted. -/
def IsCount (n : Nat) : Prop := n < Nat.pow 2 32

instance : DecidablePred IsCount := fun n => inferInstanceAs (Decidable (n < Nat.pow 2 32))

theorem IsCount.isWord {n : Nat} (hn : IsCount n) : IsWord n := by
  simp only [IsCount, Nat.pow_eq, Nat.reducePow] at hn
  simp only [IsWord, Nat.pow_eq, Nat.reducePow]
  omega

theorem plainDatum?_toString {n : Int} (hn : IsWord n) :
    plainDatum? (toString n) = some (.integer n) := by
  have hnumber : numberOfText? (toString n) = some (some (.integer n)) := by
    rw [numberOfText?, integerOfText?_toString]
    exact (if_pos hn.fitsWide).trans (congrArg some (if_pos hn))
  rw [plainDatum?, if_neg (not_null_toString n)]
  simp only [boolOfText?_toString, hnumber, Option.getD_some]

end RolloutPlan.Yaml
