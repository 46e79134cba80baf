import Mathlib.Tactic.SplitIfs
import RolloutPlan.Json.Printer
import RolloutPlan.Json.Reader
import RolloutPlan.Proofs.WrittenTree

/-!
# JSON texts that were written

A value that is written with one item or member on a line is read back from its text. Strings may hold any
characters: what is escaped is unescaped, and all else stands for itself. Integers may have 64 bits.

The reader spends one unit of fuel on each value, item and member, and it starts with more than there are
characters in the text. So every lemma on reading asks for more fuel than the written text is long.

* `Json.readString_escape`, `Json.readString_quoted`: one character of a string, and a whole string.
* `Json.Follows`: what can stand right after a value. `Json.readNumber_toString`: integers.
* `Json.readItems_spread`, `Json.readMembers_spread`: what is between the brackets of a collection.
* `Json.IsReadBack`: a value is read where it was written. `Json.isReadBack_of_exact`: every value is.
* `Json.read_pretty`, `Json.read_pretty_line`: whole texts.
-/

namespace RolloutPlan

open Yaml

set_option autoImplicit false

/-! ## Digits in base sixteen -/

namespace Text

theorem hexValue?_digitChar {d : Nat} (hd : d < 16) : hexValue? (Nat.digitChar d) = some d := by
  decide +revert

theorem hexNumber?_digits {ds : List Nat} (hds : ∀ d ∈ ds, d < 16) (l : List Char) (v : Nat) :
    hexNumber? ds.length (ds.map Nat.digitChar ++ l) v =
      some (ds.foldl (fun v d => 16 * v + d) v, l) := by
  induction ds generalizing v with
  | nil => rfl
  | cons d ds ih =>
    obtain ⟨hd, hds⟩ := List.forall_mem_cons.1 hds
    rw [List.map_cons, List.cons_append, List.length_cons, hexNumber?, hexValue?_digitChar hd]
    exact ih hds _

end Text

namespace Json

theorem hexDigits_control {n : Nat} (hn : n < 0x20) :
    hexDigits 4 n = [0, 0, n / 16, n % 16].map Nat.digitChar := by
  decide +revert

/-- The code point of a control character is read from its four digits. -/
theorem readCodePoint_hexDigits {n : Nat} (hn : n < 0x20) (l : List Char) :
    readCodePoint (hexDigits 4 n ++ l) = some (Char.ofNat n, l) := by
  have hdigits : ∀ d ∈ [0, 0, n / 16, n % 16], d < 16 := by
    intro d hd
    simp only [List.mem_cons, List.not_mem_nil, or_false] at hd
    omega
  have hvalue : 16 * (16 * (16 * (16 * 0 + 0) + 0) + n / 16) + n % 16 = n := by omega
  have hread : Text.hexNumber? 4 (hexDigits 4 n ++ l) 0 = some (n, l) := by
    rw [hexDigits_control hn]
    exact (Text.hexNumber?_digits hdigits l 0).trans (congrArg (fun v => some (v, l)) hvalue)
  rw [readCodePoint, readCodeUnit, hread]
  simp only
  rw [if_neg (by omega), if_neg (by omega)]

/-! ## Strings -/

theorem readString_escape (c : Char) (n : Nat) (l : List Char) :
    readString (n + 1) (escape c ++ l) = (readString n l).map fun (s, r) => (c :: s, r) := by
  unfold escape
  split_ifs with hquote hbackslash _ _ _ _ _ hcontrol
  -- first the characters that have a short escape
  iterate 7
    · subst c
      rfl
  · simp [readString, readEscape, readCodePoint_hexDigits hcontrol]
  · simp [readString, hquote, hbackslash, hcontrol]

theorem readString_flatMap_escape {s : List Char} {n : Nat} (hn : s.length < n) (r : List Char) :
    readString n (s.flatMap escape ++ '"' :: r) = some (s, r) := by
  obtain ⟨n, rfl⟩ := Nat.exists_eq_add_one_of_ne_zero (Nat.ne_zero_of_lt hn)
  induction s generalizing n with
  | nil => rfl
  | cons c s ih =>
    have hn : s.length < n := Nat.lt_of_succ_lt_succ hn
    obtain ⟨n, rfl⟩ := Nat.exists_eq_add_one_of_ne_zero (Nat.ne_zero_of_lt hn)
    rw [List.flatMap_cons, List.append_assoc, readString_escape, ih n hn]
    rfl

theorem escape_ne_nil (c : Char) : escape c ≠ [] := by
  unfold escape
  split_ifs <;> exact List.cons_ne_nil _ _

theorem length_le_length_flatMap_escape (s : List Char) : s.length ≤ (s.flatMap escape).length := by
  induction s with
  | nil => exact Nat.zero_le _
  | cons c s ih =>
    have hc := List.length_pos_iff.2 (escape_ne_nil c)
    rw [List.flatMap_cons, List.length_append, List.length_cons]
    omega

/-- A string is read as far as its closing quote. -/
theorem readString_quoted (s : String) (r : List Char) :
    ∃ t, quoted escape s ++ r = '"' :: t ∧ readString (t.length + 1) t = some (s.toList, r) := by
  refine ⟨s.toList.flatMap escape ++ '"' :: r, by simp [quoted], readString_flatMap_escape ?_ r⟩
  have hlength := length_le_length_flatMap_escape s.toList
  rw [List.length_append]
  omega

/-! ## Numbers -/

/-- What can stand right after a value: nothing, or what separates values and closes collections. -/
def Follows (r : List Char) : Prop := ∀ c ∈ r.head?, c = ',' ∨ c = '\n'

theorem Follows.takeWhile_isDigit {r : List Char} (hr : Follows r) :
    r.takeWhile Char.isDigit = [] := by
  cases r with
  | nil => rfl
  | cons c r => obtain rfl | rfl := hr c rfl <;> rfl

theorem Follows.readFraction_eq {r : List Char} (hr : Follows r) :
    readFraction r = some (none, r) := by
  cases r with
  | nil => rfl
  | cons c r => obtain rfl | rfl := hr c rfl <;> rfl

theorem Follows.readExponent_eq {r : List Char} (hr : Follows r) :
    readExponent r = some (none, r) := by
  cases r with
  | nil => rfl
  | cons c r => obtain rfl | rfl := hr c rfl <;> rfl

@[simp] theorem decimal_toDigits (n : Nat) : decimal (Nat.toDigits 10 n) = n :=
  Nat.ofDigitChars_ten_toDigits (n := n)

theorem takeWhile_toDigits (n : Nat) {r : List Char} (hr : Follows r) :
    (Nat.toDigits 10 n ++ r).takeWhile Char.isDigit = Nat.toDigits 10 n := by
  rw [List.takeWhile_append_of_pos fun _ => isDigit_of_mem_toDigits, hr.takeWhile_isDigit,
    List.append_nil]

theorem dropWhile_toDigits (n : Nat) {r : List Char} (hr : Follows r) :
    (Nat.toDigits 10 n ++ r).dropWhile Char.isDigit = r := by
  have h := List.takeWhile_append_dropWhile (p := Char.isDigit) (l := Nat.toDigits 10 n ++ r)
  rwa [takeWhile_toDigits n hr, List.append_cancel_left_eq] at h

/-- Digits that are written for a number have no zero in front. -/
theorem not_padded_toDigits (n : Nat) : ¬ (Nat.toDigits 10 n = [] ∨
    1 < (Nat.toDigits 10 n).length ∧ (Nat.toDigits 10 n).head? = some '0') := by
  rintro (h | ⟨hlength, hhead⟩)
  · exact Nat.toDigits_ne_nil h
  · obtain ⟨l, hl⟩ := List.head?_eq_some_iff.1 hhead
    rw [hl, toDigits_eq_zero_cons hl] at hlength
    exact absurd hlength (by decide)

theorem readNumber_toDigits (n : Nat) {r : List Char} (hr : Follows r) :
    readNumber (Nat.toDigits 10 n ++ r) = some (whole false n, r) := by
  obtain ⟨c, t, hdigits, hminus, -⟩ := exists_toDigits_eq_cons n
  have hsign : ∀ l, Nat.toDigits 10 n ++ r ≠ '-' :: l := by
    rw [hdigits]
    exact fun l h => hminus (List.cons.inj h).1
  rw [readNumber]
  · simp only [takeWhile_toDigits n hr, dropWhile_toDigits n hr, if_neg (not_padded_toDigits n),
      hr.readFraction_eq, Option.bind_eq_bind, Option.bind_some, hr.readExponent_eq,
      decimal_toDigits]
    rfl
  · exact hsign

theorem readNumber_minus_toDigits (n : Nat) {r : List Char} (hr : Follows r) :
    readNumber ('-' :: (Nat.toDigits 10 n ++ r)) = some (whole true n, r) := by
  rw [readNumber]
  simp only [takeWhile_toDigits n hr, dropWhile_toDigits n hr, if_neg (not_padded_toDigits n),
    hr.readFraction_eq, Option.bind_eq_bind, Option.bind_some, hr.readExponent_eq, decimal_toDigits]
  rfl

/-- An integer of 64 bits is read from its text. -/
theorem readNumber_toString {n : Int} (hn : IsWord n) {r : List Char} (hr : Follows r) :
    readNumber ((toString n).toList ++ r) = some (.integer n, r) := by
  simp only [IsWord, Nat.pow_eq, Nat.reducePow] at hn
  obtain ⟨m, ⟨rfl, h⟩ | ⟨rfl, h⟩⟩ := exists_toList_toString n
  · rw [h, readNumber_toDigits m hr, whole, if_neg (by decide), if_pos]
    simp only [Nat.pow_eq, Nat.reducePow]
    omega
  · -- zero has no sign, so that it is not read as a floating-point number
    have hm : m ≠ 0 := by
      rintro rfl
      exact absurd h (by decide)
    rw [h, List.cons_append, readNumber_minus_toDigits m hr, whole, if_pos rfl, if_neg]
    simp only [Nat.pow_eq, Nat.reducePow]
    omega

/-! ## Beginnings of values and blanks between them -/

theorem exists_toString_eq_cons (n : Int) :
    ∃ c l, (toString n).toList = c :: l ∧ (c.isDigit ∨ c = '-') := by
  have hne : (toString n).toList ≠ [] := by simpa using toString_ne_empty n
  obtain ⟨c, l, h⟩ := List.exists_cons_of_ne_nil hne
  exact ⟨c, l, h, mem_toString (h ▸ List.mem_cons_self)⟩

theorem notMem_of_number {c : Char} (hc : c.isDigit ∨ c = '-') {l : List Char}
    (hl : l.all (fun d => !d.isDigit && d != '-') = true) : c ∉ l := by
  intro hmem
  have h := List.all_eq_true.1 hl c hmem
  obtain hdigit | rfl := hc
  · simp [hdigit] at h
  · exact absurd h (by decide)

theorem isBlank_number {c : Char} (hc : c.isDigit ∨ c = '-') : isBlank c = false := by
  simpa [isBlank, and_assoc] using notMem_of_number (l := [' ', '\n', '\t', '\r']) hc (by decide)

/-- What a value begins with: no blank, and not the end of a list. -/
theorem exists_spread_eq_cons {j : Json} (hj : j.Exact) (level : Nat) :
    ∃ c l, spread level j = c :: l ∧ isBlank c = false ∧ c ≠ ']' := by
  cases hj with
  | null => exact ⟨_, _, rfl, by decide, by decide⟩
  | bool b => cases b <;> exact ⟨_, _, rfl, by decide, by decide⟩
  | @integer n hn =>
    obtain ⟨c, l, h, hc⟩ := exists_toString_eq_cons n
    have hend : c ∉ [']'] := notMem_of_number hc (by decide)
    exact ⟨c, l, h, isBlank_number hc, List.ne_of_not_mem_cons hend⟩
  | string s => exact ⟨_, _, rfl, by decide, by decide⟩
  | @array l _ => cases l <;> exact ⟨_, _, rfl, by decide, by decide⟩
  | @object l _ => cases l <;> exact ⟨_, _, rfl, by decide, by decide⟩

theorem spread_append_ne {j : Json} (hj : j.Exact) (level : Nat) (r t : List Char) :
    spread level j ++ r ≠ ']' :: t := by
  obtain ⟨c, l, hspread, -, hc⟩ := exists_spread_eq_cons hj level
  rw [hspread]
  exact fun h => hc (List.cons.inj h).1

theorem skipBlanks_cons {c : Char} (hc : isBlank c = false) (l : List Char) :
    skipBlanks (c :: l) = c :: l :=
  List.dropWhile_cons_of_neg (by simp [hc])

@[simp] theorem skipBlanks_newline (level : Nat) (l : List Char) :
    skipBlanks (newline level ++ l) = skipBlanks l := by
  refine List.dropWhile_append_of_pos fun c hc => ?_
  rw [newline, List.mem_cons, List.mem_replicate] at hc
  obtain rfl | ⟨-, rfl⟩ := hc <;> rfl

theorem skipBlanks_spread {j : Json} (hj : j.Exact) (level : Nat) (r : List Char) :
    skipBlanks (spread level j ++ r) = spread level j ++ r := by
  obtain ⟨c, l, hspread, hblank, -⟩ := exists_spread_eq_cons hj level
  rw [hspread]
  exact skipBlanks_cons hblank _

theorem skipBlanks_newline_spread {j : Json} (hj : j.Exact) (outer level : Nat) (r : List Char) :
    skipBlanks (newline outer ++ (spread level j ++ r)) = spread level j ++ r := by
  rw [skipBlanks_newline, skipBlanks_spread hj]

theorem skipBlanks_newline_quoted (outer : Nat) (k : String) (r : List Char) :
    skipBlanks (newline outer ++ (quoted escape k ++ r)) = quoted escape k ++ r := by
  rw [skipBlanks_newline]
  rfl

theorem follows_newline (level : Nat) (r : List Char) : Follows (newline level ++ r) :=
  fun _ hc => .inr (Option.some.inj hc).symm

theorem follows_comma (r : List Char) : Follows (',' :: r) :=
  fun _ hc => .inl (Option.some.inj hc).symm

/-! ## Scalars -/

/-- A value is read where it was written, up to what follows it. -/
def IsReadBack (j : Json) : Prop := ∀ ⦃level n : Nat⦄ ⦃r : List Char⦄, Follows r →
  (spread level j).length < n → readValue n (spread level j ++ r) = some (j, r)

theorem isReadBack_of_succ {j : Json} (h : ∀ level n r, Follows r → (spread level j).length ≤ n →
    readValue (n + 1) (spread level j ++ r) = some (j, r)) : IsReadBack j := by
  intro level n r hr hn
  cases n with
  | zero => exact absurd hn (Nat.not_lt_zero _)
  | succ n => exact h level n r hr (Nat.le_of_lt_succ hn)

theorem isReadBack_null : IsReadBack .null := isReadBack_of_succ fun _ _ _ _ _ => rfl

theorem isReadBack_bool (b : Bool) : IsReadBack (.bool b) :=
  isReadBack_of_succ fun _ _ _ _ _ => by cases b <;> rfl

theorem isReadBack_string (s : String) : IsReadBack (.string s) := by
  refine isReadBack_of_succ fun level n r _ _ => ?_
  obtain ⟨t, htext, hread⟩ := readString_quoted s r
  have hspread : spread level (.string s) ++ r = '"' :: t := htext
  rw [hspread, readValue, hread]
  exact congrArg (fun s => some (Json.string s, r)) String.ofList_toList

theorem readValue_number (n : Nat) {c : Char} (hc : c.isDigit ∨ c = '-') (l : List Char) :
    readValue (n + 1) (c :: l) = readNumber (c :: l) := by
  have hother := notMem_of_number (l := ['"', '[', '\x7b', 'n', 't', 'f']) hc (by decide)
  simp only [List.mem_cons, List.not_mem_nil, not_or] at hother
  simp [readValue, readWord, hother]

theorem isReadBack_integer {n : Int} (hn : IsWord n) : IsReadBack (.integer n) := by
  refine isReadBack_of_succ fun level fuel r hr _ => ?_
  obtain ⟨c, l, htext, hc⟩ := exists_toString_eq_cons n
  have hread := readNumber_toString hn hr
  have hspread : spread level (.integer n) = (toString n).toList := rfl
  rw [htext] at hread
  rw [hspread, htext, List.cons_append, readValue_number fuel hc]
  exact hread

/-! ## Lists and objects -/

section Steps

variable {n : Nat} {l r t : List Char} {j : Json}

theorem readItems_last (hread : readValue n l = some (j, r)) (hr : skipBlanks r = ']' :: t) :
    readItems (n + 1) l = some ([j], t) := by
  rw [readItems, hread]
  simp only [hr]

theorem readItems_more (hread : readValue n l = some (j, r)) (hr : skipBlanks r = ',' :: t) :
    readItems (n + 1) l = (readItems n (skipBlanks t)).map fun (js, u) => (j :: js, u) := by
  rw [readItems, hread]
  simp only [hr]

variable (k : String)

theorem readMembers_last (hread : readValue n (skipBlanks l) = some (j, r))
    (hr : skipBlanks r = '\x7d' :: t) :
    readMembers (n + 1) (quoted escape k ++ ':' :: l) = some ([(k, j)], t) := by
  obtain ⟨u, htext, hkey⟩ := readString_quoted k (':' :: l)
  rw [htext, readMembers, hkey]
  simp only [skipBlanks_cons (show isBlank ':' = false from rfl), hread, hr, String.ofList_toList]

theorem readMembers_more (hread : readValue n (skipBlanks l) = some (j, r))
    (hr : skipBlanks r = ',' :: t) :
    readMembers (n + 1) (quoted escape k ++ ':' :: l) =
      (readMembers n (skipBlanks t)).map fun (ms, u) => ((k, j) :: ms, u) := by
  obtain ⟨u, htext, hkey⟩ := readString_quoted k (':' :: l)
  rw [htext, readMembers, hkey]
  simp only [skipBlanks_cons (show isBlank ':' = false from rfl), hread, hr, String.ofList_toList]

variable {u : List Char}

theorem readValue_list (hl : skipBlanks l = u) (hu : ∀ t, u ≠ ']' :: t) :
    readValue (n + 1) ('[' :: l) = (readItems n u).map fun (js, r) => (.array js, r) := by
  rw [readValue, hl]
  split
  next t => exact absurd rfl (hu t)
  next => rfl

theorem readValue_object (hl : skipBlanks l = u) (hu : ∀ t, u ≠ '\x7d' :: t) :
    readValue (n + 1) ('\x7b' :: l) = (readMembers n u).map fun (ms, r) => (.object ms, r) := by
  rw [readValue, hl]
  split
  next t => exact absurd rfl (hu t)
  next => rfl

end Steps

theorem spreadItems_cons_append (level : Nat) (j : Json) (l : List Json) (r : List Char) :
    spreadItems level (j :: l) ++ r =
      ',' :: (newline level ++ (spread level j ++ (spreadItems level l ++ r))) := by
  simp [spreadItems]

theorem spreadMembers_cons_append (level : Nat) (e : String × Json) (ms : List (String × Json))
    (r : List Char) : spreadMembers level (e :: ms) ++ r =
      ',' :: (newline level ++ (quoted escape e.1 ++ ':' :: ' ' ::
        (spread level e.2 ++ (spreadMembers level ms ++ r)))) := by
  obtain ⟨k, j⟩ := e
  simp [spreadMembers]

/-- The items of a list are read up to its closing bracket. -/
theorem readItems_spread {j : Json} {l : List Json} (hl : ∀ i ∈ j :: l, i.Exact ∧ i.IsReadBack)
    {level after n : Nat} {r : List Char}
    (hn : (spread level j).length + (spreadItems level l).length < n) :
    readItems (n + 1) (spread level j ++ (spreadItems level l ++ (newline after ++ ']' :: r))) =
      some (j :: l, r) := by
  induction l generalizing j n with
  | nil =>
    have hj := (hl j List.mem_cons_self).2
    exact readItems_last (hj (follows_newline after _) hn) (skipBlanks_newline after _)
  | cons i l ih =>
    obtain ⟨⟨-, hj⟩, hl⟩ := List.forall_mem_cons.1 hl
    have hlength := congrArg List.length (spreadItems_cons_append level i l [])
    simp only [List.append_nil, List.length_cons, List.length_append] at hlength
    obtain ⟨n, rfl⟩ := Nat.exists_eq_add_one_of_ne_zero (Nat.ne_zero_of_lt hn)
    rw [spreadItems_cons_append, readItems_more (hj (follows_comma _) (by omega)) rfl,
      skipBlanks_newline_spread (hl i List.mem_cons_self).1, ih hl (by omega)]
    rfl

theorem readValue_member {e : String × Json} (he : e.2.Exact ∧ e.2.IsReadBack) {level n : Nat}
    {r : List Char} (hr : Follows r) (hn : (spread level e.2).length < n) :
    readValue n (skipBlanks (' ' :: (spread level e.2 ++ r))) = some (e.2, r) := by
  have hblank : skipBlanks (' ' :: (spread level e.2 ++ r)) = spread level e.2 ++ r :=
    skipBlanks_spread he.1 level r
  rw [hblank, he.2 hr hn]

/-- The members of an object are read up to its closing brace. -/
theorem readMembers_spread {e : String × Json} {ms : List (String × Json)}
    (hms : ∀ x ∈ e :: ms, x.2.Exact ∧ x.2.IsReadBack) {level after n : Nat} {r : List Char}
    (hn : (spread level e.2).length + (spreadMembers level ms).length < n) :
    readMembers (n + 1) (quoted escape e.1 ++ ':' :: ' ' :: (spread level e.2 ++
      (spreadMembers level ms ++ (newline after ++ '\x7d' :: r)))) = some (e :: ms, r) := by
  induction ms generalizing e n with
  | nil =>
    have he := hms e List.mem_cons_self
    exact readMembers_last e.1 (readValue_member he (follows_newline after _) hn)
      (skipBlanks_newline after _)
  | cons x ms ih =>
    obtain ⟨he, hms⟩ := List.forall_mem_cons.1 hms
    have hlength := congrArg List.length (spreadMembers_cons_append level x ms [])
    simp only [List.append_nil, List.length_cons, List.length_append] at hlength
    obtain ⟨n, rfl⟩ := Nat.exists_eq_add_one_of_ne_zero (Nat.ne_zero_of_lt hn)
    have hlt : (spread level e.2).length < n + 1 := by omega
    rw [spreadMembers_cons_append,
      readMembers_more e.1 (readValue_member he (follows_comma _) hlt) rfl,
      skipBlanks_newline_quoted, ih hms (by omega)]
    rfl

theorem isReadBack_array {l : List Json} (hl : ∀ j ∈ l, j.Exact ∧ j.IsReadBack) :
    IsReadBack (.array l) := by
  refine isReadBack_of_succ fun level n r _ hn => ?_
  cases l with
  | nil => rfl
  | cons j l =>
    have hspread : spread level (.array (j :: l)) ++ r = '[' :: (newline (level + 1) ++
        (spread (level + 1) j ++ (spreadItems (level + 1) l ++ (newline level ++ ']' :: r)))) := by
      simp [spread]
    have hlength := congrArg List.length hspread
    simp only [List.length_cons, List.length_append] at hlength
    obtain ⟨n, rfl⟩ := Nat.exists_eq_add_one_of_ne_zero (show n ≠ 0 by omega)
    have hj := (hl j List.mem_cons_self).1
    rw [hspread, readValue_list (skipBlanks_newline_spread hj _ _ _) (spread_append_ne hj _ _),
      readItems_spread hl (by omega)]
    rfl

theorem isReadBack_object {ms : List (String × Json)} (hms : ∀ e ∈ ms, e.2.Exact ∧ e.2.IsReadBack) :
    IsReadBack (.object ms) := by
  refine isReadBack_of_succ fun level n r _ hn => ?_
  cases ms with
  | nil => rfl
  | cons e ms =>
    have hspread : spread level (.object (e :: ms)) ++ r = '\x7b' :: (newline (level + 1) ++
        (quoted escape e.1 ++ ':' :: ' ' :: (spread (level + 1) e.2 ++
          (spreadMembers (level + 1) ms ++ (newline level ++ '\x7d' :: r))))) := by
      simp [spread]
    have hlength := congrArg List.length hspread
    simp only [List.length_cons, List.length_append] at hlength
    obtain ⟨n, rfl⟩ := Nat.exists_eq_add_one_of_ne_zero (show n ≠ 0 by omega)
    have hopen : ∀ l t, quoted escape e.1 ++ l ≠ '\x7d' :: t :=
      fun l t h => absurd (List.cons.inj h).1 (by decide)
    rw [hspread, readValue_object (skipBlanks_newline_quoted _ _ _) (hopen _),
      readMembers_spread hms (by omega)]
    rfl

/-! ## Texts -/

/-- A value without numbers but words of 64 bits is read where it was written. -/
theorem isReadBack_of_exact {j : Json} (hj : j.Exact) : IsReadBack j := by
  induction hj with
  | null => exact isReadBack_null
  | bool b => exact isReadBack_bool b
  | integer hn => exact isReadBack_integer hn
  | string s => exact isReadBack_string s
  | array hl ih => exact isReadBack_array fun j hj => ⟨hl j hj, ih j hj⟩
  | object hl ih => exact isReadBack_object fun e he => ⟨hl e he, ih e he⟩

theorem read_of_toList_eq {j : Json} (hj : j.Exact) {text : String} {r : List Char}
    (htext : text.toList = spread 0 j ++ r) (hr : Follows r) (hblank : skipBlanks r = []) :
    read text = some j := by
  have hread : readValue (2 * text.toList.length + 2) (skipBlanks text.toList) = some (j, r) := by
    rw [htext, skipBlanks_spread hj]
    refine isReadBack_of_exact hj hr ?_
    rw [List.length_append]
    omega
  rw [read]
  simp only [hread, hblank, if_true]

theorem read_pretty {j : Json} (hj : j.Exact) : read j.pretty = some j :=
  read_of_toList_eq hj (r := []) (by simp [pretty]) (by simp [Follows]) rfl

/-- The line break that ends a printed text makes no difference. -/
theorem read_pretty_line {j : Json} (hj : j.Exact) : read (j.pretty ++ "\n") = some j :=
  read_of_toList_eq hj (r := ['\n']) (by simp [pretty]) (by simp [Follows]) rfl

end Json

end RolloutPlan
