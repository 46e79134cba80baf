import RolloutPlan.Yaml.Record

/-!
# What a reader sees of a record

A structure looks at the fields that it knows, and at each of them in its own way. Two records that show
the same there are read alike, whatever else they hold and in which order.

* `Record.entry?_of_perm`, `Record.entry?_cons_of_ne`, `Record.entry?_cons_self`: the entry of a key.
* `Record.Alike`: records that show the same at the fields of a table.
* `Record.Alike.required`, `Record.Alike.withDefault`: such records are read alike.
* `List.mapM_eq_ite`: reading all elements of a list, or none.
-/

namespace RolloutPlan

set_option autoImplicit false

namespace Yaml

variable {α β σ τ : Type}

/-! ## Reading lists -/

theorem mapM_eq_ite (g : α → Option β) (l : List α) :
    l.mapM g = if l.all fun a => (g a).isSome then some (l.filterMap g) else none := by
  induction l with
  | nil => rfl
  | cons a l ih =>
    rw [List.mapM_cons, ih, List.all_cons, List.filterMap_cons]
    cases g a with
    | none => rfl
    | some b =>
      cases hl : l.all fun a => (g a).isSome <;> simp

/-- If it does not matter for a list that one element stands for another, it does not for all. -/
theorem mapM_append_cons {g : α → Option β} {a b : α} (h : g a = g b) (l₁ l₂ : List α) :
    (l₁ ++ a :: l₂).mapM g = (l₁ ++ b :: l₂).mapM g := by
  simp only [List.mapM_append, List.mapM_cons, h]

theorem length_of_mapM_eq_some {g : α → Option β} {l : List α} {r : List β}
    (h : l.mapM g = some r) : r.length = l.length := by
  rw [mapM_eq_ite] at h
  obtain ⟨hall, h⟩ := Option.ite_none_right_eq_some.1 h
  obtain rfl := Option.some.inj h
  exact List.filterMap_length_eq_length.2 (List.all_eq_true.1 hall)

/-- The same for what shows of the elements that are read, and of the list. -/
theorem map_mapM_append_cons {γ δ : Type} {g : α → Option β} {view : β → γ} {viewAll : List β → δ}
    {a b : α} {l₁ : List α} (h : (g a).map view = (g b).map view)
    (hview : ∀ x y r₁ r₂, view x = view y → r₁.length = l₁.length →
      viewAll (r₁ ++ x :: r₂) = viewAll (r₁ ++ y :: r₂)) (l₂ : List α) :
    ((l₁ ++ a :: l₂).mapM g).map viewAll = ((l₁ ++ b :: l₂).mapM g).map viewAll := by
  simp only [List.mapM_append, List.mapM_cons]
  cases hl₁ : l₁.mapM g with
  | none => rfl
  | some r₁ =>
    cases ha : g a with
    | none =>
      rw [ha, Option.map_none] at h
      rw [Option.map_eq_none_iff.1 h.symm]
    | some x =>
      rw [ha, Option.map_some] at h
      obtain ⟨y, hb, hxy⟩ := Option.map_eq_some_iff.1 h.symm
      rw [hb]
      cases l₂.mapM g with
      | none => rfl
      | some r₂ => exact congrArg some (hview x y r₁ r₂ hxy.symm (length_of_mapM_eq_some hl₁))

theorem zip_append_cons {names : List α} {name : α} {l₁ : List β}
    (h : names[l₁.length]? = some name) (b : β) (l₂ : List β) :
    names.zip (l₁ ++ b :: l₂) =
      (names.take l₁.length).zip l₁ ++ (name, b) :: (names.drop (l₁.length + 1)).zip l₂ := by
  obtain ⟨hlength, rfl⟩ := List.getElem?_eq_some_iff.1 h
  have hnames : names.take l₁.length ++ names[l₁.length] :: names.drop (l₁.length + 1) = names := by
    rw [← List.drop_eq_getElem_cons hlength, List.take_append_drop]
  have htake : (names.take l₁.length).length = l₁.length :=
    List.length_take_of_le (Nat.le_of_lt hlength)
  calc names.zip (l₁ ++ b :: l₂)
    _ = (names.take l₁.length ++ names[l₁.length] :: names.drop (l₁.length + 1)).zip
          (l₁ ++ b :: l₂) := by rw [hnames]
    _ = _ := by rw [List.zip_append htake, List.zip_cons_cons]

namespace Record

variable {r r' : Record τ} {key : String}

/-! ## The entry of a key -/

theorem entry?_of_perm (h : r.Perm r') (key : String) : r.entry? key = r'.entry? key := by
  have hfilter := h.filter fun e => decide (e.1 = key)
  unfold entry?
  generalize r.filter (fun e => decide (e.1 = key)) = l at hfilter ⊢
  generalize r'.filter (fun e => decide (e.1 = key)) = l' at hfilter ⊢
  match l, l', hfilter with
  | [], _, hnil => rw [hnil.nil_eq]
  | [e], _, hsingle => rw [List.singleton_perm.1 hsingle]
  | _ :: _ :: _, l', hmany =>
    have hlength := hmany.length_eq
    match l', hlength with
    | _ :: _ :: _, _ => rfl

theorem entry?_cons_of_ne {k : String} (h : k ≠ key) (v : τ) (r : Record τ) :
    entry? ((k, v) :: r) key = r.entry? key := by
  unfold entry?
  rw [List.filter_cons_of_neg (by simpa using h)]

theorem entry?_cons_self (key : String) (v : τ) (r : Record τ) :
    entry? ((key, v) :: r) key =
      if (r.filter fun e => decide (e.1 = key)) = [] then some (some v) else none := by
  unfold entry?
  simp only [List.filter_cons, decide_true, if_true]
  cases r.filter fun e => decide (e.1 = key) with
  | nil => rfl
  | cons e l => rfl

theorem required_eq (r : Record τ) (key : String) (read : τ → Option α) :
    r.required key read = r.entry? key >>= fun t => t.elim none read := by
  unfold required
  cases r.entry? key with
  | none => rfl
  | some t => cases t <;> rfl

theorem withDefault_eq (r : Record τ) (key : String) (default : α) (read : τ → Option α) :
    r.withDefault key default read = r.entry? key >>= fun t => t.elim (some default) read := by
  unfold withDefault
  cases r.entry? key with
  | none => rfl
  | some t => cases t <;> rfl

/-! ## Records that show the same -/

/-- Records that show the same at the fields of a table, each looked at in the way that the table says. -/
def Alike {V : σ → Type} (view : (s : σ) → τ → V s) (fields : List (String × σ))
    (r r' : Record τ) : Prop :=
  ∀ key s, fields.lookup key = some s →
    Option.map (view s) <$> r.entry? key = Option.map (view s) <$> r'.entry? key

namespace Alike

variable {V : σ → Type} {view : (s : σ) → τ → V s} {fields : List (String × σ)} {s : σ}

theorem of_perm (h : r.Perm r') : Alike view fields r r' := fun key _ _ => by
  rw [entry?_of_perm h key]

theorem refl (r : Record τ) : Alike view fields r r := of_perm (.refl r)

/-- An entry that is not in the table does not show. -/
theorem cons_unknown (hkey : fields.lookup key = none) (v : τ) (r : Record τ) :
    Alike view fields r ((key, v) :: r) := by
  intro k s hs
  have hne : key ≠ k := by
    rintro rfl
    rw [hkey] at hs
    cases hs
  rw [entry?_cons_of_ne hne]

theorem cons_congr {v v' : τ} (r : Record τ)
    (h : ∀ s, fields.lookup key = some s → view s v = view s v') :
    Alike view fields ((key, v) :: r) ((key, v') :: r) := by
  intro k s hs
  by_cases hne : key = k
  · subst hne
    rw [entry?_cons_self, entry?_cons_self]
    split
    · exact congrArg (fun x => some (some x)) (h s hs)
    · rfl
  · rw [entry?_cons_of_ne hne, entry?_cons_of_ne hne]

theorem append_cons_congr {v v' : τ} (r₁ r₂ : Record τ)
    (h : ∀ s, fields.lookup key = some s → view s v = view s v') :
    Alike view fields (r₁ ++ (key, v) :: r₂) (r₁ ++ (key, v') :: r₂) := by
  intro k s hs
  rw [entry?_of_perm List.perm_middle, entry?_of_perm List.perm_middle]
  exact cons_congr _ h k s hs

/-- A further element that adds nothing that is in the table does not show. -/
theorem filterMap_cons_unknown {g : α → Option (String × τ)} {a : α}
    (h : ∀ e ∈ g a, fields.lookup e.1 = none) (l : List α) :
    Alike view fields (l.filterMap g) ((a :: l).filterMap g) := by
  rw [List.filterMap_cons]
  cases hg : g a with
  | none => exact refl _
  | some e => exact cons_unknown (h e hg) e.2 _

/-- Neither does it show that one element stands for another if both add an entry for the same key, or none,
and what they add looks the same there. -/
theorem filterMap_cons_congr {g : α → Option (String × τ)} {a b : α} {o o' : Option τ}
    (ha : g a = o.map (key, ·)) (hb : g b = o'.map (key, ·))
    (h : ∀ s, fields.lookup key = some s → o.map (view s) = o'.map (view s)) (l : List α) :
    Alike view fields ((a :: l).filterMap g) ((b :: l).filterMap g) := by
  have hother {a : α} {o : Option τ} {k : String} (ha : g a = o.map (key, ·)) (hne : key ≠ k) :
      entry? ((a :: l).filterMap g) k = entry? (l.filterMap g) k := by
    rw [List.filterMap_cons, ha]
    cases o with
    | none => rfl
    | some v => exact entry?_cons_of_ne hne v _
  intro k s hs
  by_cases hne : key = k
  · subst hne
    have hview := h s hs
    rw [List.filterMap_cons, List.filterMap_cons, ha, hb]
    cases o with
    | none =>
      rw [Option.map_eq_none_iff.1 hview.symm]
    | some v =>
      obtain ⟨v', rfl, hv⟩ := Option.map_eq_some_iff.1 hview.symm
      refine cons_congr _ (fun s' hs' => ?_) key s hs
      rw [hs] at hs'
      cases hs'
      exact hv.symm
  · rw [hother ha hne, hother hb hne]

theorem bind_elim (h : Alike view fields r r') (hs : fields.lookup key = some s)
    {read : τ → Option α} (hread : ∀ v v', view s v = view s v' → read v = read v')
    (default : Option α) :
    ( r.entry? key >>= fun t => t.elim default read) =
      r'.entry? key >>= fun t => t.elim default read := by
  have hentry := h key s hs
  cases hr : r.entry? key with
  | none =>
    rw [hr] at hentry
    rw [Option.map_eq_none_iff.1 hentry.symm]
  | some t =>
    rw [hr] at hentry
    obtain ⟨t', hr', ht⟩ := Option.map_eq_some_iff.1 hentry.symm
    rw [hr']
    cases t with
    | none =>
      rw [Option.map_eq_none_iff.1 ht]
    | some v =>
      obtain ⟨v', rfl, hv⟩ := Option.map_eq_some_iff.1 ht
      exact hread v v' hv.symm

theorem required (h : Alike view fields r r') (hs : fields.lookup key = some s)
    {read : τ → Option α} (hread : ∀ v v', view s v = view s v' → read v = read v') :
    r.required key read = r'.required key read := by
  rw [required_eq, required_eq]
  exact h.bind_elim hs hread none

theorem withDefault (h : Alike view fields r r') (hs : fields.lookup key = some s)
    {read : τ → Option α} (hread : ∀ v v', view s v = view s v' → read v = read v')
    (default : α) : r.withDefault key default read = r'.withDefault key default read := by
  rw [withDefault_eq, withDefault_eq]
  exact h.bind_elim hs hread (some default)

end Alike

end Record

end Yaml

end RolloutPlan
