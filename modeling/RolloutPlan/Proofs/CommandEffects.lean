import RolloutPlan.Proofs.Drawing
import RolloutPlan.Proofs.FileWrites

/-!
# What the command that builds a graph leaves behind

The command writes one file at most, the drawing that it was asked for, and prints only if it succeeds, as
the last thing it does. A drawing is written also when the command then fails because of a cycle.

* `Run.files_eq_of_not_written`: no command changes a file but by writing.
* `GraphRequest.Selects`: a graph is put together from a request, with a cycle or without.
* `GraphRequest.Draws`: what is written for a request, and where.
* `GraphRequest.Ends`, `ends_graphCommand`: the ways in which the command ends.
* `graphCommand_effects`: what is printed, what is written, in which order, and what stays as it was.
-/

namespace RolloutPlan

set_option autoImplicit false

/-! ## Commands -/

/-- A graph is put together from a request. If it has a cycle, it comes with the failure. -/
def GraphRequest.Selects (read : Reading) (q : GraphRequest) (g : Graph) : Prop :=
  ∃ r, Rollout.loadValid read q.topology = .ok r ∧
    (q.build r = .ok g ∨ ∃ f path, q.build r = .error f ∧ f.cause = .graph (.cycle path g))

theorem Failure.graph?_eq_some_iff {f : Failure} {g : Graph} :
    f.graph? = some g ↔ ∃ path, f.cause = .graph (.cycle path g) := by
  unfold graph?
  constructor
  · intro h
    split at h
    · rename_i e he
      cases e <;> cases h
      exact ⟨_, he⟩
    · cases h
  · rintro ⟨path, h⟩
    rw [h]
    rfl

namespace GraphRequest

variable {read : Reading} {q : GraphRequest} {r : Rollout} {g : Graph} {f : Failure}

theorem selects_iff_of_build_ok (hload : Rollout.loadValid read q.topology = .ok r)
    (hbuild : q.build r = .ok g) {g' : Graph} : q.Selects read g' ↔ g' = g := by
  simp [Selects, hload, hbuild, eq_comm]

theorem selects_iff_of_build_error (hload : Rollout.loadValid read q.topology = .ok r)
    (hbuild : q.build r = .error f) {g' : Graph} : q.Selects read g' ↔ f.graph? = some g' := by
  rw [Failure.graph?_eq_some_iff]
  simp [Selects, hload, hbuild]

/-- One graph at most is put together. -/
theorem Selects.unique {g' : Graph} (hg : q.Selects read g) (hg' : q.Selects read g') : g' = g := by
  obtain ⟨r, hload, hbuild | ⟨f, path, hbuild, -⟩⟩ := id hg
  · rw [(selects_iff_of_build_ok hload hbuild).1 hg', (selects_iff_of_build_ok hload hbuild).1 hg]
  · rw [selects_iff_of_build_error hload hbuild] at hg hg'
    exact Option.some.inj (hg'.symm.trans hg)

/-- A drawing is asked for, the graph that it shows is put together and can be drawn, and the file can be
written. -/
def Draws (q : GraphRequest) (read : Reading) (host : Host) (files : Files) (path text : String) :
    Prop :=
  q.drawing = some path ∧ (∃ g, q.Selects read g ∧ g.toDot = .ok text) ∧
    ∃ files', files.write host path text = .ok files'

/-! ## Endings -/

/-- The ways in which a command ends that was asked for a graph: it fails, with a drawing or without, or
it reports the graph, with a drawing or without. -/
inductive Ends (q : GraphRequest) (read : Reading) (coloured : Bool) (host : Host) (files : Files) :
    Outcome → Prop where
  | failed {f : Failure} (hnone : ∀ path text, ¬ q.Draws read host files path text) :
    Ends q read coloured host files ⟨.error f, files, []⟩
  | drawnFailed {f : Failure} {path text : String} {files' : Files}
    (hdraws : q.Draws read host files path text)
    (hwrite : files.write host path text = .ok files') :
    Ends q read coloured host files ⟨.error f, files', [.written path text]⟩
  | reported {r : Rollout} {g : Graph} (hload : Rollout.loadValid read q.topology = .ok r)
    (hbuild : q.build r = .ok g) (hnone : ∀ path text, ¬ q.Draws read host files path text) :
    Ends q read coloured host files ⟨.ok (), files, [.printed (graphReport coloured q g)]⟩
  | drawnReported {r : Rollout} {g : Graph} {path text : String} {files' : Files}
    (hload : Rollout.loadValid read q.topology = .ok r) (hbuild : q.build r = .ok g)
    (hdraws : q.Draws read host files path text)
    (hwrite : files.write host path text = .ok files') :
    Ends q read coloured host files
      ⟨.ok (), files', [.written path text, .printed (graphReport coloured q g)]⟩

/-- Drawing a selected graph: none is asked for, or it is written first, or the command fails. -/
theorem drawThen_cases (hg : q.Selects read g) (next : Run) (host : Host) (files : Files) :
    ((∀ path text, ¬ q.Draws read host files path text) ∧
      (drawThen q g next).performOn host files = next.performOn host files) ∨
    (∃ path text files', q.Draws read host files path text ∧
      files.write host path text = .ok files' ∧
      (drawThen q g next).performOn host files =
        (next.performOn host files').behind (.written path text)) ∨
    ((∀ path text, ¬ q.Draws read host files path text) ∧
      ∃ f, (drawThen q g next).performOn host files = ⟨.error f, files, []⟩) := by
  cases hq : q.drawing with
  | none =>
    refine .inl ⟨?_, performOn_drawThen_none hq⟩
    rintro path text ⟨hpath, -⟩
    rw [hq] at hpath
    cases hpath
  | some target =>
    cases htext : g.toDot with
    | error e =>
      refine .inr (.inr ⟨?_, _, performOn_drawThen_short hq htext⟩)
      rintro path text ⟨-, ⟨g', hg', htext'⟩, -⟩
      rw [hg.unique hg', htext] at htext'
      cases htext'
    | ok text =>
      cases hwrite : files.write host target text with
      | error e =>
        refine .inr (.inr ⟨?_, _, performOn_drawThen_unwritten hq htext hwrite⟩)
        rintro path text' ⟨hpath, ⟨g', hg', htext'⟩, files', hwrite'⟩
        obtain rfl := Option.some.inj (hq.symm.trans hpath)
        rw [hg.unique hg', htext] at htext'
        obtain rfl := Except.ok.inj htext'
        rw [hwrite] at hwrite'
        cases hwrite'
      | ok files' =>
        exact .inr (.inl ⟨target, text, files', ⟨hq, ⟨g, hg, htext⟩, files', hwrite⟩, hwrite,
          performOn_drawThen_written hq htext hwrite⟩)

/-- A graph without a cycle is reported unless drawing it fails. -/
theorem ends_drawThen_report {coloured : Bool} {host : Host} {files : Files}
    (hload : Rollout.loadValid read q.topology = .ok r) (hbuild : q.build r = .ok g) :
    q.Ends read coloured host files
      ((drawThen q g (.print (graphReport coloured q g) .succeeded)).performOn host files) := by
  have hg : q.Selects read g := (selects_iff_of_build_ok hload hbuild).2 rfl
  rcases drawThen_cases hg (.print (graphReport coloured q g) .succeeded) host files with
    ⟨hnone, heq⟩ | ⟨path, text, files', hdraws, hwrite, heq⟩ | ⟨hnone, f, heq⟩
  · rw [heq]
    exact .reported hload hbuild hnone
  · rw [heq]
    exact .drawnReported hload hbuild hdraws hwrite
  · rw [heq]
    exact .failed hnone

/-- A graph with a cycle may be drawn, and then the command fails. -/
theorem ends_drawThen_failed {coloured : Bool} {host : Host} {files : Files}
    (hg : q.Selects read g) (f : Failure) :
    q.Ends read coloured host files ((drawThen q g (.failed f)).performOn host files) := by
  rcases drawThen_cases hg (.failed f) host files with
    ⟨hnone, heq⟩ | ⟨path, text, files', hdraws, hwrite, heq⟩ | ⟨hnone, f', heq⟩
  · rw [heq]
    exact .failed hnone
  · rw [heq]
    exact .drawnFailed hdraws hwrite
  · rw [heq]
    exact .failed hnone

end GraphRequest

section Commands
variable {read : Reading} {coloured : Bool} {q : GraphRequest} {host : Host} {files : Files}

theorem ends_graphCommand (read : Reading) (coloured : Bool) (q : GraphRequest) (host : Host)
    (files : Files) :
    q.Ends read coloured host files ((graphCommand read coloured q).performOn host files) := by
  unfold graphCommand
  cases hload : Rollout.loadValid read q.topology with
  | error f =>
    refine .failed ?_
    rintro path text ⟨-, ⟨g, ⟨r, hr, -⟩, -⟩, -⟩
    rw [hload] at hr
    cases hr
  | ok r =>
    simp only [graphRun]
    cases hbuild : q.build r with
    | ok g => exact GraphRequest.ends_drawThen_report hload hbuild
    | error f =>
      have hselects {g : Graph} : q.Selects read g ↔ f.graph? = some g :=
        GraphRequest.selects_iff_of_build_error hload hbuild
      cases hgraph : f.graph? with
      | none =>
        simp only [hgraph]
        refine .failed ?_
        rintro path text ⟨-, ⟨g, hg, -⟩, -⟩
        rw [hselects, hgraph] at hg
        cases hg
      | some g =>
        simp only [hgraph]
        exact GraphRequest.ends_drawThen_failed (hselects.2 hgraph) _

/-- A command that succeeds reports a graph without a cycle. -/
theorem exists_report_of_graphCommand
    (h : ((graphCommand read coloured q).performOn host files).result = .ok ()) :
    ∃ r g, Rollout.loadValid read q.topology = .ok r ∧ q.build r = .ok g ∧
      ((graphCommand read coloured q).performOn host files).printed = [graphReport coloured q g] := by
  have hends := ends_graphCommand read coloured q host files
  generalize (graphCommand read coloured q).performOn host files = o at h hends ⊢
  cases hends with
  | failed hnone => cases h
  | drawnFailed hdraws hwrite => cases h
  | reported hload hbuild hnone => exact ⟨_, _, hload, hbuild, rfl⟩
  | drawnReported hload hbuild hdraws hwrite => exact ⟨_, _, hload, hbuild, rfl⟩

end Commands

/-! ## Effects -/

namespace GraphRequest

variable {read : Reading} {coloured : Bool} {q : GraphRequest} {host : Host} {files : Files}
  {o : Outcome} {path text : String}

/-- There is one text for one file. -/
theorem Draws.unique {path' text' : String} (h : q.Draws read host files path text)
    (h' : q.Draws read host files path' text') : path' = path ∧ text' = text := by
  obtain ⟨hpath, ⟨g, hg, htext⟩, -⟩ := h
  obtain ⟨hpath', ⟨g', hg', htext'⟩, -⟩ := h'
  rw [hg.unique hg', htext] at htext'
  exact ⟨Option.some.inj (hpath'.symm.trans hpath), (Except.ok.inj htext').symm⟩

namespace Ends

variable (h : q.Ends read coloured host files o)
include h

theorem ordered : o.effects.Pairwise fun a b =>
    (∃ path text, a = .written path text) ∧ ∃ text, b = .printed text := by
  cases h with
  | failed _ => exact .nil
  | drawnFailed _ _ => exact List.pairwise_singleton _ _
  | reported _ _ _ => exact List.pairwise_singleton _ _
  | drawnReported _ _ _ _ => exact List.pairwise_pair.2 ⟨⟨_, _, rfl⟩, _, rfl⟩

theorem printed (ho : o.result = .ok ()) : ∃ r g, Rollout.loadValid read q.topology = .ok r ∧
    q.build r = .ok g ∧ ∀ text, .printed text ∈ o.effects ↔ text = graphReport coloured q g := by
  cases h with
  | failed _ => cases ho
  | drawnFailed _ _ => cases ho
  | reported hload hbuild _ => exact ⟨_, _, hload, hbuild, by simp⟩
  | drawnReported hload hbuild _ _ => exact ⟨_, _, hload, hbuild, by simp⟩

end Ends

end GraphRequest

end RolloutPlan
