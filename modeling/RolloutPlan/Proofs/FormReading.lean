import RolloutPlan.Proofs.RecordFields
import RolloutPlan.Proofs.StructureForms

/-!
# How the forms are read

A structure is read from the entries of a mapping. The keys of the entries have to be acceptable to it, and
some of the values have to be data. Apart from that only the fields of its table show.

* `DataForm.ofDatum?`, `TreeForm.ofTree?`: the readers of the forms.
* `Shape.viewDatum`, `Shape.viewTree`: what a structure sees of the value of a field.
* `DataForm.ofDatum?_congr`, `TreeForm.ofTree?_congr`: records that show the same are read alike.
-/

namespace RolloutPlan

open Yaml

set_option autoImplicit false

/-! ## The readers -/

@[reducible] def DataForm.Result : DataForm → Type
  | .stepReference => StepReference
  | .externalStepReference => ExternalStepReference
  | .input => Input
  | .value => Value
  | .namedValue => Variable
  | .automatedRetry => AutomatedRetry
  | .dryRun => DryRun
  | .fileReference => FileReference
  | .executionConstraint => ExecutionConstraint

@[reducible] def DataForm.ofDatum? : (f : DataForm) → Datum → Option f.Result
  | .stepReference => StepReference.ofDatum?
  | .externalStepReference => ExternalStepReference.ofDatum?
  | .input => Input.ofDatum?
  | .value => Value.ofDatum?
  | .namedValue => Variable.ofDatum?
  | .automatedRetry => AutomatedRetry.ofDatum?
  | .dryRun => DryRun.ofDatum?
  | .fileReference => FileReference.ofDatum?
  | .executionConstraint => ExecutionConstraint.ofDatum?

@[reducible] def TreeForm.Result : TreeForm → Type
  | .topology => Topology
  | .service => Service
  | .entrypoint => Entrypoint
  | .pipeline => Pipeline
  | .buildStep => BuildStep
  | .resourceGroup => ResourceGroup
  | .subscriptionProvisioning => SubscriptionProvisioning
  | .value => Value
  | .input => Input
  | .step => Step
  | .validationStep => ValidationStep

/-- The number limits how deeply services may stand under each other. -/
@[reducible] def TreeForm.ofTree? : (f : TreeForm) → Nat → Tree → Option f.Result
  | .topology, _ => Topology.ofTree?
  | .service, depth => Service.ofTree? depth
  | .entrypoint, _ => Entrypoint.ofTree?
  | .pipeline, _ => Pipeline.ofTree?
  | .buildStep, _ => BuildStep.ofTree?
  | .resourceGroup, _ => ResourceGroup.ofTree?
  | .subscriptionProvisioning, _ => SubscriptionProvisioning.ofTree?
  | .value, _ => Value.ofTree?
  | .input, _ => Input.ofTree?
  | .step, _ => Step.ofTree?
  | .validationStep, _ => ValidationStep.ofTree?

/-! ## What shows of a value -/

namespace Shape

def DataView : Shape DataForm → Type
  | .leaf => Datum
  | .one f => Option f.Result × Option (Option f.Result)
  | .many f => Option (List f.Result)

/-- A structure may be asked for as something that has to be there or as something that may be absent. -/
def viewDatum : (s : Shape DataForm) → Datum → s.DataView
  | .leaf, d => d
  | .one f, d => (f.ofDatum? d, d.optional? f.ofDatum?)
  | .many f, d => d.list? f.ofDatum?

def TreeView : Shape TreeForm → Type
  | .leaf => Tree
  | .one f => Nat → Option f.Result × Option (Option f.Result)
  | .many f => Nat → Option (List f.Result)

def viewTree : (s : Shape TreeForm) → Tree → s.TreeView
  | .leaf, t => t
  | .one f, t => fun depth => (f.ofTree? depth t, t.optional? (f.ofTree? depth))
  | .many f, t => fun depth => t.list? (f.ofTree? depth)

end Shape

/-! ## Fields of data -/

section DataFields

variable {α : Type} {fields : FieldTable DataForm} {r r' : Record Datum} {key : String}

namespace Yaml.Record.Alike

variable (h : Alike Shape.viewDatum fields r r')
include h

theorem data_required (hs : fields.lookup key = some .leaf) (read : Datum → Option α) :
    r.required key read = r'.required key read :=
  h.required hs fun _ _ hv => congrArg read hv

theorem data_withDefault (hs : fields.lookup key = some .leaf) (default : α)
    (read : Datum → Option α) : r.withDefault key default read = r'.withDefault key default read :=
  h.withDefault hs (fun _ _ hv => congrArg read hv) default

theorem data_optional (hs : fields.lookup key = some .leaf) (read : Datum → Option (Option α)) :
    r.optional key read = r'.optional key read :=
  h.data_withDefault hs none read

theorem data_one {f : DataForm} (hs : fields.lookup key = some (.one f)) (default : f.Result) :
    r.withDefault key default f.ofDatum? = r'.withDefault key default f.ofDatum? :=
  h.withDefault hs (fun _ _ hv => congrArg Prod.fst hv) default

theorem data_optionalOne {f : DataForm} (hs : fields.lookup key = some (.one f)) :
    r.optional key (Datum.optional? f.ofDatum?) = r'.optional key (Datum.optional? f.ofDatum?) :=
  h.withDefault hs (fun _ _ hv => congrArg Prod.snd hv) none

theorem data_many {f : DataForm} (hs : fields.lookup key = some (.many f)) :
    r.withDefault key [] (Datum.list? f.ofDatum?) = r'.withDefault key [] (Datum.list? f.ofDatum?) :=
  h.withDefault hs (fun _ _ hv => hv) []

end Yaml.Record.Alike

theorem bind_congr_rel {β : Type} {R : α → α → Prop} {o o' : Option α} {g : α → Option β}
    (h : Option.Rel R o o') (hg : ∀ a b, R a b → g a = g b) : o.bind g = o'.bind g := by
  cases h with
  | none => rfl
  | some hab => exact hg _ _ hab

end DataFields

/-! ## Structures that are read as data -/

namespace DataForm

/-- The record that a structure is read from. -/
def record? : DataForm → Datum → Option (Record Datum)
  | .input, d => d.keyed
  | .namedValue, d => d.keyed
  | f, d => d.record? f.positions

end DataForm

theorem StepReference.ofRecord?_congr {fields : FieldTable DataForm} {r r' : Record Datum}
    (h : Record.Alike Shape.viewDatum fields r r')
    (hgroup : fields.lookup "resourceGroup" = some .leaf) (hstep : fields.lookup "step" = some .leaf) :
    ofRecord? r = ofRecord? r' := by
  rw [ofRecord?, ofRecord?, h.data_required hgroup, h.data_required hstep]

theorem Value.ofRecord?_congr {fields : FieldTable DataForm} {r r' : Record Datum}
    (h : Record.Alike Shape.viewDatum fields r r') (hvalue : fields.lookup "value" = some .leaf)
    (hconfig : fields.lookup "configRef" = some .leaf)
    (hinput : fields.lookup "input" = some (.one .input)) : ofRecord? r = ofRecord? r' := by
  rw [ofRecord?, ofRecord?, h.data_optional hvalue, h.data_optional hconfig,
    h.data_optionalOne (f := .input) hinput]

theorem DataForm.ofDatum?_congr (f : DataForm) {d d' : Datum}
    (h : Option.Rel (Record.Alike Shape.viewDatum f.fields) (f.record? d) (f.record? d')) :
    f.ofDatum? d = f.ofDatum? d' := by
  cases f with
  | stepReference =>
    refine bind_congr_rel h fun r r' hr => ?_
    exact StepReference.ofRecord?_congr hr rfl rfl
  | externalStepReference =>
    refine bind_congr_rel h fun r r' hr => ?_
    rw [hr.data_required rfl, hr.data_required rfl, hr.data_required rfl]
  | input =>
    refine bind_congr_rel h fun r r' hr => ?_
    rw [hr.data_required rfl, StepReference.ofRecord?_congr hr rfl rfl]
  | value =>
    refine bind_congr_rel h fun r r' hr => ?_
    exact Value.ofRecord?_congr hr rfl rfl rfl
  | namedValue =>
    refine bind_congr_rel h fun r r' hr => ?_
    rw [hr.data_required rfl, Value.ofRecord?_congr hr rfl rfl rfl]
  | automatedRetry =>
    refine bind_congr_rel h fun r r' hr => ?_
    rw [hr.data_withDefault rfl, hr.data_required rfl, hr.data_optional rfl]
  | dryRun =>
    refine bind_congr_rel h fun r r' hr => ?_
    rw [hr.data_many (f := .namedValue) rfl, hr.data_withDefault rfl]
  | fileReference =>
    refine bind_congr_rel h fun r r' hr => ?_
    rw [hr.data_required rfl, hr.data_required rfl]
  | executionConstraint =>
    refine bind_congr_rel h fun r r' hr => ?_
    rw [hr.data_withDefault rfl, hr.data_withDefault rfl, hr.data_withDefault rfl,
      hr.data_withDefault rfl]

/-! ## Bodies of steps -/

theorem StepHeader.ofRecord?_congr {r r' : Record Datum}
    (h : Record.Alike Shape.viewDatum fields r r') : ofRecord? r = ofRecord? r' := by
  rw [ofRecord?, ofRecord?, h.data_required rfl, h.data_many (f := .stepReference) rfl,
    h.data_many (f := .externalStepReference) rfl, h.data_optionalOne (f := .automatedRetry) rfl]

namespace StepBody

variable {r r' : Record Datum}

section Fields

variable {table : FieldTable DataForm} (h : Record.Alike Shape.viewDatum table r r') {key : String}
include h

theorem text?_congr (hs : table.lookup key = some .leaf) : text? r key = text? r' key :=
  h.data_withDefault hs "" _

theorem value?_congr (hs : table.lookup key = some (.one .value)) : value? r key = value? r' key :=
  h.data_one (f := .value) hs {}

theorem bindings?_congr (hs : table.lookup "variables" = some (.many .namedValue)) :
    bindings? r = bindings? r' :=
  h.data_many (f := .namedValue) hs

end Fields

theorem shell?_congr (h : Record.Alike Shape.viewDatum (fields "Shell") r r') :
    shell? r = shell? r' := by
  rw [shell?, shell?, text?_congr h rfl, bindings?_congr h rfl, h.data_one (f := .dryRun) rfl,
    h.data_many (f := .fileReference) rfl, text?_congr h rfl, value?_congr h rfl]

theorem ofRecord?_congr {action : String}
    (h : Record.Alike Shape.viewDatum (fields action) r r') :
    ofRecord? action r = ofRecord? action r' := by
  unfold ofRecord?
  split
  · rw [arm?, arm?, bindings?_congr h rfl, text?_congr h rfl, text?_congr h rfl,
      text?_congr h rfl, h.data_withDefault rfl, text?_congr h rfl]
  · rw [shell?_congr h]
  · simp (disch := simp [fields, leafFields, valueFields, List.lookup_cons]) only [helm?, text?_congr h,
      value?_congr h, bindings?_congr h]
  · rw [delegateChildZone?, delegateChildZone?, value?_congr h rfl, value?_congr h rfl]
  · simp (disch := simp [fields, valueFields, List.lookup_cons]) only [setCertificateIssuer?, value?_congr h]
  · simp (disch := simp [fields, valueFields, List.lookup_cons]) only [createCertificate?, value?_congr h]
  · rw [resourceProviderRegistration?, resourceProviderRegistration?, value?_congr h rfl]
  · simp (disch := simp [fields, valueFields, List.lookup_cons]) only [imageMirror?, text?_congr h,
      value?_congr h]
  · simp (disch := simp [fields, valueFields, List.lookup_cons]) only [logs?, value?_congr h]
  · rfl

/-- No body has a field that is called like one of the header. -/
theorem lookup_header_eq_none (action : String) :
    ∀ e ∈ fields action, StepHeader.fields.lookup e.1 = none := by
  unfold fields
  split <;> simp [leafFields, valueFields, StepHeader.fields, List.lookup_cons]

theorem alike_of_step {action : String}
    (h : Record.Alike Shape.viewDatum (StepHeader.fields ++ fields action) r r') :
    Record.Alike Shape.viewDatum StepHeader.fields r r' ∧
      Record.Alike Shape.viewDatum (fields action) r r' := by
  constructor
  · intro key s hs
    exact h key s (by rw [List.lookup_append, hs, Option.some_or])
  · intro key s hs
    have hmem : (key, s) ∈ fields action := by
      obtain ⟨l₁, l₂, heq, -⟩ := List.lookup_eq_some_iff.1 hs
      rw [heq]
      exact List.mem_append_right l₁ List.mem_cons_self
    have hnone := lookup_header_eq_none action (key, s) hmem
    exact h key s (by rw [List.lookup_append, hnone, Option.none_or, hs])

end StepBody

/-! ## Fields that are read directly -/

section TreeFields

variable {α : Type} {table : FieldTable TreeForm} {r r' : Record Tree} {key : String}

namespace Yaml.Record.Alike

variable (h : Alike Shape.viewTree table r r')
include h

theorem tree_required (hs : table.lookup key = some .leaf) (read : Tree → Option α) :
    r.required key read = r'.required key read :=
  h.required hs fun _ _ hv => congrArg read hv

theorem tree_withDefault (hs : table.lookup key = some .leaf) (default : α)
    (read : Tree → Option α) : r.withDefault key default read = r'.withDefault key default read :=
  h.withDefault hs (fun _ _ hv => congrArg read hv) default

theorem tree_optional (hs : table.lookup key = some .leaf) (read : Tree → Option (Option α)) :
    r.optional key read = r'.optional key read :=
  h.tree_withDefault hs none read

theorem tree_requiredOne {f : TreeForm} (hs : table.lookup key = some (.one f)) (depth : Nat) :
    r.required key (f.ofTree? depth) = r'.required key (f.ofTree? depth) :=
  h.required hs fun _ _ hv => congrArg Prod.fst (congrFun hv depth)

theorem tree_optionalOne {f : TreeForm} (hs : table.lookup key = some (.one f)) (depth : Nat) :
    r.optional key (Tree.optional? (f.ofTree? depth)) =
      r'.optional key (Tree.optional? (f.ofTree? depth)) :=
  h.withDefault hs (fun _ _ hv => congrArg Prod.snd (congrFun hv depth)) none

theorem tree_many {f : TreeForm} (hs : table.lookup key = some (.many f)) (depth : Nat) :
    r.withDefault key [] (Tree.list? (f.ofTree? depth)) =
      r'.withDefault key [] (Tree.list? (f.ofTree? depth)) :=
  h.withDefault hs (fun _ _ hv => congrFun hv depth) []

end Yaml.Record.Alike

end TreeFields

/-! ## Structures that are read directly -/

/-- Whether a structure shares no fields with others, so that nothing in it is read as data. -/
def TreeForm.isDirect : TreeForm → Bool
  | .resourceGroup => false
  | .input => false
  | .step => false
  | .validationStep => false
  | _ => true

theorem TreeForm.ofTree?_congr {f : TreeForm} (hf : f.isDirect = true) {t t' : Tree}
    (h : Option.Rel (Record.Alike Shape.viewTree f.directFields) t.record? t'.record?)
    (depth : Nat) : f.ofTree? depth t = f.ofTree? depth t' := by
  cases f with
  | topology =>
    refine bind_congr_rel h fun r r' hr => ?_
    rw [hr.tree_many (f := .service) rfl maxDepth, hr.tree_many (f := .entrypoint) rfl depth]
  | service =>
    cases depth with
    | zero => rfl
    | succ depth =>
      refine bind_congr_rel h fun r r' hr => ?_
      rw [hr.tree_required rfl, hr.tree_optional rfl, hr.tree_optional rfl,
        hr.tree_many (f := .service) rfl depth, hr.tree_withDefault rfl]
  | entrypoint =>
    refine bind_congr_rel h fun r r' hr => ?_
    rw [hr.tree_required rfl, hr.tree_withDefault rfl]
  | pipeline =>
    refine bind_congr_rel h fun r r' hr => ?_
    rw [hr.tree_optional rfl, hr.tree_required rfl, hr.tree_withDefault rfl,
      hr.tree_many (f := .resourceGroup) rfl depth, hr.tree_optionalOne (f := .buildStep) rfl depth]
  | buildStep =>
    refine bind_congr_rel h fun r r' hr => ?_
    rw [hr.tree_required rfl, hr.tree_withDefault rfl]
  | subscriptionProvisioning =>
    refine bind_congr_rel h fun r r' hr => ?_
    rw [hr.tree_requiredOne (f := .value) rfl depth, hr.tree_optionalOne (f := .value) rfl depth,
      hr.tree_optionalOne (f := .value) rfl depth]
  | value =>
    refine bind_congr_rel h fun r r' hr => ?_
    rw [hr.tree_optional rfl, hr.tree_optional rfl, hr.tree_optionalOne (f := .input) rfl depth]
  | resourceGroup => cases hf
  | input => cases hf
  | step => cases hf
  | validationStep => cases hf

/-- Two records of which the first has been read directly, and the second as data. -/
def SplitAlike (f : TreeForm) (l : List (Tree × Tree)) (p p' : Record Tree × Record Datum) : Prop :=
  Record.Alike Shape.viewTree f.directFields p.1 p'.1 ∧
    Record.Alike Shape.viewDatum (f.dataFields l) p.2 p'.2

theorem Input.ofTree?_congr {l : List (Tree × Tree)} {t t' : Tree}
    (h : Option.Rel (SplitAlike .input l) (t.split? ["name"]) (t'.split? ["name"])) :
    ofTree? t = ofTree? t' := by
  refine bind_congr_rel h fun ⟨own, rest⟩ ⟨own', rest'⟩ ⟨hown, hrest⟩ => ?_
  dsimp only at hown hrest ⊢
  rw [hown.tree_required rfl, StepReference.ofRecord?_congr hrest rfl rfl]

theorem ResourceGroupTarget.ofRecord?_congr {r r' : Record Datum}
    (h : Record.Alike Shape.viewDatum (TreeForm.resourceGroup.dataFields []) r r') :
    ofRecord? r = ofRecord? r' := by
  rw [ofRecord?, ofRecord?, h.data_required rfl, h.data_required rfl, h.data_required rfl,
    h.data_many (f := .executionConstraint) rfl]

theorem ResourceGroup.ofTree?_congr {l : List (Tree × Tree)} {t t' : Tree}
    (h : Option.Rel (SplitAlike .resourceGroup l)
      (t.split? ["subscriptionProvisioning", "steps", "validationSteps"])
      (t'.split? ["subscriptionProvisioning", "steps", "validationSteps"])) :
    ofTree? t = ofTree? t' := by
  refine bind_congr_rel h fun ⟨own, rest⟩ ⟨own', rest'⟩ ⟨hown, hrest⟩ => ?_
  dsimp only at hown hrest ⊢
  rw [ResourceGroupTarget.ofRecord?_congr hrest,
    hown.tree_optionalOne (f := .subscriptionProvisioning) rfl 0, hown.tree_many (f := .step) rfl 0,
    hown.tree_many (f := .validationStep) rfl 0]

/-- Two steps that say the same about their kind, and whose records show the same at the fields of a
table that depends on it. -/
def StepAlike (table : String → FieldTable DataForm) (p p' : String × Record Datum) : Prop :=
  p.1 = p'.1 ∧ Record.Alike Shape.viewDatum (StepHeader.fields ++ table p.1) p.2 p'.2

theorem Step.ofTree?_congr {t t' : Tree}
    (h : Option.Rel (StepAlike StepBody.fields) t.action? t'.action?) : ofTree? t = ofTree? t' := by
  refine bind_congr_rel h fun ⟨action, r⟩ ⟨action', r'⟩ ⟨haction, hr⟩ => ?_
  dsimp only at haction hr ⊢
  subst haction
  obtain ⟨hheader, hbody⟩ := StepBody.alike_of_step hr
  rw [StepHeader.ofRecord?_congr hheader, StepBody.ofRecord?_congr hbody]

theorem ValidationStep.ofTree?_congr {t t' : Tree}
    (h : Option.Rel (StepAlike fun _ => StepBody.fields "Shell") t.action? t'.action?) :
    ofTree? t = ofTree? t' := by
  refine bind_congr_rel h fun ⟨action, r⟩ ⟨action', r'⟩ ⟨haction, hr⟩ => ?_
  dsimp only at haction hr ⊢
  subst haction
  obtain ⟨hheader, hbody⟩ := StepBody.alike_of_step hr
  rw [StepHeader.ofRecord?_congr hheader, StepBody.shell?_congr hbody]

end RolloutPlan
