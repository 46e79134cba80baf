import Mathlib.Order.Nat
import RolloutPlan.Proofs.WrittenRecord
import RolloutPlan.Topology.Format

/-!
# Topologies that were written

A topology is read directly: every scalar is a text, and only a plain word can say that something is
absent. What is written stands in quotes, so that a purpose that spells a null is still there afterwards.

* `Service.induction`: induction over a forest.
* `metadataOfTree?_encode`: metadata are read as they were.
* `Service.ofTree?_encode`, `Entrypoint.ofTree?_encode`: the parts of a topology.
* `Topology.read_of_written`: a topology that was written as a document, not nested too deeply, is read
  as it was.
-/

namespace RolloutPlan

open Yaml

set_option autoImplicit false

variable {ms : List (String × Json)}

/-! ## Nesting of JSON values -/

namespace Yaml

/-- The members of an object are nested less deeply than the object. -/
theorem Tree.depth_of_mem_object {n : Nat} (h : (Tree.ofJson (.object ms)).depth ≤ n + 1)
    {e : String × Json} (he : e ∈ ms) : (Tree.ofJson e.2).depth ≤ n := by
  rw [Tree.ofJson_object, Tree.depth, Nat.add_le_add_iff_right, depthOfEntries_le_iff] at h
  exact (h _ (List.mem_map_of_mem he)).2

/-- The items of an array are nested less deeply than the array. -/
theorem Tree.depth_of_mem_array {l : List Json} {n : Nat}
    (h : (Tree.ofJson (.array l)).depth ≤ n + 1) {j : Json} (hj : j ∈ l) :
    (Tree.ofJson j).depth ≤ n := by
  rw [Tree.ofJson_array, Tree.depth, Nat.add_le_add_iff_right, depthOfItems_le_iff] at h
  exact h _ (List.mem_map_of_mem hj)

theorem Tree.depth_object_pos : 0 < (Tree.ofJson (.object ms)).depth := by
  rw [Tree.ofJson_object, Tree.depth]
  exact Nat.succ_pos _

end Yaml

theorem Json.someArray_of_mem {α : Type} {encode : α → Json} {l : List α} {a : α} (ha : a ∈ l) :
    someArray encode l = some (.array (l.map encode)) :=
  if_neg (by simpa using List.ne_nil_of_mem ha)

/-! ## Metadata -/

/-- The value that is written for metadata. -/
def metadataValue? (m : SortedMap String String) : Option Json :=
  if m.isEmpty then none else some (.object (m.map fun (k, v) => (k, .string v)))

theorem metadataMembers_eq_member (m : SortedMap String String) :
    metadataMembers m = Json.member "metadata" (metadataValue? m) := by
  unfold metadataMembers metadataValue?
  split_ifs <;> rfl

theorem metadataOfTree?_encode (m : SortedMap String String) :
    (metadataValue? m).elim (some ∅) (fun j => metadataOfTree? (Tree.ofJson j)) = some m := by
  have hread : (m.entries.map fun e => (Tree.ofString e.1, Tree.ofString e.2)).mapM
      (fun e => e.1.text?.bind fun k => e.2.text?.bind fun v => some (k, v)) = some m.entries :=
    mapM_map_eq_self (f := fun e : String × String => (Tree.ofString e.1, Tree.ofString e.2))
      fun _ _ => rfl
  unfold metadataValue?
  split_ifs with hempty
  · have hm : m = ∅ := SortedMap.ext (List.isEmpty_iff.1 hempty)
    rw [hm, Option.elim_none]
  · rw [Option.elim_some, Tree.ofJson_object, metadataOfTree?, SortedMap.map, List.map_map]
    simp only [Tree.entries?, Option.bind_eq_bind, Option.bind_some, Option.pure_def]
    refine (congrArg (Option.bind · fun l => some (Sorted.ofPairs l)) hread).trans ?_
    rw [Option.bind_some, Sorted.ofPairs_entries]

/-! ## Services -/

namespace Service

/-- Induction over a forest: what holds of a service if it holds of those under it holds of all. -/
theorem induction {motive : Service → Prop}
    (h : ∀ s, (∀ c ∈ s.children, motive c) → motive s) (s : Service) : motive s :=
  h s fun c _ => induction h c
termination_by sizeOf s
decreasing_by
  rename_i hc
  have hlt := List.sizeOf_lt_of_mem hc
  cases s
  simp only [Service.mk.sizeOf_spec]
  simp only at hlt
  omega

theorem encodeAll_eq_map (l : List Service) : encodeAll l = l.map encode := by
  induction l with
  | nil => rfl
  | cons s l ih => rw [encodeAll, ih, List.map_cons]

/-- The members of the object that is written. -/
def members (s : Service) : List (String × Json) :=
  ("serviceGroup", .string s.serviceGroup) ::
    (Json.member "purpose" (s.purpose.map .string) ++
      Json.member "pipelinePath" (s.pipelinePath.map .string) ++
      Json.member "children" (Json.someArray encode s.children) ++
      Json.member "metadata" (metadataValue? s.metadata))

theorem encode_eq (s : Service) : s.encode = .object s.members := by
  obtain ⟨group, purpose, path, children, metadata⟩ := s
  rw [encode, members, Json.presentText_eq_member, Json.presentText_eq_member, encodeAll_eq_map,
    metadataMembers_eq_member, ← Json.nonempty_eq_member]
  rfl

theorem keys_nodup (s : Service) : (s.members.map (·.1)).Nodup := by
  have hsublist : (s.members.map (·.1)).Sublist
      ["serviceGroup", "purpose", "pipelinePath", "children", "metadata"] := by
    simp only [members, List.map_cons, List.map_append]
    exact ((((Json.keys_member_sublist "purpose" _).append
      (Json.keys_member_sublist "pipelinePath" _)).append
      (Json.keys_member_sublist "children" _)).append
      (Json.keys_member_sublist "metadata" _)).cons_cons "serviceGroup"
  exact hsublist.nodup (by decide)

theorem lookup_members (s : Service) :
    s.members.lookup "serviceGroup" = some (.string s.serviceGroup) ∧
      s.members.lookup "purpose" = s.purpose.map .string ∧
      s.members.lookup "pipelinePath" = s.pipelinePath.map .string ∧
      s.members.lookup "children" = Json.someArray encode s.children ∧
      s.members.lookup "metadata" = metadataValue? s.metadata := by
  simp [members, List.lookup_append, List.lookup_cons]

/-- The services under a service are nested less deeply than the service. -/
theorem depth_of_mem_children {s c : Service} {n : Nat} (h : (Tree.ofJson s.encode).depth ≤ n + 1)
    (hc : c ∈ s.children) : (Tree.ofJson c.encode).depth ≤ n := by
  have hchildren : ("children", .array (s.children.map encode)) ∈ s.members := by
    simp [members, Json.member, Json.someArray_of_mem hc]
  rw [encode_eq] at h
  have harray := Tree.depth_of_mem_object h hchildren
  exact Tree.depth_of_mem_array (harray.trans (Nat.le_succ n)) (List.mem_map_of_mem hc)

/-- A service that was written is read as it was, as long as it is not nested too deeply. -/
theorem ofTree?_encode (s : Service) : ∀ {n : Nat}, (Tree.ofJson s.encode).depth ≤ n →
    ofTree? n (Tree.ofJson s.encode) = some s := by
  induction s using Service.induction with
  | h s ih =>
    intro n hdepth
    cases n with
    | zero =>
      rw [encode_eq] at hdepth
      exact absurd hdepth (Nat.not_le_of_lt Tree.depth_object_pos)
    | succ n =>
      have hchildren : ∀ c ∈ s.children, ofTree? n (Tree.ofJson c.encode) = some c :=
        fun c hc => ih c hc (depth_of_mem_children hdepth hc)
      have hkeys := s.keys_nodup
      obtain ⟨hgroup, hpurpose, hpath, hunder, hmetadata⟩ := s.lookup_members
      rw [ofTree?, encode_eq, Json.tree_record?_ofJson]
      simp only [Option.bind_eq_bind, Option.bind_some, Json.required_record hkeys,
        Json.withDefault_record hkeys, Json.optional_record hkeys, hgroup, hpurpose, hpath, hunder,
        hmetadata, Tree.text?_ofJson]
      rw [Json.elim_map_encode fun p _ => rfl, Json.elim_map_encode fun p _ => rfl,
        Json.elim_someArray (Tree.list?_ofJson hchildren), metadataOfTree?_encode]
      cases s
      rfl

end Service

/-! ## Entrypoints -/

namespace Entrypoint

theorem ofTree?_encode (e : Entrypoint) : ofTree? (Tree.ofJson e.encode) = some e := by
  have hkeys : ((("identifier", Json.string e.identifier) ::
      Json.member "metadata" (metadataValue? e.metadata)).map (·.1)).Nodup :=
    ((Json.keys_member_sublist "metadata" _).cons_cons "identifier").nodup (by decide)
  rw [ofTree?, encode, metadataMembers_eq_member, Json.tree_record?_ofJson]
  simp only [Option.bind_eq_bind, Option.bind_some, Json.required_record hkeys,
    Json.withDefault_record hkeys, List.lookup_cons_self, Tree.text?_ofJson,
    Sorted.lookup_cons_of_ne (show "metadata" ≠ "identifier" by decide), Json.lookup_member,
    reduceIte]
  rw [metadataOfTree?_encode]
  rfl

end Entrypoint

/-! ## Topologies -/

namespace Topology

variable {t : Topology}

/-- The members of the object that is written. -/
def members (t : Topology) : List (String × Json) :=
  Json.member "services" (Json.someArray Service.encode t.services) ++
    Json.member "entrypoints" (Json.someArray Entrypoint.encode t.entrypoints)

theorem encode_eq (t : Topology) : t.encode = .object t.members := by
  rw [encode, members, Service.encodeAll_eq_map, ← Json.nonempty_eq_member,
    ← Json.nonempty_eq_member]
  rfl

theorem keys_nodup (t : Topology) : (t.members.map (·.1)).Nodup := by
  rw [members, List.map_append]
  exact ((Json.keys_member_sublist "services" _).append
    (Json.keys_member_sublist "entrypoints" _)).nodup (by decide)

theorem lookup_members (t : Topology) :
    t.members.lookup "services" = Json.someArray Service.encode t.services ∧
      t.members.lookup "entrypoints" = Json.someArray Entrypoint.encode t.entrypoints := by
  simp [members, List.lookup_append]

/-- The services of a topology are nested less deeply than the topology. -/
theorem depth_of_mem_services {s : Service} {n : Nat} (h : (Tree.ofJson t.encode).depth ≤ n + 1)
    (hs : s ∈ t.services) : (Tree.ofJson s.encode).depth ≤ n := by
  have hservices : ("services", .array (t.services.map Service.encode)) ∈ t.members := by
    simp [members, Json.member, Json.someArray_of_mem hs]
  rw [encode_eq] at h
  have harray := Tree.depth_of_mem_object h hservices
  exact Tree.depth_of_mem_array (harray.trans (Nat.le_succ n)) (List.mem_map_of_mem hs)

theorem ofTree?_encode (hdepth : (Tree.ofJson t.encode).depth ≤ maxDepth) :
    ofTree? (Tree.ofJson t.encode) = some t := by
  have hservices : ∀ s ∈ t.services,
      Service.ofTree? maxDepth (Tree.ofJson s.encode) = some s := fun s hs =>
    s.ofTree?_encode (depth_of_mem_services (hdepth.trans (Nat.le_succ _)) hs)
  have hkeys := t.keys_nodup
  obtain ⟨hforest, hentrypoints⟩ := t.lookup_members
  rw [ofTree?, encode_eq, Json.tree_record?_ofJson]
  simp only [Option.bind_eq_bind, Option.bind_some, Json.withDefault_record hkeys, hforest,
    hentrypoints]
  rw [Json.elim_someArray (Tree.list?_ofJson hservices),
    Json.elim_someArray (Tree.list?_ofJson fun e _ => Entrypoint.ofTree?_encode e)]
  rfl

/-- A topology that was written as a document is read from it as it was: the whole forest, what is left
out because it is empty, and every text, whatever it spells. -/
theorem read_of_written (hdepth : (Tree.ofJson t.encode).depth ≤ maxDepth) :
    ofTree? ((Tree.ofJson t.encode).limited maxDepth) = some t := by
  rw [Tree.limited_of_depth_le hdepth, ofTree?_encode hdepth]

/-- A forest with texts in it that spell a null, a truth value and numbers. -/
def regionTopology : Topology where
  services := [{
    serviceGroup := "Contoso.Region"
    purpose := some "null"
    children := [
      { serviceGroup := "true", pipelinePath := some "~", metadata := ⟨[("1e3", ""), ("no", "007")], by decide⟩ },
      { serviceGroup := "Contoso.Zone", purpose := some "", children := [{ serviceGroup := "" }] }] }]
  entrypoints := [{ identifier := "Contoso.Region", metadata := ⟨[("null", "null")], by decide⟩ }]

theorem read_of_written_regionTopology :
    (Tree.ofJson regionTopology.encode).depth ≤ maxDepth ∧
      ofTree? ((Tree.ofJson regionTopology.encode).limited maxDepth) = some regionTopology :=
  ⟨by decide, read_of_written (by decide)⟩

end Topology

end RolloutPlan
