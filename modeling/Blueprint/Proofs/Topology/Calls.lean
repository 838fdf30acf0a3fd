import Blueprint.Handle
import Blueprint.Proofs.Topology.Validity
import Mathlib.Data.List.Induction

/-! A topology under a run of calls: declarations, imports and what handles do on its behalf, in any
order and with any arguments. Some calls are refused; the caller goes on with what such a call has
left. -/

namespace Blueprint

namespace RuntimeHandle

variable {r : RuntimeHandle} {t : Topology}

/-- A service with a free identifier is declared as it is, and its handle is finalized. -/
theorem declareIn_of_free (hFree : r.serviceId ∉ t.resources.map Resource.id) :
    r.declareIn t =
      (.ok (), { r with finalized := true },
        { t with resources := t.resources ++ [r.resource] }) := by
  have hResource : r.resource.id ∉ t.resources.map Resource.id := hFree
  rw [declareIn, Topology.declareResource_of_free hResource]

/-- A service with a taken identifier is refused; the handle and the topology stay as they were. -/
theorem declareIn_of_taken (hTaken : r.serviceId ∈ t.resources.map Resource.id) :
    r.declareIn t = (.error (.duplicateResource t.name r.serviceId.text), r, t) := by
  have hResource : r.resource.id ∈ t.resources.map Resource.id := hTaken
  rw [declareIn, Topology.declareResource_of_taken hResource]
  rfl

theorem declareIn_topology (r : RuntimeHandle) (t : Topology) :
    (r.declareIn t).2.2 = (t.declareResource r.resource).2 := by
  unfold declareIn
  split
  next hDeclared => rw [hDeclared]
  next hRefused => rw [hRefused]

end RuntimeHandle

namespace Topology

/-- A call on a topology, with what is passed to it. -/
inductive Call where
  | allowCrossRegion
  | add (resource : Resource)
  | addOutput (output : Output)
  | importRef (reference : Reference)
  /-- Let the topology retrieve some credentials. -/
  | retrieval (credentials : CredentialHandle)
  /-- Declare a service with all that was attached to it. -/
  | finalize (runtime : RuntimeHandle)

/-- The answer to a call that is not refused. -/
inductive Reply where
  | done
  | declared (reference : Reference)
  | imported (value : Value)
  | granted (statement : PolicyStatement)
  | finalized (runtime : RuntimeHandle)

namespace Call

/-- A call as its caller sees it: the answer or the error, and the topology that is left. -/
def run : Call → Topology → Except ModelError Reply × Topology
  | .allowCrossRegion, t => (.ok .done, t.allowCrossRegion)
  | .add resource, t => (t.declareResource resource).map (Except.map .declared) id
  | .addOutput output, t => (t.declareOutput output).map (Except.map fun _ => .done) id
  | .importRef reference, t => (t.importRef reference).map (fun value => .ok (.imported value)) id
  | .retrieval credentials, t =>
    (credentials.retrieval t).map (fun statement => .ok (.granted statement)) id
  | .finalize runtime, t =>
    let (result, runtime, t) := runtime.declareIn t
    (result.map fun _ => .finalized runtime, t)

/-- The topology whose reference a call imports. -/
def producer? : Call → Option String
  | .importRef reference => some reference.topology
  | .retrieval credentials => some credentials.secret.topology
  | _ => none

/-- A call is refused with an error: it declares what is declared already. -/
inductive Refused (t : Topology) : Call → ModelError → Prop where
  | add {resource : Resource} (hTaken : resource.id ∈ t.resources.map Resource.id) :
      Refused t (.add resource) (.duplicateResource t.name resource.id.text)
  | addOutput {output : Output} (hTaken : output.id ∈ t.outputs.map Output.id) :
      Refused t (.addOutput output) (.duplicateOutput t.name output.id)
  | finalize {runtime : RuntimeHandle} (hTaken : runtime.serviceId ∈ t.resources.map Resource.id) :
      Refused t (.finalize runtime) (.duplicateResource t.name runtime.serviceId.text)

/-- A refused call leaves the topology as it was. -/
theorem run_of_refused {t : Topology} {call : Call} {e : ModelError} (h : Refused t call e) :
    call.run t = (.error e, t) := by
  cases h with
  | add hTaken =>
      rw [run, declareResource_of_taken hTaken]
      rfl
  | addOutput hTaken =>
      rw [run, declareOutput_of_taken hTaken]
      rfl
  | finalize hTaken =>
      rw [run, RuntimeHandle.declareIn_of_taken hTaken]
      rfl

/-- A call is refused, or it is answered and is one operation of the topology. -/
theorem run_cases (call : Call) (t : Topology) :
    (∃ e, Refused t call e) ∨ ∃ reply next, call.run t = (.ok reply, next) ∧ Step t next := by
  cases call with
  | allowCrossRegion => exact .inr ⟨_, _, rfl, .allowCrossRegion t⟩
  | add resource =>
      by_cases hTaken : resource.id ∈ t.resources.map Resource.id
      · exact .inl ⟨_, .add hTaken⟩
      · refine .inr ⟨.declared (t.reference resource.id Attribute.self), _, ?_,
          .add (add_eq_ok_iff.mpr ⟨hTaken, rfl⟩)⟩
        rw [run, declareResource_of_free hTaken]
        rfl
  | addOutput output =>
      by_cases hTaken : output.id ∈ t.outputs.map Output.id
      · exact .inl ⟨_, .addOutput hTaken⟩
      · refine .inr ⟨.done, _, ?_, .addOutput (addOutput_eq_ok_iff.mpr ⟨hTaken, rfl⟩)⟩
        rw [run, declareOutput_of_free hTaken]
        rfl
  | importRef reference => exact .inr ⟨_, _, rfl, .importRef t reference⟩
  | retrieval credentials => exact .inr ⟨_, _, rfl, .importRef t credentials.secret⟩
  | finalize runtime =>
      by_cases hTaken : runtime.serviceId ∈ t.resources.map Resource.id
      · exact .inl ⟨_, .finalize hTaken⟩
      · have hAdd : t.add runtime.resource = .ok _ := add_eq_ok_iff.mpr ⟨hTaken, rfl⟩
        refine .inr ⟨.finalized { runtime with finalized := true }, _, ?_, .add hAdd⟩
        rw [run, RuntimeHandle.declareIn_of_free hTaken]
        rfl

/-- A call is refused for a taken identifier and for nothing else. -/
theorem run_eq_error_iff {call : Call} {t : Topology} {e : ModelError} :
    (call.run t).1 = .error e ↔ Refused t call e := by
  constructor
  · intro hError
    rcases call.run_cases t with ⟨e', hRefused⟩ | ⟨reply, next, hRun, -⟩
    · rw [run_of_refused hRefused] at hError
      exact Except.error.inj hError ▸ hRefused
    · rw [hRun] at hError
      cases hError
  · intro hRefused
    rw [run_of_refused hRefused]

/-- A call leaves the topology alone or is one operation of it. -/
theorem grows_run (call : Call) (t : Topology) : Grows t (call.run t).2 := by
  rcases call.run_cases t with ⟨e, hRefused⟩ | ⟨reply, next, hRun, hStep⟩
  · rw [run_of_refused hRefused]
    exact .refl
  · rw [hRun]
    exact .single hStep

theorem run_importRef (reference : Reference) (t : Topology) :
    (importRef reference).run t =
      (.ok (.imported (t.importRef reference).1), (t.importRef reference).2) := rfl

/-- Only an import records a dependency. -/
theorem dependencies_run_of_none {call : Call} (h : call.producer? = none) (t : Topology) :
    (call.run t).2.dependencies = t.dependencies := by
  cases call with
  | allowCrossRegion => rfl
  | add resource => exact t.declareResource_dependencies resource
  | addOutput output => exact t.declareOutput_dependencies output
  | importRef reference => cases h
  | retrieval credentials => cases h
  | finalize runtime =>
      rw [run, runtime.declareIn_topology]
      exact t.declareResource_dependencies runtime.resource

/-- An import records the topology it takes the reference from. -/
theorem dependencies_run_of_some {call : Call} {producer : String}
    (h : call.producer? = some producer) (t : Topology) :
    (call.run t).2.dependencies =
      if producer = t.name ∨ producer ∈ t.dependencies then t.dependencies
      else t.dependencies ++ [producer] := by
  have hDependOn (reference : Reference) : (t.dependOn reference).dependencies =
      if reference.topology = t.name ∨ reference.topology ∈ t.dependencies then t.dependencies
      else t.dependencies ++ [reference.topology] := by
    unfold dependOn
    split <;> rfl
  cases call with
  | importRef reference =>
      cases h
      exact hDependOn reference
  | retrieval credentials =>
      cases h
      exact hDependOn credentials.secret
  | allowCrossRegion => cases h
  | add resource => cases h
  | addOutput output => cases h
  | finalize runtime => cases h

end Call

/-- The topology after some calls, one after the other. -/
def after (t : Topology) (calls : List Call) : Topology :=
  calls.foldl (fun t call => (call.run t).2) t

theorem after_concat (t : Topology) (calls : List Call) (call : Call) :
    t.after (calls ++ [call]) = (call.run (t.after calls)).2 := List.foldl_concat _ _ _ _

theorem grows_after (t : Topology) (calls : List Call) : Grows t (t.after calls) := by
  induction calls using List.reverseRecOn with
  | nil => exact .refl
  | append_singleton calls call ih =>
      rw [after_concat]
      exact ih.trans (call.grows_run _)

/-- The other topologies that some calls import references from, in the order of the calls and as
often as they do. -/
def producers (name : String) (calls : List Call) : List String :=
  (calls.filterMap Call.producer?).filter fun producer => producer ≠ name

theorem eraseDups_concat {α : Type} [DecidableEq α] (items : List α) (a : α) :
    (items ++ [a]).eraseDups =
      if a ∈ items then items.eraseDups else items.eraseDups ++ [a] := by
  rw [List.eraseDups_append]
  split
  next hMem => simp [List.removeAll, hMem]
  next hNew => simp [List.removeAll, hNew, List.eraseDups_cons]

theorem nodup_eraseDups {α : Type} [DecidableEq α] (items : List α) : items.eraseDups.Nodup := by
  induction items using List.reverseRecOn with
  | nil => exact List.nodup_nil
  | append_singleton items a ih =>
      rw [eraseDups_concat]
      split
      next => exact ih
      next hNew =>
        apply ih.append (List.nodup_singleton a)
        simpa using hNew

/-- Dependencies are recorded in the order of the first import. -/
theorem dependencies_after (name : String) (region : Region) (calls : List Call) :
    ((new name region).after calls).dependencies = (producers name calls).eraseDups := by
  induction calls using List.reverseRecOn with
  | nil => rfl
  | append_singleton calls call ih =>
      have hName := (grows_after (new name region) calls).name_region_eq.1
      rw [after_concat, producers, List.filterMap_append, List.filter_append, ← producers]
      cases hProducer : call.producer? with
      | none =>
          rw [Call.dependencies_run_of_none hProducer, ih]
          simp [hProducer]
      | some producer =>
          have hLast : [call].filterMap Call.producer? = [producer] := by simp [hProducer]
          have hNew : (new name region).name = name := rfl
          rw [Call.dependencies_run_of_some hProducer, ih, hName, hNew, hLast]
          by_cases hOwn : producer = name
          · simp [hOwn]
          · rw [List.filter_cons_of_pos (by simpa using hOwn), List.filter_nil, eraseDups_concat]
            simp [hOwn]

/-- What can be relied on in a topology that some calls have made out of an empty one. -/
structure Reliable (name : String) (calls : List Call) (t : Topology) : Prop where
  named : t.name = name
  resources : (t.resources.map Resource.id).Nodup
  outputs : (t.outputs.map Output.id).Nodup
  dependencies : t.dependencies.Nodup
  foreign : name ∉ t.dependencies
  /-- Each topology that a reference was imported from stands where it was first imported from. -/
  ordered : t.dependencies = (producers name calls).eraseDups
  /-- A call is refused for a taken identifier and for nothing else, -/
  refused : ∀ (call : Call) e, (call.run t).1 = .error e ↔ Call.Refused t call e
  /-- and then the topology is as it was. -/
  kept : ∀ (call : Call) e, (call.run t).1 = .error e → (call.run t).2 = t
  /-- However many calls lie in between, a second import gives the same and changes nothing. -/
  again : ∀ reference between,
    let first := (Call.importRef reference).run t
    let later := first.2.after between
    (Call.importRef reference).run later = (first.1, later)
  /-- An own reference is used as it is. -/
  own : ∀ reference : Reference, reference.topology = name →
    (Call.importRef reference).run t = (.ok (.imported (.ref reference)), t)
  /-- The check never tells of a repeated identifier. -/
  checked : ∀ topology id, t.validate ≠ .error (.duplicateResource topology id) ∧
    t.validate ≠ .error (.duplicateOutput topology id)

/-- Identifiers stay apart, dependencies stay in order and nothing half done is left behind,
whatever calls an empty topology is put through. -/
theorem reliable_after_calls (name : String) (region : Region) (calls : List Call) :
    Reliable name calls ((new name region).after calls) := by
  have hGrows := grows_after (new name region) calls
  generalize hTopology : (new name region).after calls = t at hGrows
  have hBuilt : t.Built := built_iff_grows.mpr ⟨name, region, hGrows⟩
  have hName : t.name = name := hGrows.name_region_eq.1
  have hOrdered : t.dependencies = (producers name calls).eraseDups := by
    rw [← hTopology, dependencies_after]
  refine {
    named := hName
    resources := hBuilt.nodup_resources
    outputs := hBuilt.nodup_outputs
    dependencies := hOrdered ▸ nodup_eraseDups _
    foreign := ?_
    ordered := hOrdered
    refused := fun call e => Call.run_eq_error_iff
    kept := ?_
    again := ?_
    own := ?_
    checked := ?_ }
  · rw [hOrdered, List.mem_eraseDups, producers]
    simp
  · intro call e hError
    rw [Call.run_of_refused (Call.run_eq_error_iff.mp hError)]
  · intro reference between
    have hAgain := importRef_of_grows (grows_after (t.importRef reference).2 between)
    show (Call.importRef reference).run ((t.importRef reference).2.after between) = _
    rw [Call.run_importRef, hAgain]
    rfl
  · intro reference hOwn
    rw [Call.run_importRef, importRef_of_own (hOwn.trans hName.symm)]
  · intro topology id
    rw [hBuilt.validate_eq_forM]
    constructor <;> intro hError <;> obtain ⟨r, -, hCheck⟩ := exists_of_forM_eq_error hError
    · exact (t.checkReference_ne_duplicate r topology id).1 hCheck
    · exact (t.checkReference_ne_duplicate r topology id).2 hCheck

end Topology

end Blueprint
