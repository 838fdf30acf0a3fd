import Blueprint.Proofs.Topology.Calls

/-! A service under a run of calls. Until it is finalized, its handle collects what is attached to
it; finalizing declares it in the topology as it then is. The handle goes on collecting, and from
then on it is the declared service with what has been attached since. The topology keeps the one
declaration, whatever else is done to it. -/

namespace Blueprint

namespace RuntimeHandle

/-- Something that is attached to a service. -/
inductive Attachment where
  | env (key : String) (value : Value)
  | volume (volume : VolumeMount)
  | connection (connection : Connection)
  | policy (policy : String)

namespace Attachment

def env? : Attachment → Option (String × Value)
  | env key value => some (key, value)
  | _ => none

def volume? : Attachment → Option VolumeMount
  | volume v => some v
  | _ => none

def connection? : Attachment → Option Connection
  | connection c => some c
  | _ => none

def policy? : Attachment → Option String
  | policy p => some p
  | _ => none

end Attachment

def attach (r : RuntimeHandle) : Attachment → RuntimeHandle
  | .env key value => r.setEnv key value
  | .volume volume => r.mount volume
  | .connection connection => r.connect connection
  | .policy policy => r.addExecutionPolicy policy

/-- Attach some things, one after the other. -/
def attachAll (r : RuntimeHandle) (items : List Attachment) : RuntimeHandle := items.foldl attach r

theorem attachAll_concat (r : RuntimeHandle) (items : List Attachment) (item : Attachment) :
    r.attachAll (items ++ [item]) = (r.attachAll items).attach item := List.foldl_concat _ _ _ _

/-- Nothing but the service changes by what is attached to it. -/
theorem attachAll_eq (r : RuntimeHandle) (items : List Attachment) :
    r.attachAll items = { r with spec := (r.attachAll items).spec } := by
  induction items generalizing r with
  | nil => rfl
  | cons first rest ih =>
      have hFirst : r.attach first = { r with spec := (r.attach first).spec } := by
        cases first <;> rfl
      rw [attachAll, List.foldl_cons, ← attachAll, ih, hFirst]

/-- The environment after some variables have been set. -/
def environmentAfter (known : Dict Value) (items : List Attachment) : Dict Value :=
  (items.filterMap Attachment.env?).foldl (fun known entry => known.insert entry.1 entry.2) known

/-- What is attached comes behind what is there; only variables can be set anew. -/
theorem spec_attachAll (r : RuntimeHandle) (items : List Attachment) :
    (r.attachAll items).spec =
      { r.spec with
        executionPolicies := r.spec.executionPolicies ++ items.filterMap Attachment.policy?
        volumes := r.spec.volumes ++ items.filterMap Attachment.volume?
        connections := r.spec.connections ++ items.filterMap Attachment.connection?
        environment := environmentAfter r.spec.environment items } := by
  induction items generalizing r with
  | nil => simp [attachAll, environmentAfter]
  | cons first rest ih =>
      rw [attachAll, List.foldl_cons, ← attachAll, ih]
      cases first <;>
        simp [attach, setEnv, mount, connect, addExecutionPolicy, environmentAfter,
          List.filterMap_cons, Attachment.env?, Attachment.volume?, Attachment.connection?,
          Attachment.policy?]

/-- Nothing lasting is attached: only variables are set, and in the end all of them are as they
were. -/
def Idle (spec : Service) (items : List Attachment) : Prop :=
  (∀ item ∈ items, item.env?.isSome = true) ∧
    environmentAfter spec.environment items = spec.environment

theorem spec_attachAll_eq_iff (r : RuntimeHandle) (items : List Attachment) :
    (r.attachAll items).spec = r.spec ↔ Idle r.spec items := by
  rw [spec_attachAll]
  constructor
  · intro hSame
    have hPolicies := congrArg Service.executionPolicies hSame
    have hVolumes := congrArg Service.volumes hSame
    have hConnections := congrArg Service.connections hSame
    simp only [List.append_right_eq_self, List.filterMap_eq_nil_iff]
      at hPolicies hVolumes hConnections
    refine ⟨fun item hMem => ?_, congrArg Service.environment hSame⟩
    cases item with
    | env key value => rfl
    | volume v => cases hVolumes _ hMem
    | connection c => cases hConnections _ hMem
    | policy p => cases hPolicies _ hMem
  · rintro ⟨hEnv, hSame⟩
    have hNone {α : Type} {read? : Attachment → Option α}
        (hOther : ∀ key value, read? (.env key value) = none) : items.filterMap read? = [] := by
      refine List.filterMap_eq_nil_iff.mpr fun item hMem => ?_
      cases item with
      | env key value => exact hOther key value
      | _ => cases hEnv _ hMem
    rw [hSame, hNone fun _ _ => rfl, hNone fun _ _ => rfl, hNone fun _ _ => rfl]
    simp only [List.append_nil]

end RuntimeHandle

open RuntimeHandle

/-- A handle and the topology in which its service is going to be declared. -/
structure Site where
  runtime : RuntimeHandle
  topology : Topology

namespace Topology

/-- The resources with an identifier. -/
def declarations (t : Topology) (id : ResourceId) : List Resource :=
  t.resources.filter fun resource => resource.id = id

theorem declarations_eq_nil_iff {t : Topology} {id : ResourceId} :
    t.declarations id = [] ↔ id ∉ t.resources.map Resource.id := by
  simp [declarations, List.filter_eq_nil_iff]

theorem declarations_add {t next : Topology} {resource : Resource}
    (h : t.add resource = .ok next) (id : ResourceId) :
    next.declarations id = t.declarations id ++ if resource.id = id then [resource] else [] := by
  obtain ⟨-, rfl⟩ := add_eq_ok_iff.mp h
  rw [declarations, List.filter_append, ← declarations]
  by_cases hId : resource.id = id <;> simp [hId]

theorem declarations_of_add {t next : Topology} {resource : Resource}
    (h : t.add resource = .ok next) : next.declarations resource.id = [resource] := by
  rw [declarations_add h, declarations_eq_nil_iff.mpr (add_eq_ok_iff.mp h).1, List.nil_append,
    if_pos rfl]

/-- What is declared under a taken identifier stays, and nothing is declared besides it. -/
theorem Step.declarations_eq {t next : Topology} (h : Step t next) {id : ResourceId}
    (hTaken : t.declarations id ≠ []) : next.declarations id = t.declarations id := by
  cases h with
  | allowCrossRegion => rfl
  | @add _ resource hAdd =>
      have hOther : resource.id ≠ id := by
        rintro rfl
        exact hTaken (declarations_eq_nil_iff.mpr (add_eq_ok_iff.mp hAdd).1)
      rw [declarations_add hAdd, if_neg hOther, List.append_nil]
  | addOutput hAdd =>
      obtain ⟨-, rfl⟩ := addOutput_eq_ok_iff.mp hAdd
      rfl
  | importRef reference => rw [declarations, Topology.importRef, dependOn_resources, declarations]

theorem Call.declarations_run (call : Call) {t : Topology} {id : ResourceId}
    (hTaken : t.declarations id ≠ []) : (call.run t).2.declarations id = t.declarations id := by
  rcases call.run_cases t with ⟨e, hRefused⟩ | ⟨reply, next, hRun, hStep⟩
  · rw [run_of_refused hRefused]
  · rw [hRun]
    exact hStep.declarations_eq hTaken

end Topology

namespace Site

/-- The identifier of the service is not taken. -/
def IsFree (s : Site) : Prop := s.topology.declarations s.runtime.serviceId = []

/-- A site at which a handle has just been made, whatever the topology holds. -/
def fresh (t : Topology) (serviceId : ResourceId) (spec : Service) (cluster : Reference) : Site :=
  ⟨.new t serviceId spec cluster, t⟩

/-- A call on a handle or on its topology. -/
inductive Call where
  /-- Make the handle anew. -/
  | new (serviceId : ResourceId) (spec : Service) (cluster : Reference)
  | attach (item : Attachment)
  | finalize
  /-- Something else is done to the topology. -/
  | other (call : Topology.Call)

namespace Call

/-- A call as its caller sees it: whether it fails, and the site that is left. -/
def run : Call → Site → Except ModelError Unit × Site
  | .new serviceId spec cluster, s => (.ok (), fresh s.topology serviceId spec cluster)
  | .attach item, s => (.ok (), { s with runtime := s.runtime.attach item })
  | .finalize, s =>
    let (result, runtime, topology) := s.runtime.declareIn s.topology
    (result, ⟨runtime, topology⟩)
  | .other call, s =>
    ((fun _ => ()) <$> (call.run s.topology).1, { s with topology := (call.run s.topology).2 })

def attached : Call → List Attachment
  | .attach item => [item]
  | _ => []

/-- The call keeps to the handle that is there. -/
def KeepsHandle : Call → Prop
  | .new _ _ _ => False
  | _ => True

/-- Finalizing succeeds if the identifier is free, and declares the service as it is. -/
theorem run_finalize_eq_ok {s : Site} (h : s.IsFree) :
    ∃ topology, finalize.run s = (.ok (), ⟨{ s.runtime with finalized := true }, topology⟩) ∧
      topology.declarations s.runtime.serviceId = [s.runtime.resource] := by
  have hFree : s.runtime.resource.id ∉ s.topology.resources.map Resource.id :=
    Topology.declarations_eq_nil_iff.mp h
  refine ⟨_, ?_, Topology.declarations_of_add (Topology.add_eq_ok_iff.mpr ⟨hFree, rfl⟩)⟩
  rw [run, RuntimeHandle.declareIn_of_free hFree]

/-- It fails otherwise, and then the handle and the topology are as they were. -/
theorem run_finalize_eq_error {s : Site} (h : ¬ s.IsFree) :
    finalize.run s =
      (.error (.duplicateResource s.topology.name s.runtime.serviceId.text), s) := by
  have hTaken : s.runtime.serviceId ∈ s.topology.resources.map Resource.id :=
    not_not.mp (mt Topology.declarations_eq_nil_iff.mpr h)
  rw [run, RuntimeHandle.declareIn_of_taken hTaken]

theorem run_finalize_eq_error_iff {s : Site} {e : ModelError} :
    (finalize.run s).1 = .error e ↔
      ¬ s.IsFree ∧ e = .duplicateResource s.topology.name s.runtime.serviceId.text := by
  by_cases hFree : s.IsFree
  · obtain ⟨topology, hRun, -⟩ := run_finalize_eq_ok hFree
    simp [hRun, hFree]
  · simp [run_finalize_eq_error hFree, hFree, eq_comm]

end Call

/-- The site after some calls, one after the other. -/
def after (s : Site) (calls : List Call) : Site := calls.foldl (fun s call => (call.run s).2) s

theorem after_concat (s : Site) (calls : List Call) (call : Call) :
    s.after (calls ++ [call]) = (call.run (s.after calls)).2 := List.foldl_concat _ _ _ _

/-- A site at which the service is declared as it was at another one. -/
structure DeclaredAt (made : Site) (since : List Attachment) (s : Site) : Prop where
  /-- No other resource has the identifier of the service. -/
  only : s.topology.declarations s.runtime.serviceId = [made.runtime.resource]
  /-- The handle has what was attached to it then and what has been attached since. -/
  runtime : s.runtime = attachAll { made.runtime with finalized := true } since

theorem DeclaredAt.finalized_eq {made s : Site} {since : List Attachment}
    (h : DeclaredAt made since s) : s.runtime.finalized = true := by
  rw [h.runtime, attachAll_eq]

/-- A call that keeps to the handle adds to it what it attaches. The declaration stays. -/
theorem DeclaredAt.run {made s : Site} {since : List Attachment} (h : DeclaredAt made since s)
    {call : Call} (hLater : call.KeepsHandle) :
    DeclaredAt made (since ++ call.attached) (call.run s).2 := by
  have hTaken : ¬ s.IsFree := by
    rw [IsFree, h.only]
    exact List.cons_ne_nil _ _
  cases call with
  | new => cases hLater
  | attach item =>
      refine ⟨?_, ?_⟩
      · cases item <;> exact h.only
      · rw [Call.attached, attachAll_concat, ← h.runtime, Call.run]
  | finalize =>
      simp only [Call.attached, List.append_nil, Call.run_finalize_eq_error hTaken]
      exact h
  | other call =>
      simp only [Call.attached, List.append_nil]
      exact ⟨(call.declarations_run hTaken).trans h.only, h.runtime⟩

/-- Once a service has been declared, it stays so under all calls that keep to its handle. -/
theorem DeclaredAt.after {made s : Site} {since : List Attachment} (h : DeclaredAt made since s)
    {calls : List Call} (hLater : ∀ call ∈ calls, call.KeepsHandle) :
    DeclaredAt made (since ++ calls.flatMap Call.attached) (s.after calls) := by
  induction calls generalizing since s with
  | nil => simpa [Site.after] using h
  | cons call rest ih =>
      obtain ⟨hFirst, hRest⟩ := List.forall_mem_cons.mp hLater
      rw [List.flatMap_cons, ← List.append_assoc]
      exact ih (h.run hFirst) hRest

theorem after_append (s : Site) (calls later : List Call) :
    s.after (calls ++ later) = (s.after calls).after later := List.foldl_append

/-- A service that has been finalized is declared as it was then, whatever comes later. -/
theorem declaredAt_after {start : Site} {before later : List Call}
    (hFree : (start.after before).IsFree) (hLater : ∀ call ∈ later, call.KeepsHandle) :
    DeclaredAt (start.after before) (later.flatMap Call.attached)
      (start.after (before ++ .finalize :: later)) := by
  obtain ⟨topology, hRun, hOnly⟩ := Call.run_finalize_eq_ok hFree
  have hMade : DeclaredAt (start.after before) [] (Call.finalize.run (start.after before)).2 := by
    rw [hRun]
    exact ⟨hOnly, rfl⟩
  rw [after_append]
  exact hMade.after hLater

/-- Only finalizing makes a handle finalized, and only by making it anew is that undone. -/
theorem finalized_run {s : Site} {call : Call} (h : (call.run s).2.runtime.finalized = true) :
    (call = .finalize ∧ s.IsFree) ∨ (call.KeepsHandle ∧ s.runtime.finalized = true) := by
  cases call with
  | new => cases h
  | attach item =>
      refine .inr ⟨trivial, ?_⟩
      cases item <;> exact h
  | finalize =>
      by_cases hFree : s.IsFree
      · exact .inl ⟨rfl, hFree⟩
      · rw [Call.run_finalize_eq_error hFree] at h
        exact .inr ⟨trivial, h⟩
  | other call => exact .inr ⟨trivial, h⟩

/-- A handle is finalized exactly if some call has finalized it and it has not been made anew
since. -/
theorem finalized_after_iff {start : Site} (hOpen : start.runtime.finalized = false)
    {calls : List Call} :
    (start.after calls).runtime.finalized = true ↔
      ∃ before later, calls = before ++ .finalize :: later ∧ (start.after before).IsFree ∧
        ∀ call ∈ later, call.KeepsHandle := by
  constructor
  · induction calls using List.reverseRecOn with
    | nil =>
        intro h
        cases hOpen.symm.trans h
    | append_singleton calls last ih =>
        intro h
        rw [after_concat] at h
        obtain ⟨rfl, hFree⟩ | ⟨hLast, hBefore⟩ := finalized_run h
        · exact ⟨calls, [], rfl, hFree, by simp⟩
        · obtain ⟨before, later, rfl, hFree, hLater⟩ := ih hBefore
          refine ⟨before, later ++ [last], by simp, hFree, ?_⟩
          simpa [or_imp, forall_and] using ⟨hLater, hLast⟩
  · rintro ⟨before, later, rfl, hFree, hLater⟩
    exact (declaredAt_after hFree hLater).finalized_eq

/-- The topology declares the service once, and as the handle holds it. -/
def Agrees (s : Site) : Prop :=
  ∃ resource, s.topology.declarations s.runtime.serviceId = [resource] ∧
    resource.spec = .service s.runtime.spec

/-- A site whose service has been finalized by a call between some earlier ones and some later
ones. -/
structure FinalizedBy (start : Site) (before later : List Call) (s : Site) : Prop
    extends DeclaredAt (start.after before) (later.flatMap Call.attached) s where
  succeeded : (Call.finalize.run (start.after before)).1 = .ok ()
  /-- The handle has not been made anew since. -/
  sameHandle : ∀ call ∈ later, call.KeepsHandle
  agrees_iff : s.Agrees ↔ Idle (start.after before).runtime.spec (later.flatMap Call.attached)

/-- What can be relied on at a site that some calls have made out of another one. -/
structure Reliable (start : Site) (calls : List Call) (s : Site) : Prop where
  finalized_iff : s.runtime.finalized = true ↔
    ∃ before later, calls = before ++ .finalize :: later ∧ FinalizedBy start before later s
  /-- Finalizing is refused for a taken identifier and for nothing else, -/
  refused : ∀ e, (Call.finalize.run s).1 = .error e ↔
    ¬ s.IsFree ∧ e = .duplicateResource s.topology.name s.runtime.serviceId.text
  /-- and then the handle and the topology are as they were. -/
  kept : ∀ e, (Call.finalize.run s).1 = .error e → (Call.finalize.run s).2 = s

theorem DeclaredAt.agrees_iff {made s : Site} {since : List Attachment}
    (h : DeclaredAt made since s) : s.Agrees ↔ Idle made.runtime.spec since := by
  have hIdle : s.runtime.spec = made.runtime.spec ↔ Idle made.runtime.spec since := by
    rw [h.runtime]
    exact spec_attachAll_eq_iff _ _
  rw [Agrees, h.only, ← hIdle]
  constructor
  · rintro ⟨resource, hOnly, hSame⟩
    cases hOnly
    exact (Spec.service.inj hSame).symm
  · intro hSame
    exact ⟨_, rfl, by rw [hSame]; rfl⟩

/-- Whatever a handle and its topology are put through, a finalized service stays declared once, as
it was when it was finalized. -/
theorem reliable_after (t : Topology) (serviceId : ResourceId) (spec : Service)
    (cluster : Reference) (calls : List Call) :
    Reliable (fresh t serviceId spec cluster) calls
      ((fresh t serviceId spec cluster).after calls) := by
  have hOpen : (fresh t serviceId spec cluster).runtime.finalized = false := rfl
  refine ⟨?_, fun e => Call.run_finalize_eq_error_iff, fun e hError => ?_⟩
  · constructor
    · intro hFinalized
      obtain ⟨before, later, rfl, hFree, hLater⟩ := (finalized_after_iff hOpen).mp hFinalized
      have hDeclared := declaredAt_after hFree hLater
      obtain ⟨topology, hRun, -⟩ := Call.run_finalize_eq_ok hFree
      exact ⟨before, later, rfl, hDeclared, by rw [hRun], hLater, hDeclared.agrees_iff⟩
    · rintro ⟨before, later, -, hBy⟩
      exact hBy.finalized_eq
  · rw [Call.run_finalize_eq_error (Call.run_finalize_eq_error_iff.mp hError).1]

/-- A service to which something is attached after it has been finalized: the topology does not
declare it as the handle holds it. -/
theorem finalized_disagrees :
    let t := Topology.new "Web" ⟨"eu-west-1"⟩
    let cluster := t.reference (.lit "Cluster") Attribute.self
    let spec : Service :=
      { cluster := .ref cluster, image := .literal "image", publicBalancer := true
        logGroup := "/ecs/app" }
    let s := (fresh t (.lit "Service") spec cluster).after [.finalize, .attach (.policy "Late")]
    s.runtime.finalized = true ∧ ¬ s.Agrees := by
  refine ⟨rfl, ?_⟩
  rintro ⟨resource, hOnly, hSame⟩
  cases hOnly
  exact absurd (congrArg Service.executionPolicies (Spec.service.inj hSame)) (by decide)

end Site

end Blueprint
