import Blueprint.Proofs.Deployment.Wiring
import Blueprint.Proofs.Machine.Ensures
import Blueprint.Synthesis

/-! The part of a synthesis that comes before any writing: from the source of the settings to
rendered files that have been checked. It changes no files, as long as the source and the renderer
do not, and from an accepted document it fails only if rendering does. -/

namespace Blueprint

variable {ε ε' α β : Type}

namespace Job

/-- A job that asks for no change. -/
abbrev Quiet (job : Job ε α) : Prop := Script.Quiet job.run

theorem quiet_pure (a : α) : (pure a : Job ε α).Quiet := .done _

theorem quiet_throw (e : ε) : (throw e : Job ε α).Quiet := .done _

theorem quiet_ofExcept (result : Except ε α) : (ofExcept result).Quiet := .done _

theorem quiet_lift {s : Script α} (h : s.Quiet) : (liftM s : Job ε α).Quiet :=
  h.bind fun _ => .done _

theorem Quiet.bind {job : Job ε α} (h : job.Quiet) {f : α → Job ε β} (hNext : ∀ a, (f a).Quiet) :
    (job >>= f).Quiet := by
  refine Script.Quiet.bind h fun result => ?_
  cases result with
  | ok a => exact hNext a
  | error e => exact .done _

theorem Quiet.mapError {job : Job ε α} (h : job.Quiet) (f : ε → ε') : (job.mapError f).Quiet :=
  Script.Quiet.bind h fun _ => .done _

end Job

open Job

theorem Script.quiet_note (level : Trace.Level) (origin : Trace.Origin) (message : String)
    (fields : List Trace.Field) : (note level origin message fields).Quiet :=
  .ask (fun c => by simp) fun _ => .done _

theorem Job.quiet_forM {f : α → Job ε Unit} (h : ∀ a, (f a).Quiet) (items : List α) :
    Job.Quiet (items.forM f) := by
  induction items with
  | nil => exact .done _
  | cons first rest ih => exact (h first).bind fun _ => ih

theorem Script.quiet_read (path : String) : (read path).Quiet :=
  .ask (fun c => by simp) fun _ => .done _

/-! ### Sources and renderers -/

theorem Source.quiet_fixed (document : Document) : (fixed document).load.Quiet := quiet_pure _

theorem Source.quiet_readText (path : String) : (readText path).Quiet := by
  refine (quiet_lift (Script.quiet_read path)).bind fun content => ?_
  cases content with
  | error fault =>
      by_cases hFault : fault = .notFound
      · simpa only [hFault, if_true] using quiet_throw _
      · simpa only [hFault, if_false] using quiet_throw _
  | ok bytes =>
      cases hText : String.fromUTF8? bytes with
      | none => simpa only [hText] using quiet_throw _
      | some text => simpa only [hText] using quiet_pure _

theorem Source.quiet_file (path : String) : (file path).load.Quiet := by
  refine Script.Quiet.within ?_ _
  refine (quiet_readText path).bind fun text => ?_
  refine (quiet_lift (Script.quiet_note _ _ _ _)).bind fun _ => ?_
  exact (quiet_ofExcept _).mapError _

theorem Source.quiet_orRegion {source : Source} (h : source.load.Quiet) (region : Option String) :
    (source.orRegion region).load.Quiet :=
  Script.Quiet.bind h fun result => by cases result <;> exact .done _

theorem Assembly.quiet_renderNoted (compact : Bool) (a : Assembly) (metadata : RenderMetadata) :
    (renderNoted compact a metadata).Quiet := by
  refine Script.Quiet.within ?_ _
  refine Job.Quiet.bind ?_ fun _ => (quiet_ofExcept _).mapError _
  exact quiet_forM (fun _ => quiet_lift (Script.quiet_note _ _ _ _)) _

/-! ### Putting a deployment together -/

theorem Deployment.quiet_noteTiers (tiers : Tiers) : (noteTiers tiers).Quiet := by
  have hDeclared (t : Topology) : (noteDeclared t).Quiet := Script.quiet_note _ _ _ _
  refine (hDeclared _).bind fun _ => (Script.quiet_note _ _ _ _).bind fun _ =>
    (hDeclared _).bind fun _ => ?_
  cases tiers.email <;> cases tiers.cert <;>
  · refine Script.Quiet.bind ?_ fun _ => Script.Quiet.bind ?_ fun _ => hDeclared _
    all_goals first | exact hDeclared _ | exact Script.quiet_note _ _ _ _

theorem Deployment.quiet_assembleNoted (settings : Settings) : (assembleNoted settings).Quiet := by
  have hTold (tiers : Tiers) : Job.Quiet (do
      noteTiers tiers
      let deployment ← Job.mapError .model (.ofExcept (assemble settings))
      Script.note .info .assembly "Assembly complete"
        [("topologies", .nat deployment.assembly.topologies.length),
          ("resources", .nat deployment.assembly.resourceCount)]
      return deployment : Job Failure Deployment) := by
    refine (quiet_lift (quiet_noteTiers tiers)).bind fun _ => ?_
    refine ((quiet_ofExcept _).mapError _).bind fun deployment => ?_
    exact (quiet_lift (Script.quiet_note _ _ _ _)).bind fun _ => quiet_pure _
  refine Script.Quiet.within ?_ _
  refine (quiet_lift (Script.quiet_note _ _ _ _)).bind fun _ => ?_
  dsimp only
  cases Tiers.ofSettings settings with
  | error e =>
      split
      · exact (quiet_lift (Script.quiet_note _ _ _ _)).bind fun _ => quiet_throw _
      · exact quiet_throw _
  | ok tiers =>
      split
      · exact (quiet_lift (Script.quiet_note _ _ _ _)).bind fun _ => hTold tiers
      · exact hTold tiers

/-- The deployment for an accepted document is put together. -/
theorem Deployment.ensures_assembleNoted {d : Document} {settings : Settings}
    (h : d.validate = .ok settings) (trial : Trial) :
    (assembleNoted settings).Ensures (fun _ _ => True) (fun _ _ => False) trial := by
  obtain ⟨tiers, hTiers, hMade⟩ := Tiers.ofSettings_eq_ok (Document.bounded_of_validate h)
  have hTold (t : Trial) : Job.Ensures (fun _ _ => True) (fun _ _ => False) (do
      noteTiers tiers
      let deployment ← Job.mapError .model (.ofExcept (assemble settings))
      Script.note .info .assembly "Assembly complete"
        [("topologies", .nat deployment.assembly.topologies.length),
          ("resources", .nat deployment.assembly.resourceCount)]
      return deployment : Job Failure Deployment) t := by
    rw [Job.ensures_bind, Job.ensures_lift, assemble_eq_ok hTiers hMade]
    refine ((quiet_noteTiers tiers).ensures_run t).mono fun _ _ _ => ?_
    exact fun _ _ => trivial
  refine Job.Ensures.within ?_ _
  rw [Job.ensures_bind, Job.ensures_lift, Script.ensures_note]
  intro event
  dsimp only
  rw [hTiers]
  split
  · rw [Job.ensures_bind, Job.ensures_lift, Script.ensures_note]
    exact fun _ => hTold _
  · exact hTold _

/-! ### The preparation -/

/-- What a synthesis has before it writes. -/
structure Rendered where
  deployment : Deployment
  metadata : RenderMetadata
  artifacts : ArtifactSet

namespace Synthesizer

/-- Load, assemble, render and check the rendered files. -/
def prepare (s : Synthesizer) : Job Failure Rendered := do
  let deployment ← s.plan
  let metadata : RenderMetadata := ⟨← Script.identifier, ← Script.time, toolVersion⟩
  let artifacts ← s.render deployment.assembly metadata
  Job.mapError .model (.ofExcept artifacts.validate)
  return ⟨deployment, metadata, artifacts⟩

/-- Write what has been rendered, unless nothing is to be written. -/
def finish (s : Synthesizer) (request : SynthesisRequest) (rendered : Rendered) :
    Job Failure SynthesisReport := do
  noteStep .info "Assembly rendered"
    [("files", .nat rendered.artifacts.size), ("bytes", .nat rendered.artifacts.byteCount)]
  if request.dryRun then
    noteStep .info "Dry run, nothing written" []
  else
    s.writeArtifacts request.outDir rendered.artifacts request.force
  return report request rendered.metadata.assemblyId rendered.deployment.assembly
    rendered.artifacts

/-- A synthesis prepares and finishes, within a span. -/
theorem synthesize_eq (s : Synthesizer) (request : SynthesisRequest) :
    ∃ span, s.synthesize request =
      Job.within span (do s.finish request (← s.prepare)) := by
  rw [synthesize]
  refine ⟨_, congrArg (Job.within _) ?_⟩
  simp only [prepare, finish, bind_assoc, pure_bind]

theorem quiet_loadSettings {s : Synthesizer} (hSource : s.source.load.Quiet) :
    s.loadSettings.Quiet := by
  refine Script.Quiet.within ?_ _
  refine hSource.bind fun document => ?_
  refine ((quiet_ofExcept _).mapError _).bind fun settings => ?_
  exact (quiet_lift (Script.quiet_note _ _ _ _)).bind fun _ => quiet_pure _

/-- Nothing is changed before writing, if the source and the renderer change nothing. -/
theorem quiet_prepare {s : Synthesizer} (hSource : s.source.load.Quiet)
    (hRender : ∀ a metadata, (s.render a metadata).Quiet) : s.prepare.Quiet := by
  have hPlan : s.plan.Quiet :=
    (quiet_loadSettings hSource).bind fun settings => Deployment.quiet_assembleNoted settings
  refine hPlan.bind fun deployment => ?_
  refine (quiet_lift (.ask (fun c => by simp) fun _ => .done _)).bind fun assemblyId => ?_
  refine (quiet_lift (.ask (fun c => by simp) fun _ => .done _)).bind fun generatedAt => ?_
  refine (hRender _ _).bind fun artifacts => ?_
  exact ((quiet_ofExcept _).mapError _).bind fun _ => quiet_pure _

/-- From an accepted document a synthesis gets as far as to writing. -/
theorem ensures_prepare_of_accepted {s : Synthesizer} {d : Document} {settings : Settings}
    {set : ArtifactSet} (hSource : s.source = .fixed d) (h : d.validate = .ok settings)
    (hRender : ∀ a metadata, s.render a metadata = pure set) (hSet : set.validate = .ok ())
    (trial : Trial) :
    s.prepare.Ensures
      (fun rendered t => rendered.artifacts = set ∧ ∃ asked, t = { trial with asked })
      (fun _ _ => False) trial := by
  have hQuiet : s.prepare.Quiet := by
    refine quiet_prepare (by rw [hSource]; exact Source.quiet_fixed d) fun a metadata => ?_
    rw [hRender]
    exact Job.quiet_pure _
  have hReady : s.prepare.Ensures (fun rendered _ => rendered.artifacts = set) (fun _ _ => False)
      trial := by
    have hLoad : s.loadSettings.Ensures (fun loaded _ => loaded = settings) (fun _ _ => False)
        trial := by
      refine Job.Ensures.within ?_ _
      rw [hSource, Job.ensures_bind]
      show Job.Ensures _ _ (pure d) _
      rw [Job.ensures_pure, h]
      exact fun _ _ => rfl
    rw [prepare, Job.ensures_bind, plan, Job.ensures_bind]
    refine hLoad.mono (fun loaded t hLoaded => ?_) fun _ _ => id
    rw [hLoaded]
    refine (Deployment.ensures_assembleNoted h t).mono (fun deployment t _ => ?_) fun _ _ => id
    simp only [hRender, pure_bind, hSet]
    exact fun _ _ _ _ => rfl
  refine (Script.Ensures.and hReady (hQuiet.ensures_run trial)).mono fun result t hBoth => ?_
  obtain ⟨hResult, -, hAsked⟩ := hBoth
  cases result with
  | ok rendered => exact ⟨hResult, hAsked⟩
  | error e => exact hResult

end Synthesizer

end Blueprint
