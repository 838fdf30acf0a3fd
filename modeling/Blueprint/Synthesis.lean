import Blueprint.Deployment
import Blueprint.Settings.Validation
import Blueprint.Source
import Blueprint.Template

/-!
Synthesis: from a source of settings to the files of a rendered assembly. Nothing is written before
the assembly has been rendered and checked. An output directory that is there already is replaced
only on request, only if it holds an assembly, and never if the working directory lies in it. When
writing fails, what has been written is removed again.
-/

namespace Blueprint

/-- The version that rendered assemblies carry. -/
def toolVersion : String := "0.1.0"

/-- Where to write an assembly, and how. -/
structure SynthesisRequest where
  outDir : String
  /-- Replace an assembly that is there. -/
  force : Bool
  /-- Render, but write nothing. -/
  dryRun : Bool

/-- What a synthesis has done. -/
structure SynthesisReport where
  assemblyId : String
  outDir : String
  topologies : List String
  resources : Nat
  files : List String
  bytes : Nat
  written : Bool

def SynthesisReport.members (report : SynthesisReport) : List (String × Json) :=
  [("assemblyId", .str report.assemblyId), ("outDir", .str report.outDir),
    ("topologies", .strs report.topologies), ("resources", .nat report.resources),
    ("files", .strs report.files), ("bytes", .nat report.bytes), ("written", .bool report.written)]

/-- The means of a synthesis. -/
structure Synthesizer where
  source : Source
  render : Assembly → RenderMetadata → Job Failure ArtifactSet
  /-- What a failed change is called in the report of it. -/
  reason : Change → Fault → String

namespace Assembly

/-- The topologies that are rendered before the first one whose file cannot be written, and that
one. -/
def renderedTopologies : List Topology → List Topology
  | [] => []
  | t :: rest =>
    if IsRelativePath (Template.fileName t.name) then t :: renderedTopologies rest else [t]

/-- Render an assembly and give an account of it. -/
def renderNoted (compact : Bool) (a : Assembly) (metadata : RenderMetadata) :
    Job Failure ArtifactSet :=
  Job.within ⟨"render", .renderer, [("assembly_id", .bare metadata.assemblyId)]⟩ do
    (renderedTopologies a.topologies).forM fun t =>
      Script.note .debug .renderer "Rendered template" [("file", .bare (Template.fileName t.name))]
    Job.mapError .model (.ofExcept (a.render compact metadata))

end Assembly

namespace Deployment

open Script in
/-- Put on record that a topology has been declared. -/
def noteDeclared (t : Topology) : Script Unit :=
  note .info .assembly "Declared topology"
    [("topology", .quoted t.name), ("region", .bare t.region.name),
      ("resources", .nat t.resources.length)]

open Script in
/-- The account of tiers that have been made. -/
def noteTiers (tiers : Tiers) : Script Unit := do
  noteDeclared tiers.base.topology
  note .debug .assembly "Database port derived from engine"
    [("port", .nat tiers.data.handle.port)]
  noteDeclared tiers.data.topology
  match tiers.email with
  | some email => noteDeclared email.topology
  | none => note .debug .assembly "SES email disabled; skipping email topology" []
  match tiers.cert with
  | some cert => noteDeclared cert.topology
  | none =>
    note .debug .assembly "No host or root domain; site is served over plain HTTP" []
  noteDeclared tiers.web.topology

/-- The span in which a deployment is put together. -/
def span (settings : Settings) : Trace.Span :=
  ⟨"assemble", .assembly,
    [("prefix", .bare settings.scope.name), ("region", .bare settings.scope.region.name),
      ("engine", .bare settings.database.engine.name)]⟩

open Script in
/-- The deployment for some settings, with an account of it. -/
def assembleNoted (settings : Settings) : Job Failure Deployment :=
  Job.within (span settings) do
    note .info .assembly "Assembling topologies" []
    if settings.database.babelfish && settings.database.engine = .mysql then
      note .warn .assembly "dbEnableBabelfish is only honoured for postgresql; ignoring" []
    match Tiers.ofSettings settings with
    | .error e => throw (.model e)
    | .ok tiers =>
      noteTiers tiers
      let deployment ← Job.mapError .model (.ofExcept (assemble settings))
      note .info .assembly "Assembly complete"
        [("topologies", .nat deployment.assembly.topologies.length),
          ("resources", .nat deployment.assembly.resourceCount)]
      return deployment

end Deployment

namespace Synthesizer

open Script

/-- Put an event of a synthesis on record. -/
def noteStep (level : Trace.Level) (message : String) (fields : List Trace.Field) : Script Unit :=
  note level .synthesis message fields

/-- The settings from the source. -/
def loadSettings (s : Synthesizer) : Job Failure Settings :=
  Job.within ⟨"load_config", .synthesis, [("source", .bare s.source.description)]⟩ do
    let document ← s.source.load
    let settings ← Job.mapError .model (.ofExcept document.validate)
    noteStep .info "Configuration valid" [("prefix", .bare settings.scope.name)]
    return settings

/-- The deployment for the settings from the source. -/
def plan (s : Synthesizer) : Job Failure Deployment := do
  Deployment.assembleNoted (← s.loadSettings)

/-- Change the files, with a failure of the synthesis in the place of a fault. -/
def perform (s : Synthesizer) (c : Change) : Job Failure Unit := do
  match ← change c with
  | .ok () => return
  | .error fault => throw (.synthesis (.storeFailed c.path (s.reason c fault)))

/-- Check that the output directory may be replaced. -/
def checkReplaceable (root : String) : Job Failure Unit := do
  let refuse (reason : String) : Job Failure Unit :=
    throw (.synthesis (.replaceRefused root reason))
  if !Path.hasName (Path.parts root) || (← holdsWorkingDir root) then
    refuse "it contains the current directory"
  else if !(← pathExists (Path.join root manifestFile)) then
    refuse "it does not hold a previous assembly"

/-- Write one file, after the directory that it needs. -/
def writeArtifact (s : Synthesizer) (root : String) (artifact : Artifact) : Job Failure Unit := do
  let path := Path.join root artifact.path.text
  if let some directory := Path.directory? path then
    s.perform (.makeDirs directory)
  noteStep .debug "Writing artifact" [("path", .bare path)]
  s.perform (.write path artifact.content)

/-- Write all files below a directory. -/
def writeAll (s : Synthesizer) (root : String) (artifacts : ArtifactSet) : Job Failure Unit := do
  s.perform (.makeDirs root)
  artifacts.artifacts.forM (s.writeArtifact root)

/-- Remove what has been written, and say if that fails. -/
def rollback (s : Synthesizer) (root : String) : Script Unit := do
  match ← (s.perform (.removeTree root)).run with
  | .ok () => noteStep .info "Rollback successful" []
  | .error e =>
    noteStep .warn "Rollback failed" [("error", .bare e.message), ("path", .bare root)]

/-- Make room for the output, if there is anything in its place. -/
def clear (s : Synthesizer) (root : String) (force : Bool) : Job Failure Unit := do
  if ← pathExists root then
    if !force then throw (.synthesis (.outputExists root))
    checkReplaceable root
    noteStep .warn "Replacing existing output directory" [("path", .bare root)]
    s.perform (.removeTree root)

/-- Write all files or none. -/
def writeArtifacts (s : Synthesizer) (root : String) (artifacts : ArtifactSet) (force : Bool) :
    Job Failure Unit := do
  s.clear root force
  match ← (s.writeAll root artifacts).attempt with
  | .ok () => noteStep .info "Successfully wrote all artifacts" []
  | .error e =>
    noteStep .warn "Write failed, attempting rollback" []
    s.rollback root
    throw e

def report (request : SynthesisRequest) (assemblyId : String) (a : Assembly)
    (artifacts : ArtifactSet) : SynthesisReport :=
  { assemblyId
    outDir := request.outDir
    topologies := a.names
    resources := a.resourceCount
    files := artifacts.artifacts.map fun artifact => artifact.path.text
    bytes := artifacts.byteCount
    written := !request.dryRun }

/-- Load, assemble, render and write. -/
def synthesize (s : Synthesizer) (request : SynthesisRequest) : Job Failure SynthesisReport :=
  Job.within
    ⟨"synth", .synthesis,
      [("out", .bare request.outDir), ("force", .bool request.force),
        ("dry_run", .bool request.dryRun)]⟩ do
    let deployment ← s.plan
    let metadata : RenderMetadata := ⟨← identifier, ← time, toolVersion⟩
    let artifacts ← s.render deployment.assembly metadata
    Job.mapError .model (.ofExcept artifacts.validate)
    noteStep .info "Assembly rendered"
      [("files", .nat artifacts.size), ("bytes", .nat artifacts.byteCount)]
    if request.dryRun then
      noteStep .info "Dry run, nothing written" []
    else
      s.writeArtifacts request.outDir artifacts request.force
    return report request metadata.assemblyId deployment.assembly artifacts

end Synthesizer

end Blueprint
