import Blueprint.Command.Workplace
import Blueprint.Json.Printer

/-! The command that writes the files of a deployment. -/

namespace Blueprint.Command

open Script

def tell (console : Console) (report : SynthesisReport) : Script Unit := do
  if !report.written then
    console.info
      s!"Dry run: would write {report.files.length} files ({report.bytes} bytes) to {report.outDir}"
  report.files.forM fun file => console.message s!"  {file}"
  if report.written then
    console.success
      s!"Synthesized {report.topologies.length} topologies ({report.resources} resources) into {report.outDir}"

/-- Ask the user, if one can be asked, whether what is in a directory may be replaced. -/
def askToReplace (w : Workplace) (outDir : String) : Job CommandError Unit := do
  if w.isInteractive && (← pathExists outDir) then
    match ← agreement s!"Replace everything in {outDir}?" with
    | .ok true => return
    | .ok false => throw .cancelled
    | .error fault => throw (.fileFailed "failed to read confirmation" fault.text)

/-- Render the deployment and write its files. With assent given the user is not asked again. -/
def synthesize (w : Workplace) (out : Option String) (force assent dryRun : Bool) :
    Job CommandError Unit :=
  Job.within
    ⟨"execute", .synthCommand, [("force", .bool force), ("dry_run", .bool dryRun)]⟩ do
    let outDir := out.getD w.preferences.outDir
    if force && !dryRun && !assent then askToReplace w outDir
    w.console.heading s!"Synthesizing into {outDir}..."
    let report ← Workplace.carryOut (w.synthesizer.synthesize ⟨outDir, force, dryRun⟩)
    note .info .synthCommand "Synth finished"
      [("assembly", .bare report.assemblyId), ("files", .nat report.files.length)]
    if w.console.json then
      w.console.result (Json.obj report.members).pretty
    else tell w.console report

end Blueprint.Command
