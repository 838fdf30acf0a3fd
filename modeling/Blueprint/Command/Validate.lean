import Blueprint.Command.Workplace
import Blueprint.Json.Printer

/-!
The command that checks the settings document. The deployment is put together as well, so that a
document passes only if something can be made of it.
-/

namespace Blueprint.Command

open Script

/-- The settings in effect, one to a line. -/
def summary (settings : Settings) (d : Deployment) : List String :=
  let db := settings.database
  let web := settings.web
  let hosts := match DomainList.ofDns settings.dns with
    | .ok domains => String.intercalate ", " domains.toList
    | .error _ => "none (served over http)"
  let mail := if settings.email then "enabled" else "disabled"
  [s!"prefix:      {settings.scope.name}",
    s!"region:      {settings.scope.region.name}",
    s!"zones:       {settings.maxAzs}",
    s!"domain:      {settings.dns.domain}",
    s!"hostnames:   {hosts}",
    s!"database:    {db.engine.name} ({db.instanceType} + {db.replicas} replicas, {db.name})",
    s!"backups:     {db.retentionDays} days",
    s!"email:       {mail}",
    s!"service:     {web.instances} x {web.cpu} cpu / {web.memory} MiB, image tag {web.imageTag}",
    "topologies:  " ++ String.intercalate " -> " d.assembly.names] ++
    d.publicUrl.toList.map fun url => s!"url:         {url.display}"

/-- Check the settings document and show the settings in effect. -/
def checkDocument (w : Workplace) (json : Bool) : Job CommandError Unit :=
  Job.within ⟨"execute", .validateCommand, []⟩ do
    let d ← w.deployment
    let settings := d.context.settings
    if json || w.console.json then
      w.console.result settings.toJson.pretty
    else
      w.console.success s!"{w.document} is valid"
      (summary settings d).forM fun line => w.console.result line

end Blueprint.Command
