import Blueprint.Tier.Base
import Blueprint.Tier.Cert
import Blueprint.Tier.Data
import Blueprint.Tier.Email
import Blueprint.Tier.Web
import Blueprint.Assembly

/-!
From settings to a deployment: the tiers in the order of their dependencies, and the handles that
each hands on. A deployment is made only if its assembly passes the check.
-/

namespace Blueprint

/-- The handles that tiers have handed on so far. -/
structure Context where
  settings : Settings
  network? : Option NetworkHandle := none
  database? : Option DatabaseHandle := none
  email? : Option CredentialHandle := none
  certificate? : Option CertificateHandle := none
  runtime? : Option RuntimeHandle := none

namespace Context

/-- The error of a handle that is asked for before its tier. -/
def missing {α : Type} (context : Context) (tier : String) : Except ModelError α :=
  .error (.unresolvedDependency "context" (context.settings.scope.topologyName tier))

/-- The handle of the base tier. -/
def network (context : Context) : Except ModelError NetworkHandle :=
  match context.network? with
  | some handle => .ok handle
  | none => context.missing "Base"

/-- The handle of the data tier. -/
def database (context : Context) : Except ModelError DatabaseHandle :=
  match context.database? with
  | some handle => .ok handle
  | none => context.missing "Data"

/-- The handle of the web tier. -/
def runtime (context : Context) : Except ModelError RuntimeHandle :=
  match context.runtime? with
  | some handle => .ok handle
  | none => context.missing "Web"

end Context

/-- The tiers of a deployment in the order of their declaration. -/
structure Tiers where
  base : Tier NetworkHandle
  data : Tier DatabaseHandle
  email : Option (Tier CredentialHandle)
  cert : Option (Tier CertificateHandle)
  web : Tier RuntimeHandle

namespace Tiers

def topologies (tiers : Tiers) : List Topology :=
  [tiers.base.topology, tiers.data.topology] ++ tiers.email.toList.map Tier.topology ++
    tiers.cert.toList.map Tier.topology ++ [tiers.web.topology]

def assembly (tiers : Tiers) : Assembly := ⟨tiers.topologies⟩

def ofSettings (settings : Settings) : Except ModelError Tiers := do
  let scope := settings.scope
  let base ← Base.create scope settings.maxAzs settings.dns
  let data ← Data.create scope settings.database base.handle
  let email ← Email.create scope settings.email
  let cert ←
    if settings.dns.wantsCertificate then
      some <$> Cert.create scope settings.dns base.handle.zone
    else pure none
  let web ← Web.create
    { scope
      dns := settings.dns
      settings := settings.web
      network := base.handle
      database := data.handle
      email := email.map Tier.handle
      certificate := cert.map Tier.handle }
  return { base, data, email, cert, web }

end Tiers

/-- A checked assembly and the handles of its tiers. -/
structure Deployment where
  assembly : Assembly
  context : Context

namespace Deployment

/-- The deployment of tiers whose assembly has been checked. -/
def ofTiers (settings : Settings) (tiers : Tiers) : Deployment :=
  { assembly := tiers.assembly
    context :=
      { settings
        network? := some tiers.base.handle
        database? := some tiers.data.handle
        email? := tiers.email.map Tier.handle
        certificate? := tiers.cert.map Tier.handle
        runtime? := some tiers.web.handle } }

def assemble (settings : Settings) : Except ModelError Deployment := do
  let tiers ← Tiers.ofSettings settings
  tiers.assembly.validate
  return ofTiers settings tiers

/-- The address of the site. -/
def publicUrl (d : Deployment) : Option Value := do
  let web ← d.assembly.topology? (d.context.settings.scope.topologyName "Web")
  (← web.output? Web.siteOutput).value

end Deployment

end Blueprint
