import Blueprint.Deployment
import Blueprint.Proofs.Tier.Base
import Blueprint.Proofs.Tier.Cert
import Blueprint.Proofs.Tier.Data
import Blueprint.Proofs.Tier.Email
import Blueprint.Proofs.Tier.Web

/-! The tiers of a deployment. Each could have a scope and settings of its own; it is declared
without fault whatever they are, and takes what it imports from the tiers before it. -/

namespace Blueprint

/-- What the tiers of a deployment are made from, apart from what they hand on to one another. They
need not agree on names, regions or domains. -/
structure Composition where
  baseScope : Scope
  dataScope : Scope
  emailScope : Scope
  certScope : Scope
  webScope : Scope
  maxAzs : Nat
  baseDns : DnsSettings
  database : DatabaseSettings
  email : Bool
  /-- The names that a certificate is for, none for a deployment without one. -/
  certDns : Option DnsSettings
  webDns : DnsSettings
  web : WebSettings

namespace Composition

/-- The certificate tier, if there are names for it. -/
def createCert (c : Composition) (zone : ZoneHandle) :
    Except ModelError (Option (Tier CertificateHandle)) :=
  match c.certDns with
  | some dns => some <$> Cert.create c.certScope dns zone
  | none => pure none

/-- The tiers in their order, each with what those before it have handed on. -/
def create (c : Composition) : Except ModelError Tiers := do
  let base ← Base.create c.baseScope c.maxAzs c.baseDns
  let data ← Data.create c.dataScope c.database base.handle
  let email ← Email.create c.emailScope c.email
  let cert ← c.createCert base.handle.zone
  let web ← Web.create
    { scope := c.webScope
      dns := c.webDns
      settings := c.web
      network := base.handle
      database := data.handle
      email := email.map Tier.handle
      certificate := cert.map Tier.handle }
  return { base, data, email, cert, web }

/-- Numbers have at most thirty-two binary digits, and a certificate is for at least one name. -/
structure Admissible (c : Composition) : Prop where
  maxAzs : c.maxAzs ≤ Bounds.nat32
  replicas : c.database.replicas ≤ Bounds.nat32
  certDns : ∀ dns ∈ c.certDns, dns.wantsCertificate = true

/-- The composition in which all tiers have the scope and the domain of the settings. -/
def ofSettings (settings : Settings) : Composition where
  baseScope := settings.scope
  dataScope := settings.scope
  emailScope := settings.scope
  certScope := settings.scope
  webScope := settings.scope
  maxAzs := settings.maxAzs
  baseDns := settings.dns
  database := settings.database
  email := settings.email
  certDns := if settings.dns.wantsCertificate then some settings.dns else none
  webDns := settings.dns
  web := settings.web

end Composition

namespace Tiers

/-- The tiers of settings are put together as those of any composition. -/
theorem ofSettings_eq_create (settings : Settings) :
    ofSettings settings = (Composition.ofSettings settings).create := by
  unfold ofSettings Composition.create Composition.ofSettings
  cases settings.dns.wantsCertificate <;> rfl

/-- What the web tier is made from. -/
def webInputs (c : Composition) (tiers : Tiers) : Web.Inputs :=
  { scope := c.webScope
    dns := c.webDns
    settings := c.web
    network := tiers.base.handle
    database := tiers.data.handle
    email := tiers.email.map Tier.handle
    certificate := tiers.cert.map Tier.handle }

/-- Tiers that are created for a composition, each from what those before it have handed on. -/
structure CreatedFor (c : Composition) (tiers : Tiers) : Prop where
  base : Base.create c.baseScope c.maxAzs c.baseDns = .ok tiers.base
  data : Data.create c.dataScope c.database tiers.base.handle = .ok tiers.data
  email : Email.create c.emailScope c.email = .ok tiers.email
  cert : c.createCert tiers.base.handle.zone = .ok tiers.cert
  web : Web.create (tiers.webInputs c) = .ok tiers.web

theorem create_eq_ok_iff {c : Composition} {tiers : Tiers} :
    c.create = .ok tiers ↔ tiers.CreatedFor c := by
  unfold Composition.create
  simp only [bind_eq_ok_iff]
  constructor
  · rintro ⟨base, hBase, data, hData, email, hEmail, cert, hCert, web, hWeb, h⟩
    cases h
    exact ⟨hBase, hData, hEmail, hCert, hWeb⟩
  · exact fun h => ⟨_, h.base, _, h.data, _, h.email, _, h.cert, _, h.web, rfl⟩

/-- Tiers as they are declared for a composition. -/
structure MadeFrom (c : Composition) (tiers : Tiers) : Prop where
  base : Base.Created c.baseScope tiers.base
  data : Data.Created c.dataScope tiers.base.handle tiers.data
  email : ∀ email ∈ tiers.email, Email.Created c.emailScope email
  cert : ∀ cert ∈ tiers.cert, Cert.Created c.certScope tiers.base.handle.zone cert
  web : Web.Created (tiers.webInputs c) tiers.web

theorem createdFor_of_ofSettings {settings : Settings} {tiers : Tiers}
    (h : ofSettings settings = .ok tiers) : tiers.CreatedFor (.ofSettings settings) := by
  rw [ofSettings_eq_create] at h
  exact create_eq_ok_iff.mp h

theorem email_eq_ok (scope : Scope) (enabled : Bool) :
    ∃ email, Email.create scope enabled = .ok email ∧
      ∀ tier ∈ email, Email.Created scope tier := by
  cases enabled with
  | false => exact ⟨none, rfl, by simp⟩
  | true =>
      refine ⟨_, Email.create_eq_ok scope, fun tier hTier => ?_⟩
      obtain rfl := Option.mem_some_iff.mp hTier
      exact Email.created_declared scope

/-- There is a certificate exactly if there are names for it. -/
theorem createCert_eq_ok_iff {c : Composition} {zone : ZoneHandle}
    {cert : Option (Tier CertificateHandle)} :
    c.createCert zone = .ok cert ↔
      c.certDns = none ∧ cert = none ∨
        ∃ dns tier, c.certDns = some dns ∧ Cert.create c.certScope dns zone = .ok tier ∧
          cert = some tier := by
  unfold Composition.createCert
  cases c.certDns with
  | none => simp [pure, Except.pure, eq_comm]
  | some dns =>
      constructor
      · intro h
        obtain ⟨tier, hTier, rfl⟩ := map_eq_ok_iff.mp h
        exact .inr ⟨dns, tier, rfl, hTier, rfl⟩
      · rintro (⟨hNone, -⟩ | ⟨_, tier, hSome, hTier, rfl⟩)
        · cases hNone
        · cases hSome
          exact map_eq_ok_iff.mpr ⟨tier, hTier, rfl⟩

theorem cert_eq_ok {c : Composition} (h : ∀ dns ∈ c.certDns, dns.wantsCertificate = true)
    (zone : ZoneHandle) :
    ∃ cert, c.createCert zone = .ok cert ∧ ∀ tier ∈ cert, Cert.Created c.certScope zone tier := by
  unfold Composition.createCert
  cases hDns : c.certDns with
  | none => exact ⟨none, rfl, by simp⟩
  | some dns =>
      obtain ⟨cert, hCert, hCreated⟩ := Cert.create_eq_ok c.certScope zone (h dns hDns)
      refine ⟨some cert, by simp only [hCert]; rfl, fun tier hTier => ?_⟩
      obtain rfl := Option.mem_some_iff.mp hTier
      exact hCreated

/-! ### What the tiers are -/

section

variable {c : Composition} {tiers : Tiers} (h : tiers.CreatedFor c)

include h

theorem CreatedFor.eq_declared_base (hMaxAzs : c.maxAzs ≤ Bounds.nat32) :
    ∃ subnets, tiers.base = Base.declared c.baseScope c.maxAzs c.baseDns subnets := by
  obtain ⟨subnets, hBase, -⟩ := Base.create_eq_declared c.baseScope c.baseDns hMaxAzs
  exact ⟨subnets, Except.ok.inj (h.base.symm.trans hBase)⟩

theorem CreatedFor.zone_eq (hMaxAzs : c.maxAzs ≤ Bounds.nat32) :
    tiers.base.handle.zone.zone = tiers.base.topology.reference Base.zoneId Attribute.self := by
  obtain ⟨subnets, hBase⟩ := h.eq_declared_base hMaxAzs
  rw [hBase]
  rfl

theorem CreatedFor.eq_declared_data (hReplicas : c.database.replicas ≤ Bounds.nat32) :
    ∃ instances,
      tiers.data = Data.declared c.dataScope c.database tiers.base.handle instances := by
  obtain ⟨instances, hData, -⟩ := Data.create_eq_declared hReplicas
  exact ⟨instances, Except.ok.inj (h.data.symm.trans hData)⟩

theorem CreatedFor.eq_declared_email :
    tiers.email = if c.email then some (Email.declared c.emailScope) else none := by
  have hEmail := h.email
  cases hEnabled : c.email with
  | false =>
      rw [hEnabled] at hEmail
      exact (Except.ok.inj hEmail).symm
  | true =>
      rw [hEnabled, Email.create_eq_ok] at hEmail
      exact (Except.ok.inj hEmail).symm

theorem CreatedFor.eq_declared_cert :
    c.certDns = none ∧ tiers.cert = none ∨
      ∃ dns domains, c.certDns = some dns ∧ DomainList.ofDns dns = .ok domains ∧
        tiers.cert = some (Cert.declared c.certScope tiers.base.handle.zone domains) := by
  refine (createCert_eq_ok_iff.mp h.cert).imp_right ?_
  rintro ⟨dns, tier, hDns, hCreate, hCert⟩
  obtain ⟨domains, hDomains, -⟩ := bind_eq_ok_iff.mp hCreate
  have hDeclared := Cert.create_eq_declared c.certScope tiers.base.handle.zone hDomains
  exact ⟨dns, domains, hDns, hDomains,
    hCert.trans (congrArg some (Except.ok.inj (hCreate.symm.trans hDeclared)))⟩

theorem CreatedFor.exists_eq_declared_cert {cert : Tier CertificateHandle}
    (hCert : tiers.cert = some cert) :
    ∃ domains, cert = Cert.declared c.certScope tiers.base.handle.zone domains := by
  rcases h.eq_declared_cert with ⟨-, hNone⟩ | ⟨_, domains, -, -, hSome⟩
  · cases hCert.symm.trans hNone
  · exact ⟨domains, Option.some.inj (hCert.symm.trans hSome)⟩

theorem CreatedFor.eq_declared_web : tiers.web = Web.declared (tiers.webInputs c) :=
  Except.ok.inj (h.web.symm.trans (Web.create_eq_declared _))

end

/-- No admissible composition fails, and its tiers are as they should be. -/
theorem create_eq_ok {c : Composition} (h : c.Admissible) :
    ∃ tiers, c.create = .ok tiers ∧ tiers.MadeFrom c := by
  obtain ⟨base, hBase, hBaseCreated⟩ := Base.create_eq_ok c.baseScope c.baseDns h.maxAzs
  obtain ⟨data, hData, hDataCreated⟩ := Data.create_eq_ok h.replicas hBaseCreated.subnetIds
  obtain ⟨email, hEmail, hEmailCreated⟩ := email_eq_ok c.emailScope c.email
  obtain ⟨cert, hCert, hCertCreated⟩ := cert_eq_ok h.certDns base.handle.zone
  obtain ⟨web, hWeb, hWebCreated⟩ := Web.create_eq_ok
    { scope := c.webScope, dns := c.webDns, settings := c.web
      network := base.handle, database := data.handle, email := email.map Tier.handle
      certificate := cert.map Tier.handle }
  exact ⟨⟨base, data, email, cert, web⟩,
    create_eq_ok_iff.mpr ⟨hBase, hData, hEmail, hCert, hWeb⟩,
    ⟨hBaseCreated, hDataCreated, hEmailCreated, hCertCreated, hWebCreated⟩⟩

theorem forall_mem_topologies {P : Topology → Prop} {tiers : Tiers} :
    (∀ t ∈ tiers.topologies, P t) ↔
      P tiers.base.topology ∧ P tiers.data.topology ∧ (∀ email ∈ tiers.email, P email.topology) ∧
        (∀ cert ∈ tiers.cert, P cert.topology) ∧ P tiers.web.topology := by
  simp [topologies, or_imp, forall_and]

/-- What is collected from all topologies is collected tier by tier. -/
theorem flatMap_topologies {β : Type} (f : Topology → List β) (tiers : Tiers) :
    tiers.topologies.flatMap f =
      f tiers.base.topology ++ f tiers.data.topology ++
        (tiers.email.toList.flatMap fun email => f email.topology) ++
        (tiers.cert.toList.flatMap fun cert => f cert.topology) ++ f tiers.web.topology := by
  simp [topologies, List.flatMap_map]

/-! ### Who supplies whom -/

/-- One topology of a deployment takes from another one. -/
inductive Supplies (tiers : Tiers) : Topology → Topology → Prop where
  | baseData : Supplies tiers tiers.base.topology tiers.data.topology
  | baseCert {cert : Tier CertificateHandle} (h : cert ∈ tiers.cert) :
      Supplies tiers tiers.base.topology cert.topology
  | baseWeb : Supplies tiers tiers.base.topology tiers.web.topology
  | dataWeb : Supplies tiers tiers.data.topology tiers.web.topology
  | emailWeb {email : Tier CredentialHandle} (h : email ∈ tiers.email) :
      Supplies tiers email.topology tiers.web.topology
  | certWeb {cert : Tier CertificateHandle} (h : cert ∈ tiers.cert) :
      Supplies tiers cert.topology tiers.web.topology

/-- All that a topology imports is offered by those of a list that supply it. -/
def Supplied (tiers : Tiers) (before : List Topology) (t : Topology) : Prop :=
  ∃ imports, t.Declares imports ∧ ∀ i ∈ imports, ∃ p ∈ before, p.Offers i ∧ tiers.Supplies p t

section

variable {c : Composition} {tiers : Tiers} {before : List Topology} (h : tiers.MadeFrom c)

include h

theorem MadeFrom.supplied_base : tiers.Supplied before tiers.base.topology :=
  ⟨[], h.base.declares, by simp⟩

/-- The data tier takes from the base tier. -/
theorem MadeFrom.offers_data {i : Reference} (hImport : i ∈ Data.imports tiers.base.handle) :
    tiers.base.topology.Offers i := by
  rcases List.mem_cons.mp hImport with rfl | hSubnet
  · exact h.base.vpc
  · obtain ⟨subnet, hPrivate, rfl⟩ := List.mem_map.mp hSubnet
    exact h.base.subnets subnet (List.mem_of_mem_filter hPrivate)

theorem MadeFrom.supplied_data (hBase : tiers.base.topology ∈ before) :
    tiers.Supplied before tiers.data.topology :=
  ⟨_, h.data.declares, fun _ hImport => ⟨_, hBase, h.offers_data hImport, .baseData⟩⟩

theorem MadeFrom.supplied_email {email : Tier CredentialHandle} (hEmail : email ∈ tiers.email) :
    tiers.Supplied before email.topology :=
  ⟨[], (h.email email hEmail).declares, by simp⟩

theorem MadeFrom.supplied_cert (hBase : tiers.base.topology ∈ before)
    {cert : Tier CertificateHandle} (hCert : cert ∈ tiers.cert) :
    tiers.Supplied before cert.topology :=
  ⟨_, (h.cert cert hCert).declares,
    List.forall_mem_singleton.mpr ⟨_, hBase, h.base.zone, .baseCert hCert⟩⟩

/-- The service takes from all tiers but that of the certificate. -/
theorem MadeFrom.offers_inner {i : Reference}
    (hImport : i ∈ Web.innerImports (tiers.webInputs c)) :
    ∃ p, (p = tiers.base.topology ∨ p = tiers.data.topology ∨
      ∃ email ∈ tiers.email, p = email.topology) ∧
        p.Offers i ∧ tiers.Supplies p tiers.web.topology := by
  simp only [Web.innerImports, Web.openings, Web.grants, webInputs, List.mem_append, List.mem_cons,
    List.mem_map, List.map_cons, List.map_nil, List.not_mem_nil, or_false,
    Option.mem_toList] at hImport
  rcases hImport with ((rfl | rfl | ⟨subnet, hPrivate, rfl⟩) | rfl | rfl | rfl) |
      rfl | ⟨grant, ⟨handle, hHandle, rfl⟩, rfl⟩
  · exact ⟨_, .inl rfl, h.base.vpc, .baseWeb⟩
  · exact ⟨_, .inl rfl, h.base.repositoryUri, .baseWeb⟩
  · exact ⟨_, .inl rfl, h.base.subnets subnet (List.mem_of_mem_filter hPrivate), .baseWeb⟩
  · exact ⟨_, .inr (.inl rfl), h.data.fileSystem, .dataWeb⟩
  · exact ⟨_, .inr (.inl rfl), h.data.securityGroup, .dataWeb⟩
  · exact ⟨_, .inr (.inl rfl), h.data.filesystemGroup, .dataWeb⟩
  · exact ⟨_, .inr (.inl rfl), h.data.secret, .dataWeb⟩
  · obtain ⟨email, hTier, rfl⟩ := Option.map_eq_some_iff.mp hHandle
    exact ⟨_, .inr (.inr ⟨email, hTier, rfl⟩), (h.email email hTier).secret, .emailWeb hTier⟩

/-- The web tier takes from every tier before it. -/
theorem MadeFrom.supplied_web (hBase : tiers.base.topology ∈ before)
    (hData : tiers.data.topology ∈ before) (hEmail : ∀ email ∈ tiers.email, email.topology ∈ before)
    (hCert : ∀ cert ∈ tiers.cert, cert.topology ∈ before) :
    tiers.Supplied before tiers.web.topology := by
  refine ⟨_, h.web.declares, fun i hImport => ?_⟩
  rw [Web.imports_eq, List.mem_append] at hImport
  rcases hImport with hInner | hFront
  · obtain ⟨p, hProducer, hOffers, hSupplies⟩ := h.offers_inner hInner
    refine ⟨p, ?_, hOffers, hSupplies⟩
    rcases hProducer with rfl | rfl | ⟨email, hTier, rfl⟩
    · exact hBase
    · exact hData
    · exact hEmail email hTier
  · simp only [webInputs, List.mem_flatMap, List.mem_cons, List.not_mem_nil, or_false,
      Option.mem_toList] at hFront
    obtain ⟨handle, hHandle, rfl | rfl⟩ := hFront
    · obtain ⟨cert, hTier, rfl⟩ := Option.map_eq_some_iff.mp hHandle
      exact ⟨_, hCert cert hTier, (h.cert cert hTier).certificate, .certWeb hTier⟩
    · exact ⟨_, hBase, h.base.zone, .baseWeb⟩

/-- Every tier is supplied by those before it, whichever of them are there. -/
theorem MadeFrom.supplied :
    ∀ before t after, tiers.topologies = before ++ t :: after → tiers.Supplied before t := by
  have hMem : ∀ {items before after : List Topology} {t : Topology}, items = before ++ t :: after →
      t ∈ items := fun hSplit => by rw [hSplit]; simp
  rw [topologies, forall_split_append, forall_split_append, forall_split_append, forall_split_cons]
  refine ⟨⟨⟨⟨h.supplied_base, fun before t after hSplit => ?_⟩, fun before t after hSplit => ?_⟩,
    fun before t after hSplit => ?_⟩, fun before t after hSplit => ?_⟩
  · obtain rfl := List.mem_singleton.mp (hMem hSplit)
    exact h.supplied_data (by simp)
  · obtain ⟨email, hEmail, rfl⟩ := List.mem_map.mp (hMem hSplit)
    exact h.supplied_email (Option.mem_toList.mp hEmail)
  · obtain ⟨cert, hCert, rfl⟩ := List.mem_map.mp (hMem hSplit)
    exact h.supplied_cert (by simp) (Option.mem_toList.mp hCert)
  · obtain rfl := List.mem_singleton.mp (hMem hSplit)
    refine h.supplied_web (by simp) (by simp) (fun email hEmail => ?_) fun cert hCert => ?_
    · simp only [List.mem_append, List.mem_map, Option.mem_toList]
      exact .inl (.inl (.inr ⟨email, hEmail, rfl⟩))
    · simp only [List.mem_append, List.mem_map, Option.mem_toList]
      exact .inl (.inr ⟨cert, hCert, rfl⟩)

theorem MadeFrom.declares {t : Topology} (hMem : t ∈ tiers.topologies) :
    ∃ imports, t.Declares imports ∧
      ∀ i ∈ imports, ∃ p ∈ tiers.topologies, p.Offers i ∧ tiers.Supplies p t := by
  obtain ⟨before, after, hSplit⟩ := List.append_of_mem hMem
  obtain ⟨imports, hDeclares, hOffered⟩ := h.supplied before t after hSplit
  refine ⟨imports, hDeclares, fun i hImport => ?_⟩
  obtain ⟨p, hBefore, hSupplied⟩ := hOffered i hImport
  exact ⟨p, by rw [hSplit]; exact List.mem_append_left _ hBefore, hSupplied⟩

end

end Tiers

end Blueprint
