import Blueprint.Proofs.Deployment.PublicNames

/-! What the service may do and reach. It is told the names of secrets, and may read those secrets
and no others; it connects to firewalls, and those firewalls let it in on those ports. A name, a
reference and a port each pass through the handles of two tiers on their way, so that both ends are
compared here. -/

namespace Blueprint

namespace Web

/-- The variables that tell the service the names of secrets, with the tiers of the secrets. -/
def secretVariables : List (String × String) :=
  [(databaseSecretVariable, "Data"), (emailSecretVariable, "Email")]

theorem get?_databaseSecret (t : Topology) (inputs : Inputs) :
    (service t inputs).environment.get? databaseSecretVariable =
      some (.literal inputs.database.credentials.name) := by
  rw [service, environment, Dict.get?_insert, if_neg (by decide), Dict.get?_insert,
    if_neg (by decide)]
  cases hEmail : inputs.email with
  | none => simp [grants, hEmail, Dict.get?_insert]
  | some email =>
      simp [grants, hEmail, Dict.get?_insert, databaseSecretVariable, emailSecretVariable]

theorem get?_emailSecret (t : Topology) (inputs : Inputs) :
    (service t inputs).environment.get? emailSecretVariable =
      inputs.email.map fun email => .literal email.name := by
  rw [service, environment, Dict.get?_insert, if_neg (by decide), Dict.get?_insert,
    if_neg (by decide)]
  cases hEmail : inputs.email with
  | none =>
      simp [grants, hEmail, Dict.get?_insert, Dict.get?_empty, databaseSecretVariable,
        emailSecretVariable]
  | some email => simp [grants, hEmail, Dict.get?_insert]

end Web

/-- A policy of the web tier grants the role of the service the only secret of another tier, and
nothing else; the service knows the name of the secret by a variable. -/
structure GrantsSecret (web owner : Topology) (service : ResourceId × Service)
    (secret : ResourceId × Secret) (key : String) (policy : Policy) : Prop where
  declared : owner.allOf Spec.secret? = [(owner.name, secret)]
  named : service.2.environment.get? key = some (.literal secret.2.name)
  holder : policy.holder = .role (web.own service.1 Attribute.taskRole)
  statements : policy.statements =
    [.allow ["secretsmanager:GetSecretValue"]
      [web.imported (owner.reference secret.1 Attribute.self)]]

/-- A policy grants a secret of the topology with a name. -/
def Assembly.GrantsFrom (a : Assembly) (name : String) (web : Topology)
    (service : ResourceId × Service) (key : String) (policy : Policy) : Prop :=
  ∃ owner secret, a.topology? name = some owner ∧ GrantsSecret web owner service secret key policy

/-- The policies of the web tier are one for each variable of the service that names a secret. -/
def Assembly.GrantsSecrets (a : Assembly) (scope : Scope) (web : Topology)
    (service : ResourceId × Service) : Prop :=
  List.Forall₂
    (fun known policy => a.GrantsFrom (scope.topologyName known.2) web service known.1 policy)
    (Web.secretVariables.filter fun known => (service.2.environment.get? known.1).isSome)
    ((web.allOf Spec.policy?).map fun declared => declared.2.2)

/-- The service connects to the firewalls of the database cluster and of the file system, on their
ports, and what the web tier adds to firewalls is what lets the service in there. -/
structure OpensFirewalls (data web : Topology) (service : ResourceId × Service)
    (databaseGroup filesystemGroup : ResourceId) (cluster : ResourceId × DatabaseCluster)
    (fileSystem : ResourceId × FileSystem) : Prop where
  clusters : data.allOf Spec.databaseCluster? = [(data.name, cluster)]
  fileSystems : data.allOf Spec.fileSystem? = [(data.name, fileSystem)]
  groups : (data.allOf Spec.securityGroup?).map (fun declared => declared.2.1) =
    [databaseGroup, filesystemGroup]
  /-- The first firewall stands around the cluster. -/
  aroundCluster : cluster.2.securityGroups = [data.own databaseGroup Attribute.groupId]
  /-- The second one stands around the file system. -/
  aroundFileSystem : ∀ target ∈ fileSystem.2.mountTargets.values,
    target.securityGroup = data.own filesystemGroup Attribute.groupId
  connections : service.2.connections.map (fun connection => (connection.target, connection.port)) =
    [(web.imported (data.reference databaseGroup Attribute.groupId), cluster.2.port),
      (web.imported (data.reference filesystemGroup Attribute.groupId), 2049)]
  rules : (web.allOf Spec.securityGroupIngress?).map (fun declared => declared.2.2) =
    service.2.connections.map fun connection =>
      { group := connection.target
        rule :=
          ⟨.group (web.own service.1 Attribute.securityGroupId), .tcp connection.port,
            connection.description⟩ }

namespace Tiers

variable {settings : Settings} {tiers : Tiers}

theorem CreatedFor.opensFirewalls (h : tiers.CreatedFor (.ofSettings settings))
    (hReplicas : settings.database.replicas ≤ Bounds.nat32) :
    ∃ cluster fileSystem, OpensFirewalls tiers.data.topology tiers.web.topology
      (Web.serviceId, Web.service (Web.bare (tiers.webInputs (.ofSettings settings)))
        (tiers.webInputs (.ofSettings settings)))
      Data.groupId Data.filesystemGroupId cluster fileSystem := by
  obtain ⟨instances, hData⟩ := h.eq_declared_data hReplicas
  obtain ⟨fileSystem, hTargets, hFileSystem⟩ :=
    Data.allOf_fileSystem settings.scope settings.database tiers.base.handle instances
  rw [h.eq_declared_web]
  refine ⟨(Data.clusterId, Data.cluster (Data.bare settings.scope tiers.base.handle)
      settings.database ((Data.subnets settings.scope tiers.base.handle).map Prod.snd)),
    (Data.filesystemId, fileSystem), ?_, ?_, ?_, ?_, ?_, ?_, ?_⟩
  · rw [hData]
    exact congrArg (List.map _) Data.allOf_databaseCluster
  · rw [hData]
    exact congrArg (List.map _) hFileSystem
  · rw [hData, Topology.allOf, List.map_map]
    exact Data.allOf_securityGroup
  · rw [hData]
    rfl
  · rw [hData]
    exact hTargets
  · rw [webInputs, hData]
    rfl
  · rw [Topology.allOf, List.map_map]
    refine (congrArg (List.map _) Web.allOf_securityGroupIngress).trans ?_
    rw [List.map_map, Web.service, List.map_map]
    rfl

/-- The handle of a secret carries its name to the variable and its reference to the policy. -/
theorem MadeFrom.grantsFrom {c : Composition} (hMade : tiers.MadeFrom c) (inputs : Web.Inputs)
    (grant : Web.Grant) (owner : Topology) (secret : ResourceId × Secret) {name : String}
    (hMem : owner ∈ tiers.topologies) (hName : owner.name = name)
    (hDeclared : owner.allOf Spec.secret? = [(owner.name, secret)])
    (hHandle : grant.credentials = ⟨secret.2.name, owner.reference secret.1 Attribute.self⟩)
    (hNamed : (Web.service (Web.bare inputs) inputs).environment.get? grant.key =
      some (.literal grant.credentials.name)) :
    tiers.assembly.GrantsFrom name (Web.declared inputs).topology
      (Web.serviceId, Web.service (Web.bare inputs) inputs) grant.key
      (grant.policy (Web.bare inputs)) := by
  refine ⟨owner, secret, hName ▸ hMade.topology?_eq hMem, hDeclared, ?_, rfl, ?_⟩
  · rw [hNamed, hHandle]
  · rw [Web.Grant.policy, hHandle]
    rfl

section

variable (h : tiers.CreatedFor (.ofSettings settings))
  (hMade : tiers.MadeFrom (.ofSettings settings))

include h hMade

theorem CreatedFor.grantsFrom_data (hReplicas : settings.database.replicas ≤ Bounds.nat32)
    {inputs : Web.Inputs} (hDatabase : inputs.database = tiers.data.handle) :
    tiers.assembly.GrantsFrom (settings.scope.topologyName "Data") (Web.declared inputs).topology
      (Web.serviceId, Web.service (Web.bare inputs) inputs) Web.databaseSecretVariable
      (Web.Grant.policy ⟨Web.databasePolicyId, inputs.database.credentials,
        Web.databaseSecretVariable⟩ (Web.bare inputs)) := by
  obtain ⟨instances, hData⟩ := h.eq_declared_data hReplicas
  obtain ⟨secret, hName, hSecret⟩ :=
    Data.allOf_secret settings.scope settings.database tiers.base.handle instances
  refine hMade.grantsFrom inputs ⟨_, _, _⟩ tiers.data.topology (Data.secretId, secret)
    (by simp [topologies]) hMade.data.name ?_ ?_ (Web.get?_databaseSecret _ _)
  · rw [hData]
    exact congrArg (List.map _) hSecret
  · rw [hDatabase, hName, hData]
    rfl

theorem CreatedFor.grantsFrom_email {email : Tier CredentialHandle}
    (hEmail : tiers.email = some email) {inputs : Web.Inputs}
    (hHandle : inputs.email = some email.handle) :
    tiers.assembly.GrantsFrom (settings.scope.topologyName "Email") (Web.declared inputs).topology
      (Web.serviceId, Web.service (Web.bare inputs) inputs) Web.emailSecretVariable
      (Web.Grant.policy ⟨Web.emailPolicyId, email.handle, Web.emailSecretVariable⟩
        (Web.bare inputs)) := by
  have hDeclared : email = Email.declared settings.scope := by
    have hSame := h.eq_declared_email
    rw [hEmail] at hSame
    exact Option.some.inj (Option.ite_none_right_eq_some.mp hSame.symm).2.symm
  obtain ⟨secret, hName, hSecret⟩ :=
    Email.allOf_secret (Email.bare settings.scope) settings.scope
  refine hMade.grantsFrom inputs ⟨_, _, _⟩ email.topology (Email.secretId, secret)
    (by simp [topologies, hEmail]) (hMade.email email hEmail).name ?_ ?_ ?_
  · rw [hDeclared]
    exact congrArg (List.map _) hSecret
  · rw [hName, hDeclared]
    rfl
  · refine (Web.get?_emailSecret _ _).trans ?_
    rw [hHandle]
    rfl

/-- The policies are those of the variables, in the same order. -/
theorem CreatedFor.grantsSecrets (hReplicas : settings.database.replicas ≤ Bounds.nat32) :
    tiers.assembly.GrantsSecrets settings.scope tiers.web.topology
      (Web.serviceId, Web.service (Web.bare (tiers.webInputs (.ofSettings settings)))
        (tiers.webInputs (.ofSettings settings))) := by
  have hWeb := h.eq_declared_web
  have hData : (tiers.webInputs (.ofSettings settings)).database = tiers.data.handle := rfl
  have hMail : (tiers.webInputs (.ofSettings settings)).email = tiers.email.map Tier.handle := rfl
  generalize tiers.webInputs (.ofSettings settings) = inputs at hWeb hData hMail ⊢
  have hPolicies : ((Web.declared inputs).topology.allOf Spec.policy?).map
      (fun declared => declared.2.2) =
        (Web.grants inputs).map fun grant => grant.policy (Web.bare inputs) := by
    rw [Topology.allOf, List.map_map]
    refine (congrArg (List.map _) Web.allOf_policy).trans ?_
    rw [List.map_map]
    rfl
  have hDatabase := h.grantsFrom_data hMade hReplicas hData
  have hKnown := Web.get?_databaseSecret (Web.bare inputs) inputs
  have hMailed := Web.get?_emailSecret (Web.bare inputs) inputs
  rw [Assembly.GrantsSecrets, hWeb, hPolicies]
  cases hEmail : tiers.email with
  | none =>
      rw [hEmail, Option.map_none] at hMail
      rw [hMail, Option.map_none] at hMailed
      simp only [Web.secretVariables, Web.grants, hMail, hKnown, hMailed, List.filter_cons]
      exact .cons hDatabase .nil
  | some email =>
      rw [hEmail, Option.map_some] at hMail
      rw [hMail, Option.map_some] at hMailed
      simp only [Web.secretVariables, Web.grants, hMail, hKnown, hMailed, List.filter_cons]
      exact .cons hDatabase (.cons (h.grantsFrom_email hMade hEmail hMail) .nil)

end

end Tiers

namespace Deployment

/-- The service is granted exactly what it uses: the secrets whose names it is told, those of the
database always and those for mail if mail is enabled, and the firewalls that it connects to. -/
theorem grants_of_accepted {d : Document} {settings : Settings} (h : d.validate = .ok settings) :
    ∃ deployment data web service databaseGroup filesystemGroup cluster fileSystem,
      assemble settings = .ok deployment ∧
      deployment.assembly.topology? (settings.scope.topologyName "Data") = some data ∧
      deployment.assembly.topology? (settings.scope.topologyName "Web") = some web ∧
      deployment.assembly.allOf Spec.service? = [(web.name, service)] ∧
      (service.2.environment.get? Web.databaseSecretVariable).isSome = true ∧
      ((service.2.environment.get? Web.emailSecretVariable).isSome = true ↔
        d.sesEmailEnabled = some true) ∧
      deployment.assembly.GrantsSecrets settings.scope web service ∧
      OpensFirewalls data web service databaseGroup filesystemGroup cluster fileSystem := by
  have hBounded := Document.bounded_of_validate h
  obtain ⟨tiers, hTiers, hMade⟩ := Tiers.ofSettings_eq_ok hBounded
  have hCreated := Tiers.createdFor_of_ofSettings hTiers
  have hReplicas : settings.database.replicas ≤ Bounds.nat32 := hBounded.admissible.replicas
  have hData : tiers.assembly.topology? (settings.scope.topologyName "Data") =
      some tiers.data.topology :=
    hMade.data.name ▸ hMade.topology?_eq (by simp [Tiers.topologies])
  have hWeb : tiers.assembly.topology? (settings.scope.topologyName "Web") =
      some tiers.web.topology :=
    hMade.web.name ▸ hMade.topology?_eq (by simp [Tiers.topologies])
  obtain ⟨cluster, fileSystem, hOpens⟩ := hCreated.opensFirewalls hReplicas
  refine ⟨ofTiers settings tiers, tiers.data.topology, tiers.web.topology, _, _, _, cluster,
    fileSystem, assemble_eq_ok hTiers hMade, hData, hWeb,
    hCreated.allOf_service (hCreated.sorted hBounded.admissible), ?_, ?_,
    hCreated.grantsSecrets hMade hReplicas, hOpens⟩
  · rw [Web.get?_databaseSecret]
    rfl
  · have hEmail : settings.email = d.sesEmailEnabled.getD false :=
      (Document.means_of_validate h).email
    have hTier : tiers.email.isSome = settings.email := by
      rw [hCreated.eq_declared_email]
      show (if settings.email then some _ else none).isSome = settings.email
      cases settings.email <;> rfl
    rw [Web.get?_emailSecret, Option.isSome_map, Tiers.webInputs, Option.isSome_map, hTier, hEmail]
    cases d.sesEmailEnabled <;> simp

theorem grants_siteDocument : siteDocument.validate = .ok siteSettings ∧
    ∃ deployment web service, assemble siteSettings = .ok deployment ∧
      deployment.assembly.allOf Spec.service? = [(web, service)] ∧
      (service.2.environment.get? Web.emailSecretVariable).isSome = true := by
  have hValid : siteDocument.validate = .ok siteSettings := by decide +kernel
  obtain ⟨deployment, _, web, service, _, _, _, _, hAssembled, -, -, hService, -, hMail, -⟩ :=
    grants_of_accepted hValid
  exact ⟨hValid, deployment, web.name, service, hAssembled, hService, hMail.mpr rfl⟩

end Deployment

end Blueprint
