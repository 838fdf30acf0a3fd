import Blueprint.Proofs.Settings.Rules

/-! Documents that differ in some keys only. A document means one choice of settings, and each key
is read for one group of them, so a change of some keys leaves the other groups as they are. -/

namespace Blueprint

theorem Engine.name_injective : Function.Injective Engine.name := by
  intro engine engine' h
  cases engine <;> cases engine' <;> first | rfl | simp [Engine.name] at h

namespace Document

/-- The documents differ at most in how the service runs: the size and number of its tasks, its
image and the region that shields it. -/
def DiffersInService (d d' : Document) : Prop :=
  d' = { d with
    fargateCpu := d'.fargateCpu
    fargateMemoryLimit := d'.fargateMemoryLimit
    fargateInstances := d'.fargateInstances
    ecrRepositoryTag := d'.ecrRepositoryTag
    cfOriginShieldRegion := d'.cfOriginShieldRegion }

/-- The documents differ at most in how the database runs: its machines, backups and maintenance,
who may reach it and as whom, and Babelfish. -/
def DiffersInDatabase (d d' : Document) : Prop :=
  d' = { d with
    dbReplicaInstances := d'.dbReplicaInstances
    dbBackupWindow := d'.dbBackupWindow
    dbBackupRetentionDays := d'.dbBackupRetentionDays
    dbPreferredMaintenanceWindow := d'.dbPreferredMaintenanceWindow
    dbIngressSources := d'.dbIngressSources
    dbInstanceType := d'.dbInstanceType
    dbUsername := d'.dbUsername
    dbEnableBabelfish := d'.dbEnableBabelfish }

instance (d d' : Document) : Decidable (DiffersInService d d') :=
  inferInstanceAs (Decidable (_ = _))

instance (d d' : Document) : Decidable (DiffersInDatabase d d') :=
  inferInstanceAs (Decidable (_ = _))

variable {d d' : Document} {s s' : Settings}

/-- The settings of a document are determined by their meaning. -/
theorem Means.unique (h : d.Means s) (h' : d.Means s') : s = s' := by
  have hEngine := Engine.name_injective (h.engine.trans h'.engine.symm)
  have hReplicas := Int.ofNat_inj.mp (h.replicas.trans h'.replicas.symm)
  have hRetention := Int.ofNat_inj.mp (h.retention.trans h'.retention.symm)
  have hIngress := List.map_injective_iff.mpr (fun _ _ hSame => Except.ok.inj hSame)
    (h.ingress.symm.trans h'.ingress)
  obtain ⟨scope, maxAzs, ⟨domain, host, root⟩, ⟨⟩, email, ⟨⟩⟩ := s
  obtain ⟨scope', maxAzs', ⟨domain', host', root'⟩, ⟨⟩, email', ⟨⟩⟩ := s'
  simp only [Settings.mk.injEq, DnsSettings.mk.injEq, DatabaseSettings.mk.injEq,
    WebSettings.mk.injEq]
  exact ⟨h.scope.trans h'.scope.symm, h.maxAzs.trans h'.maxAzs.symm,
    ⟨h.domain.trans h'.domain.symm, h.host.trans h'.host.symm, h.root.trans h'.root.symm⟩,
    ⟨hEngine, h.name.trans h'.name.symm, h.username.trans h'.username.symm,
      h.instanceType.trans h'.instanceType.symm, hReplicas,
      h.backupWindow.trans h'.backupWindow.symm, hRetention,
      h.maintenanceWindow.trans h'.maintenanceWindow.symm, hIngress,
      h.babelfish.trans h'.babelfish.symm⟩,
    h.email.trans h'.email.symm,
    ⟨h.cpu.trans h'.cpu.symm, h.memory.trans h'.memory.symm, h.instances.trans h'.instances.symm,
      h.imageTag.trans h'.imageTag.symm, h.shieldRegion.trans h'.shieldRegion.symm⟩⟩

/-- What is said about the service is read by the web tier alone. -/
theorem DiffersInService.settings_eq (hDiffers : DiffersInService d d') (h : d.Means s)
    (h' : d'.Means s') : s' = { s with web := s'.web } := by
  rw [hDiffers] at h'
  have hOld : d.Means { s' with web := s.web } :=
    { scope := h'.scope, maxAzs := h'.maxAzs, domain := h'.domain, host := h'.host
      root := h'.root, engine := h'.engine, name := h'.name, username := h'.username
      instanceType := h'.instanceType, replicas := h'.replicas, retention := h'.retention
      backupWindow := h'.backupWindow, maintenanceWindow := h'.maintenanceWindow
      ingress := h'.ingress, babelfish := h'.babelfish, email := h'.email
      cpu := h.cpu, memory := h.memory, instances := h.instances, imageTag := h.imageTag
      shieldRegion := h.shieldRegion }
  rw [h.unique hOld]

/-- What is said about the database is read by the data tier, and leaves the engine and the name of
the database alone. -/
theorem DiffersInDatabase.settings_eq (hDiffers : DiffersInDatabase d d') (h : d.Means s)
    (h' : d'.Means s') :
    s' = { s with database := s'.database } ∧ s'.database.engine = s.database.engine ∧
      s'.database.name = s.database.name := by
  rw [hDiffers] at h'
  have hOld : d.Means { s' with database := s.database } :=
    { scope := h'.scope, maxAzs := h'.maxAzs, domain := h'.domain, host := h'.host
      root := h'.root, engine := h.engine, name := h.name, username := h.username
      instanceType := h.instanceType, replicas := h.replicas, retention := h.retention
      backupWindow := h.backupWindow, maintenanceWindow := h.maintenanceWindow
      ingress := h.ingress, babelfish := h.babelfish, email := h'.email
      cpu := h'.cpu, memory := h'.memory, instances := h'.instances, imageTag := h'.imageTag
      shieldRegion := h'.shieldRegion }
  refine ⟨by rw [h.unique hOld], ?_, h'.name.trans h.name.symm⟩
  exact Engine.name_injective (h'.engine.trans h.engine.symm)

end Document

end Blueprint
