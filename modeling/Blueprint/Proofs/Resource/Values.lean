import Blueprint.Proofs.Resource.Shape

/-! The values that a declaration embeds, read off its typed fields. Nothing here looks at the
JSON form or at the tree of properties; that the two agree is a statement, not a definition. -/

namespace Blueprint

/-- The group that a rule lets in, if it lets in one. -/
def IngressSource.values : IngressSource → List Value
  | peer _ => []
  | group g => [g]

/-- The user or the role that holds a policy. -/
def PolicyHolder.value : PolicyHolder → Value
  | user u => u
  | role r => r

/-- The values in the typed fields of a declaration, each as often as it stands in one. -/
def Spec.values : Spec → List Value
  | vpc _ | repository _ | hostedZone _ | parameterGroup _ | encryptionKey _ | user _ => []
  | subnet spec => [spec.vpc]
  | securityGroup spec => spec.vpc :: spec.ingress.flatMap fun rule => rule.source.values
  | securityGroupIngress spec => spec.group :: spec.rule.source.values
  | secret spec => spec.given.toList
  | databaseCluster spec =>
    [spec.masterSecret, spec.parameterGroup] ++ spec.subnets ++ spec.securityGroups ++ [spec.key]
  | databaseInstance spec => [spec.cluster]
  | rotationSchedule spec => [spec.secret, spec.target] ++ spec.subnets
  | fileSystem spec =>
    spec.mountTargets.values.flatMap fun target => [target.subnet, target.securityGroup]
  | dashboard spec =>
    spec.graphs.flatMap fun graph => graph.left.flatMap fun metric => metric.dimensions.values
  | policy spec => spec.holder.value :: spec.statements.flatMap PolicyStatement.resources
  | mailCredentials spec => [spec.user]
  | certificate spec => [spec.validationZone]
  | computeCluster spec => [spec.vpc]
  | service spec =>
    [spec.cluster, spec.image] ++ spec.subnets ++ spec.volumes.map VolumeMount.fileSystem ++
      spec.connections.map Connection.target ++ spec.environment.values
  | distribution spec => [spec.origin.domainName, spec.viewerCertificate.certificate]
  | aliasRecord spec => [spec.zone, spec.target]

namespace Property

theorem references_record (fields : List (String × Property)) :
    (record fields).references = fields.flatMap fun field => field.2.references := by
  rw [references, referencesOfFields_eq_flatMap]

theorem references_list {α : Type} (items : List α) (property : α → Property) :
    (list (items.map property)).references =
      items.flatMap fun item => (property item).references := by
  rw [references, referencesOf_eq_flatMap, List.flatMap_map]

theorem references_dict {α : Type} (d : Dict α) (property : α → Property) :
    (dict d property).references = d.values.flatMap fun item => (property item).references := by
  rw [dict, references_record, List.flatMap_map, Dict.values, List.flatMap_map]

@[simp] theorem references_value (v : Value) : (value v).references = v.references := by
  rw [references]

@[simp] theorem references_data (json : Json) : (data json).references = [] := by rw [references]

@[simp] theorem references_text (s : String) : (text s).references = [] := references_data _

@[simp] theorem references_bool (b : Bool) : (bool b).references = [] := references_data _

@[simp] theorem references_nat (n : Nat) : (nat n).references = [] := references_data _

@[simp] theorem references_text? (s : Option String) : (text? s).references = [] := by
  cases s <;> exact references_data _

@[simp] theorem references_texts (items : List String) : (texts items).references = [] := by
  rw [texts, references_list]
  simp

@[simp] theorem references_values (items : List Value) :
    (values items).references = items.flatMap Value.references := by
  rw [values, references_list]
  simp

@[simp] theorem references_dict_text (d : Dict String) : (dict d text).references = [] := by
  rw [references_dict]
  simp

@[simp] theorem references_dict_value (d : Dict Value) :
    (dict d value).references = d.values.flatMap Value.references := by
  rw [references_dict]
  simp

end Property

open Property

theorem IngressRule.references_property (rule : IngressRule) :
    rule.property.references = rule.source.values.flatMap Value.references := by
  obtain ⟨source, ports, description⟩ := rule
  cases source <;>
    simp [IngressRule.property, IngressSource.property, IngressSource.values, references_record]

theorem EgressRule.references_property (rule : EgressRule) : rule.property.references = [] := by
  simp [EgressRule.property, references_record]

theorem PasswordPolicy.references_property (policy : PasswordPolicy) :
    policy.property.references = [] := by
  simp [PasswordPolicy.property, references_record]

theorem Metric.references_property (metric : Metric) :
    metric.property.references = metric.dimensions.values.flatMap Value.references := by
  simp [Metric.property, references_record]

theorem PolicyHolder.references_property (holder : PolicyHolder) :
    holder.property.references = holder.value.references := by
  cases holder <;> simp [PolicyHolder.property, PolicyHolder.value, references_record]

/-- The tree of a declaration embeds the values in its typed fields, in the same order. -/
theorem Spec.references_eq_flatMap_values (spec : Spec) :
    spec.references = spec.values.flatMap Value.references := by
  rw [Spec.references, Spec.properties, references_record]
  cases spec with
  | vpc spec | repository spec | hostedZone spec | encryptionKey spec | user spec
  | parameterGroup spec | subnet spec | databaseInstance spec | rotationSchedule spec
  | mailCredentials spec | certificate spec | computeCluster spec | aliasRecord spec =>
      simp [fields, values]
  | securityGroup spec =>
      simp [fields, values, references_list, IngressRule.references_property,
        EgressRule.references_property, List.flatMap_assoc]
  | securityGroupIngress spec => simp [fields, values, IngressRule.references_property]
  | secret spec =>
      obtain ⟨name, description, generated, given⟩ := spec
      cases generated <;> cases given <;>
        simp [fields, values, field?, PasswordPolicy.references_property]
  | databaseCluster spec =>
      have hBackup : (field? "PreferredBackupWindow" text spec.backupWindow).flatMap
          (fun field => field.2.references) = [] := by cases spec.backupWindow <;> simp [field?]
      have hMaintenance :
          (field? "PreferredMaintenanceWindow" text spec.maintenanceWindow).flatMap
            (fun field => field.2.references) = [] := by
        cases spec.maintenanceWindow <;> simp [field?]
      simp [fields, clusterFields, values, hBackup, hMaintenance]
  | fileSystem spec =>
      simp [fields, values, references_dict, MountTarget.property, references_record,
        List.flatMap_assoc]
  | dashboard spec =>
      simp only [fields, values, references_list, Graph.property, references_record,
        Metric.references_property, List.flatMap_cons, List.flatMap_nil, references_text,
        references_nat, List.nil_append, List.append_nil]
      rw [Dashboard.graphs, List.flatten_eq_flatMap, List.flatMap_assoc, List.flatMap_assoc]
      simp only [List.flatMap_assoc, id]
  | policy spec =>
      simp [fields, values, PolicyHolder.references_property, references_list,
        PolicyStatement.property, references_record, List.flatMap_assoc]
  | service spec =>
      simp [fields, serviceFields, values, references_list, VolumeMount.property,
        Connection.property, references_record, List.flatMap_map]
  | distribution spec =>
      simp [fields, values, Origin.property, CacheBehavior.property, ViewerCertificate.property,
        references_record]

end Blueprint
