import Blueprint.Resource.Property
import Blueprint.Proofs.Dict

/-! The shape of declarations. Plain data in a declaration are scalars, peers and ports. A record
has either fixed field names, none of which has a meaning of its own in JSON, or it is a map whose
keys are arbitrary. All that is proved of the twenty-two kinds alike is proved from this shape. -/

namespace Blueprint

theorem PortRange.toJson_eq (range : PortRange) :
    range.toJson = .obj
      [("from", .nat range.first), ("protocol", .str range.protocol.word),
        ("to", .nat range.last)] := by
  simp only [PortRange.toJson, Json.object, Dict.ofList, Dict.insert, insertEntry, Dict.empty,
    List.foldl_cons, List.foldl_nil, String.reduceLT, String.reduceEq, ↓reduceIte]

theorem Spec.toJson_eq (spec : Spec) :
    spec.toJson = .obj [("Properties", spec.properties.toJson), ("Type", .str spec.kind)] := by
  simp only [Spec.toJson, Json.object, Dict.ofList, Dict.insert, insertEntry, Dict.empty,
    List.foldl_cons, List.foldl_nil, String.reduceLT, ↓reduceIte]

/-- Every leaf with plain data and every record of a tree has a property of its own. Embedded
values are not looked into. -/
inductive Property.Every (leaf : Json → Prop) (record : List (String × Property) → Prop) :
    Property → Prop where
  | data {json : Json} (h : leaf json) : Every leaf record (.data json)
  | value (v : Value) : Every leaf record (.value v)
  | list {items : List Property} (h : ∀ item ∈ items, Every leaf record item) :
      Every leaf record (.list items)
  | record {fields : List (String × Property)} (h : record fields)
      (hFields : ∀ field ∈ fields, Every leaf record field.2) : Every leaf record (.record fields)

namespace Property

theorem toJsons_eq_map (items : List Property) : toJsons items = items.map toJson := by
  induction items with
  | nil => rfl
  | cons first rest ih => rw [toJsons, ih, List.map_cons]

theorem fieldsToJson_eq_map (fields : List (String × Property)) :
    fieldsToJson fields = fields.map fun field => (field.1, field.2.toJson) := by
  induction fields with
  | nil => rfl
  | cons first rest ih =>
      obtain ⟨key, property⟩ := first
      rw [fieldsToJson, ih, List.map_cons]

/-- The members of a record are its fields. -/
theorem exists_field_of_mem {fields : List (String × Property)} {member : String × Json}
    (hMem : member ∈ (Dict.ofList (fieldsToJson fields)).entries) :
    ∃ field ∈ fields, (field.1, field.2.toJson) = member := by
  have hField := Dict.mem_of_mem_entries_ofList hMem
  rwa [fieldsToJson_eq_map, List.mem_map] at hField

theorem toJson_dict {α : Type} (d : Dict α) (property : α → Property) :
    (dict d property).toJson =
      .obj (d.entries.map fun entry => (entry.1, (property entry.2).toJson)) := by
  have hMap := Dict.ofList_map (fun a => (property a).toJson) d.entries
  rw [d.ofList_entries] at hMap
  rw [dict, toJson, fieldsToJson_eq_map, List.map_map, Json.object]
  exact congrArg (fun d => Json.obj d.entries) hMap

theorem referencesOf_eq_flatMap (items : List Property) :
    referencesOf items = items.flatMap references := by
  induction items with
  | nil => rfl
  | cons first rest ih => rw [referencesOf, ih, List.flatMap_cons]

theorem referencesOfFields_eq_flatMap (fields : List (String × Property)) :
    referencesOfFields fields = fields.flatMap fun field => field.2.references := by
  induction fields with
  | nil => rfl
  | cons first rest ih =>
      obtain ⟨key, property⟩ := first
      rw [referencesOfFields, ih, List.flatMap_cons]

/-- The keys under which JSON tells values and intrinsics from other objects. -/
def reservedKeys : List String :=
  ["literal", "ref", "join", "joinList", "Ref", "Fn::GetAtt", "Fn::ImportValue", "Fn::Join"]

/-- Plain data as it stands in declarations. -/
inductive IsPlain : Json → Prop where
  | null : IsPlain .null
  | bool (b : Bool) : IsPlain (.bool b)
  | nat (n : Nat) : IsPlain (.nat n)
  | str (s : String) : IsPlain (.str s)
  | peer (p : Peer) : IsPlain p.toJson
  | ports (range : PortRange) : IsPlain range.toJson

/-- The fields of a record whose names are fixed. -/
def IsNamed (fields : List (String × Property)) : Prop :=
  (fields.map Prod.fst).Nodup ∧ ∀ key ∈ fields.map Prod.fst, key ∉ reservedKeys

@[simp] theorem mem_reservedKeys {key : String} :
    key ∈ reservedKeys ↔ key = "literal" ∨ key = "ref" ∨ key = "join" ∨ key = "joinList" ∨
      key = "Ref" ∨ key = "Fn::GetAtt" ∨ key = "Fn::ImportValue" ∨ key = "Fn::Join" := by
  simp [reservedKeys]

@[simp] theorem isNamed_nil : IsNamed [] := by simp [IsNamed]

@[simp] theorem isNamed_cons {key : String} {p : Property} {fields : List (String × Property)} :
    IsNamed ((key, p) :: fields) ↔
      key ∉ fields.map Prod.fst ∧ key ∉ reservedKeys ∧ IsNamed fields := by
  simp only [IsNamed, List.map_cons, List.nodup_cons, List.forall_mem_cons]
  tauto

/-- The fields of a record in a declaration: fixed ones, or the entries of a map with keys that are
allowed. -/
inductive IsRegular (allowed : String → Prop) : List (String × Property) → Prop where
  | named {fields : List (String × Property)} (h : IsNamed fields) : IsRegular allowed fields
  | texts (d : Dict String) (h : ∀ key ∈ d.keys, allowed key) :
      IsRegular allowed (d.entries.map fun entry => (entry.1, text entry.2))
  | values (d : Dict Value) (h : ∀ key ∈ d.keys, allowed key) :
      IsRegular allowed (d.entries.map fun entry => (entry.1, .value entry.2))
  | mountTargets (d : Dict MountTarget) (h : ∀ key ∈ d.keys, allowed key) :
      IsRegular allowed (d.entries.map fun entry => (entry.1, entry.2.property))

variable {allowed : String → Prop}

/-- The keys of a record in a declaration are pairwise different. -/
theorem IsRegular.nodup_keys {fields : List (String × Property)} (h : IsRegular allowed fields) :
    (fields.map Prod.fst).Nodup := by
  cases h with
  | named h => exact h.1
  | texts d h | values d h | mountTargets d h =>
      rw [List.map_map]
      exact d.nodup_keys

/-- No record has a reserved key when no map has one. -/
theorem IsRegular.not_mem_reservedKeys {fields : List (String × Property)}
    (h : IsRegular (· ∉ reservedKeys) fields) {field : String × Property} (hMem : field ∈ fields) :
    field.1 ∉ reservedKeys := by
  cases h with
  | named h => exact h.2 _ (List.mem_map.mpr ⟨field, hMem, rfl⟩)
  | texts d h | values d h | mountTargets d h =>
      obtain ⟨entry, hEntry, rfl⟩ := List.mem_map.mp hMem
      exact h _ (List.mem_map.mpr ⟨entry, hEntry, rfl⟩)

/-- A tree made of plain data and records as they stand in declarations, all of whose maps have
keys that are allowed. -/
abbrev IsDeclared (p : Property) (allowed : String → Prop) : Prop :=
  p.Every IsPlain (IsRegular allowed)

/-- What holds of plain data, null apart, and of the fields of records with fixed names. Such a
statement holds of everything in a declaration once it holds of its maps. -/
structure Fixed (leaf : Json → Prop) (record : List (String × Property) → Prop) : Prop where
  plain : ∀ {json}, IsPlain json → json ≠ .null → leaf json
  named : ∀ {fields}, IsNamed fields → record fields

theorem fixed_isRegular : Fixed IsPlain (IsRegular allowed) := ⟨fun h _ => h, .named⟩

/-! ### The parts of declarations -/

variable {leaf : Json → Prop} {record : List (String × Property) → Prop}

theorem every_list {α : Type} {items : List α} {property : α → Property}
    (h : ∀ item ∈ items, (property item).Every leaf record) :
    (Property.list (items.map property)).Every leaf record :=
  .list fun p hMem => by
    obtain ⟨item, hItem, rfl⟩ := List.mem_map.mp hMem
    exact h item hItem

theorem every_values (items : List Value) : (values items).Every leaf record :=
  every_list fun v _ => .value v

/-- The fields of a map. -/
def mapFields {α : Type} (d : Dict α) (property : α → Property) : List (String × Property) :=
  d.entries.map fun entry => (entry.1, property entry.2)

theorem every_dict {α : Type} {d : Dict α} {property : α → Property}
    (hRecord : record (mapFields d property)) (h : ∀ a, (property a).Every leaf record) :
    (dict d property).Every leaf record :=
  .record hRecord fun field hMem => by
    obtain ⟨entry, -, rfl⟩ := List.mem_map.mp hMem
    exact h entry.2

theorem every_field? {α : Type} {key : String} {property : α → Property} {content : Option α}
    (h : ∀ c, (property c).Every leaf record) :
    (field? key property content).Forall fun field => field.2.Every leaf record := by
  cases content with
  | none => trivial
  | some c => exact h c

namespace Fixed

variable (h : Fixed leaf record)

include h

theorem text (s : String) : (Property.text s).Every leaf record :=
  .data (h.plain (.str s) (by simp))

theorem bool (b : Bool) : (Property.bool b).Every leaf record :=
  .data (h.plain (.bool b) (by simp))

theorem nat (n : Nat) : (Property.nat n).Every leaf record :=
  .data (h.plain (.nat n) (by simp [Json.nat]))

theorem peer (p : Peer) : (Property.data p.toJson).Every leaf record :=
  .data (h.plain (.peer p) (by cases p <;> simp [Peer.toJson, Json.object]))

theorem ports (range : PortRange) : (Property.data range.toJson).Every leaf record :=
  .data (h.plain (.ports range) (by simp [PortRange.toJson_eq]))

theorem texts (items : List String) : (Property.texts items).Every leaf record :=
  every_list fun s _ => h.text s

/-- Records with fixed names, field by field. -/
theorem ofFields {fields : List (String × Property)} (hNamed : IsNamed fields)
    (hFields : fields.Forall fun field => field.2.Every leaf record) :
    (Property.record fields).Every leaf record :=
  .record (h.named hNamed) (List.forall_iff_forall_mem.mp hFields)

end Fixed

end Property

open Property

section

variable {leaf : Json → Prop} {record : List (String × Property) → Prop} (h : Fixed leaf record)

include h

theorem MountTarget.every (target : MountTarget) : target.property.Every leaf record :=
  h.ofFields (by simp) ⟨.value _, .value _⟩

theorem IngressSource.every (source : IngressSource) : source.property.Every leaf record := by
  cases source with
  | peer p => exact h.ofFields (by simp) (h.peer p)
  | group g => exact h.ofFields (by simp) (.value g)

theorem IngressRule.every (rule : IngressRule) : rule.property.Every leaf record :=
  h.ofFields (by simp) ⟨rule.source.every h, h.ports _, h.text _⟩

theorem EgressRule.every (rule : EgressRule) : rule.property.Every leaf record :=
  h.ofFields (by simp) ⟨h.peer _, h.ports _, h.text _⟩

theorem PasswordPolicy.every (policy : PasswordPolicy) : policy.property.Every leaf record :=
  h.ofFields (by simp) ⟨h.text _, h.text _, h.text _, h.nat _⟩

theorem Metric.every {metric : Metric} (hMap : record (mapFields metric.dimensions .value)) :
    metric.property.Every leaf record :=
  h.ofFields (by simp) ⟨h.text _, h.text _, every_dict hMap .value, h.text _, h.nat _⟩

theorem Graph.every {graph : Graph}
    (hMaps : ∀ metric ∈ graph.left, record (mapFields metric.dimensions .value)) :
    graph.property.Every leaf record :=
  h.ofFields (by simp)
    ⟨h.text _, every_list fun metric hMem => Metric.every h (hMaps metric hMem), h.nat _, h.nat _⟩

theorem PolicyStatement.every (statement : PolicyStatement) :
    statement.property.Every leaf record :=
  h.ofFields (by simp) ⟨h.text _, h.texts _, every_values _⟩

theorem PolicyHolder.every (holder : PolicyHolder) : holder.property.Every leaf record := by
  cases holder with
  | user u => exact h.ofFields (by simp) (.value u)
  | role r => exact h.ofFields (by simp) (.value r)

theorem VolumeMount.every (volume : VolumeMount) : volume.property.Every leaf record :=
  h.ofFields (by simp) ⟨h.text _, .value _, h.text _, h.bool _⟩

theorem Connection.every (connection : Connection) : connection.property.Every leaf record :=
  h.ofFields (by simp) ⟨.value _, h.nat _, h.text _⟩

theorem Origin.every (origin : Origin) : origin.property.Every leaf record :=
  h.ofFields (by simp) ⟨.value _, h.text _, h.texts _, h.nat _, h.nat _, h.text _⟩

theorem CacheBehavior.every (cache : CacheBehavior) : cache.property.Every leaf record :=
  h.ofFields (by simp)
    ⟨h.texts _, h.texts _, h.bool _, h.nat _, h.bool _, h.text _, h.text _⟩

theorem ViewerCertificate.every (certificate : ViewerCertificate) :
    certificate.property.Every leaf record :=
  h.ofFields (by simp) ⟨.value _, h.texts _, h.text _⟩

end

/-! ### Declarations -/

/-- The fields of a declaration that are set. Only a firewall has a field that need not be: its
name. -/
def Spec.setFields : Spec → List (String × Property)
  | securityGroup spec =>
    field? "GroupName" text spec.name ++
      [("GroupDescription", text spec.description), ("VpcId", .value spec.vpc),
        ("Ingress", .list (spec.ingress.map IngressRule.property)),
        ("Egress", .list (spec.egress.map EgressRule.property))]
  | spec => spec.fields

/-- Apart from those that are set, a declaration has at most the name of a firewall. -/
theorem Spec.forall_fields {P : String × Property → Prop} {spec : Spec}
    (hSet : ∀ field ∈ spec.setFields, P field) (hUnset : P ("GroupName", .data .null)) :
    ∀ field ∈ spec.fields, P field := by
  cases spec with
  | securityGroup spec =>
      obtain ⟨name, description, vpc, ingress, egress⟩ := spec
      cases name with
      | none => exact List.forall_mem_cons.mpr ⟨hUnset, hSet⟩
      | some name => exact hSet
  | _ => exact hSet

/-- No field name of a declaration stands twice or is reserved. -/
theorem Spec.isNamed_fields (spec : Spec) : IsNamed spec.fields := by
  cases spec with
  | secret spec =>
      cases hPolicy : spec.generated <;> cases hGiven : spec.given <;>
        simp [Spec.fields, field?, hPolicy, hGiven]
  | databaseCluster spec =>
      cases hBackup : spec.backupWindow <;> cases hMaintenance : spec.maintenanceWindow <;>
        simp [Spec.fields, Spec.clusterFields, field?, hBackup, hMaintenance]
  | _ => simp [Spec.fields, Spec.serviceFields]

/-- The maps in a declaration. All other records have fixed names. -/
def Spec.maps : Spec → List (List (String × Property))
  | parameterGroup spec => [mapFields spec.parameters text]
  | databaseCluster spec => [mapFields spec.tags text]
  | fileSystem spec => [mapFields spec.mountTargets MountTarget.property]
  | dashboard spec =>
    spec.graphs.flatMap fun graph => graph.left.map fun metric => mapFields metric.dimensions .value
  | service spec => [mapFields spec.environment .value]
  | _ => []

/-- What holds of all fixed parts, and of the maps in a declaration, holds of everything in it. -/
theorem Spec.every_setFields {leaf : Json → Prop} {record : List (String × Property) → Prop}
    (h : Fixed leaf record) {spec : Spec} (hMaps : ∀ fields ∈ spec.maps, record fields) :
    ∀ field ∈ spec.setFields, field.2.Every leaf record := by
  refine List.forall_iff_forall_mem.mp ?_
  cases spec with
  | vpc spec => exact ⟨h.text _, h.nat _, h.nat _, h.bool _, h.bool _⟩
  | subnet spec => exact ⟨.value _, h.text _, h.nat _, h.text _, h.bool _, h.text _⟩
  | repository spec => exact h.bool _
  | hostedZone spec => exact h.text _
  | securityGroup spec =>
      simp only [setFields, List.forall_append]
      exact ⟨every_field? h.text, h.text _, .value _,
        every_list fun rule _ => rule.every h, every_list fun rule _ => rule.every h⟩
  | securityGroupIngress spec => exact ⟨.value _, spec.rule.every h⟩
  | parameterGroup spec =>
      exact ⟨h.text _, h.text _, every_dict (hMaps _ (List.mem_singleton_self _)) h.text⟩
  | secret spec =>
      simp only [setFields, fields, List.forall_append]
      exact ⟨⟨⟨h.text _, h.text _⟩, every_field? fun policy => policy.every h⟩,
        every_field? .value⟩
  | encryptionKey spec => exact ⟨h.text _, h.text _, h.bool _⟩
  | databaseCluster spec =>
      simp only [setFields, fields, clusterFields, List.forall_append]
      exact ⟨⟨⟨⟨h.text _, h.text _, h.nat _, .value _, h.text _, .value _, every_values _,
        every_values _, h.nat _⟩, every_field? h.text⟩, every_field? h.text⟩, h.bool _, h.bool _,
        .value _, h.bool _, h.bool _, h.bool _, h.texts _, h.nat _,
        every_dict (hMaps _ (List.mem_singleton_self _)) h.text⟩
  | databaseInstance spec => exact ⟨.value _, h.text _, h.text _, h.text _, h.bool _⟩
  | rotationSchedule spec =>
      exact ⟨.value _, .value _, h.nat _, h.text _, h.text _, every_values _⟩
  | fileSystem spec =>
      exact ⟨h.bool _, every_dict (hMaps _ (List.mem_singleton_self _)) fun target =>
        target.every h⟩
  | dashboard spec =>
      refine ⟨h.text _, every_list fun row hRow => every_list fun graph hGraph =>
        Graph.every h fun metric hMetric => hMaps _ ?_⟩
      exact List.mem_flatMap.mpr ⟨graph, List.mem_flatten.mpr ⟨row, hRow, hGraph⟩,
        List.mem_map.mpr ⟨metric, hMetric, rfl⟩⟩
  | user spec => exact h.text _
  | policy spec =>
      exact ⟨h.text _, spec.holder.every h, every_list fun statement _ => statement.every h⟩
  | mailCredentials spec => exact ⟨.value _, h.text _⟩
  | certificate spec => exact ⟨h.text _, h.texts _, h.text _, h.text _, .value _⟩
  | computeCluster spec => exact .value _
  | service spec =>
      exact ⟨.value _, .value _, h.nat _, h.nat _, h.nat _, h.bool _, h.nat _, h.text _,
        every_values _, h.texts _, every_list fun volume _ => volume.every h,
        every_list fun connection _ => connection.every h,
        every_dict (hMaps _ (List.mem_singleton_self _)) .value, h.text _⟩
  | distribution spec =>
      exact ⟨h.bool _, h.bool _, h.text _, spec.origin.every h, spec.cacheBehavior.every h,
        spec.viewerCertificate.every h⟩
  | aliasRecord spec => exact ⟨.value _, h.text _, h.text _, .value _⟩

/-- The keys of the maps in a graph. -/
def Graph.mapKeys (graph : Graph) : List String :=
  graph.left.flatMap fun metric => metric.dimensions.keys

/-- The keys of the maps in a declaration. All other field names are fixed. -/
def Spec.mapKeys : Spec → List String
  | parameterGroup spec => spec.parameters.keys
  | databaseCluster spec => spec.tags.keys
  | fileSystem spec => spec.mountTargets.keys
  | dashboard spec => spec.graphs.flatMap Graph.mapKeys
  | service spec => spec.environment.keys
  | _ => []

variable {allowed : String → Prop}

theorem Spec.isRegular_maps {spec : Spec} (h : ∀ key ∈ spec.mapKeys, allowed key) :
    ∀ fields ∈ spec.maps, IsRegular allowed fields := by
  cases spec with
  | parameterGroup spec => exact List.forall_mem_singleton.mpr (.texts _ h)
  | databaseCluster spec => exact List.forall_mem_singleton.mpr (.texts _ h)
  | fileSystem spec => exact List.forall_mem_singleton.mpr (.mountTargets _ h)
  | dashboard spec =>
      refine List.forall_mem_flatMap.mpr fun graph hGraph => List.forall_mem_map.mpr
        fun metric hMetric => .values _ fun key hKey => h key ?_
      exact List.mem_flatMap.mpr ⟨graph, hGraph, List.mem_flatMap.mpr ⟨metric, hMetric, hKey⟩⟩
  | service spec => exact List.forall_mem_singleton.mpr (.values _ h)
  | _ => exact List.forall_mem_nil _

/-- A declaration of any kind has the shape of declarations. -/
theorem Spec.isDeclared {spec : Spec} (h : ∀ key ∈ spec.mapKeys, allowed key) :
    spec.properties.IsDeclared allowed :=
  .record (.named spec.isNamed_fields)
    (forall_fields (every_setFields fixed_isRegular (isRegular_maps h)) (.data .null))

end Blueprint
