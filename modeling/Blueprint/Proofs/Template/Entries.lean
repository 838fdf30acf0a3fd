import Blueprint.Json.Typed
import Blueprint.Proofs.Template.Placeholders
import Blueprint.Template

/-! Reading templates. The readers go by the keys that the provider gives a meaning, and say of
every entry that a template is made of what it exports, what it writes and what stands in it for
attributes. -/

namespace Blueprint.Template

open Json Placeholder

/-! ### Readers -/

/-- The entries of a section of a template. -/
def entriesIn (name : String) (template : Json) : List (String × Json) :=
  match template.member? name with
  | some (.obj entries) => entries
  | _ => []

/-- The export name of an output. -/
def exportName? (output : Json) : Option String :=
  ((output.member? "Export").bind fun declared => declared.member? "Name").bind Json.text?

/-- The path that a parameter is read from. -/
def defaultPath? (parameter : Json) : Option String :=
  (parameter.member? "Default").bind Json.text?

/-- The kind of a resource. -/
def kind? (resource : Json) : Option String := (resource.member? "Type").bind Json.text?

/-- What a resource writes to parameters: the region, the path and the value of each. -/
def writes (resource : Json) : List (String × String × Json) :=
  if kind? resource = some "Custom::CrossRegionExportWriter" then
    let properties := (resource.member? "Properties").getD .null
    match properties.member? "Region", properties.member? "Exports" with
    | some (.str region), some (.obj values) =>
      values.map fun (path, value) => (region, path, value)
    | _, _ => []
  else []

/-- A rendered resource writes to parameters, going by its kind or by its name. -/
def IsWriter (entry : String × Json) : Prop :=
  kind? entry.2 = some "Custom::CrossRegionExportWriter" ∨
    "ExportsWriter".toList <+: entry.1.toList

instance (entry : String × Json) : Decidable (IsWriter entry) := inferInstanceAs (Decidable (_ ∨ _))

/-! ### Entries of declared resources -/

/-- What a template adds to the declaration of a resource that outlives its deployment. -/
def retention (resource : Resource) : List (String × Json) :=
  if resource.retained then
    [("DeletionPolicy", .str "Retain"), ("UpdateReplacePolicy", .str "Retain")]
  else []

theorem resolve_spec (consumer : String) (spec : Spec) :
    Intrinsic.resolve consumer spec.toJson =
      .obj [("Properties", Intrinsic.resolve consumer spec.properties.toJson),
        ("Type", .str spec.kind)] := by
  rw [spec.toJson_eq, Intrinsic.resolve_obj (Value.ofJson?_many_eq_none _ _ _), Spec.properties,
    Property.toJson, Json.object, Intrinsic.resolveMembers, Intrinsic.resolveMembers,
    Intrinsic.resolveMembers]
  · rfl
  · simp
  · simp

theorem resourceEntry_eq (consumer : String) (resource : Resource) :
    resourceEntry consumer resource =
      Json.object
        ([("Properties", Intrinsic.resolve consumer resource.spec.properties.toJson),
          ("Type", .str resource.spec.kind)] ++ retention resource) := by
  unfold resourceEntry retention
  rw [resolve_spec]
  cases resource.retained with
  | true => rfl
  | false =>
      simp only [Bool.false_eq_true, ↓reduceIte, List.append_nil, Json.object, Dict.ofList,
        Dict.insert, insertEntry, Dict.empty, List.foldl_cons, List.foldl_nil, String.reduceLT,
        String.reduceEq]

theorem nodup_resourceEntry (resource : Resource) (properties : Json) :
    (([("Properties", properties), ("Type", .str resource.spec.kind)] ++
      retention resource).map Prod.fst).Nodup := by
  unfold retention
  cases resource.retained <;> simp

/-- A declared resource shows its attributes, and nothing else, as placeholders. -/
theorem placeholdersIn_resourceEntry_perm (consumer : String) {resource : Resource}
    (hKeys : ∀ key ∈ resource.spec.mapKeys, key ∉ Property.reservedKeys) (key : String) :
    (placeholdersIn (key, resourceEntry consumer resource)).Perm
      (resource.spec.references.map (ofReference consumer)) := by
  have hRetention : (retention resource).flatMap placeholdersIn = [] := by
    unfold retention
    cases resource.retained <;> rfl
  rw [resourceEntry_eq]
  refine (placeholders_object_perm (nodup_resourceEntry resource _)).trans ?_
  rw [List.flatMap_append, hRetention, List.append_nil, List.flatMap_cons, List.flatMap_singleton,
    placeholdersIn_eq (by decide), placeholdersIn_eq (by decide), placeholders_str, List.append_nil]
  exact Intrinsic.placeholders_resolve_perm consumer (Spec.isDeclared hKeys)

theorem kind?_resourceEntry (consumer : String) (resource : Resource) :
    kind? (resourceEntry consumer resource) = some resource.spec.kind := by
  rw [kind?, resourceEntry_eq, member?_object, lookup_reverse (nodup_resourceEntry resource _)]
  simp [lookup_cons_ite, Json.text?]

/-- No declaration is of the kind that writes parameters. -/
theorem kind_ne_writer (spec : Spec) : spec.kind ≠ "Custom::CrossRegionExportWriter" := by
  cases spec <;> simp [Spec.kind]

/-- No declared resource writes parameters. -/
theorem writes_resourceEntry (consumer : String) (resource : Resource) :
    writes (resourceEntry consumer resource) = [] := by
  rw [writes, kind?_resourceEntry, if_neg (fun h => kind_ne_writer _ (Option.some.inj h))]

/-- Nor does it look as if it did, unless it has the name of an entry that is added. -/
theorem not_isWriter_resourceEntry (consumer : String) {resource : Resource}
    (hName : ¬ "Exports".toList <+: resource.id.text.toList) :
    ¬ IsWriter (resource.id.text, resourceEntry consumer resource) := by
  rintro (hKind | hPrefix)
  · rw [kind?_resourceEntry] at hKind
    exact kind_ne_writer _ (Option.some.inj hKind)
  · exact hName (List.IsPrefix.trans (by decide) hPrefix)

/-! ### Entries that are added for other topologies -/

theorem placeholdersIn_writerEntry_perm (region : String) (parameters : Dict Reference) :
    (placeholdersIn (writerEntry region parameters)).Perm (parameters.values.map own) := by
  have hValues : (Json.ofDict (parameters.map Intrinsic.ownAttribute)).placeholders =
      parameters.values.map own := by
    rw [ofDict, placeholders_obj, Dict.map, List.flatMap_map, Dict.values, List.map_map,
      List.map_eq_flatMap]
    refine List.flatMap_congr fun entry _ => ?_
    exact Intrinsic.placeholdersIn_ownAttribute entry.1 entry.2
  have hProperties : (Json.object [("Region", .str region),
      ("Exports", .ofDict (parameters.map Intrinsic.ownAttribute))]).placeholders.Perm
        (parameters.values.map own) := by
    refine (placeholders_object_perm (by simp)).trans ?_
    rw [List.flatMap_cons, List.flatMap_singleton, placeholdersIn_eq (by decide),
      placeholdersIn_eq (by decide), placeholders_str, List.nil_append, hValues]
  refine (placeholders_object_perm (by simp)).trans ?_
  rw [List.flatMap_cons, List.flatMap_singleton, placeholdersIn_eq (by decide),
    placeholdersIn_eq (by decide), placeholders_str, List.nil_append]
  exact hProperties

theorem kind?_writerEntry (region : String) (parameters : Dict Reference) :
    kind? (writerEntry region parameters).2 = some "Custom::CrossRegionExportWriter" := by
  simp [kind?, writerEntry, lookup_cons_ite, Json.text?]

/-- A writer writes exactly the attributes that it was made for. -/
theorem writes_writerEntry (region : String) (parameters : Dict Reference) :
    writes (writerEntry region parameters).2 =
      parameters.entries.map fun entry => (region, entry.1, Intrinsic.ownAttribute entry.2) := by
  have hProperties : (writerEntry region parameters).2.member? "Properties" =
      some (Json.object [("Region", .str region),
        ("Exports", .ofDict (parameters.map Intrinsic.ownAttribute))]) := by
    simp [writerEntry]
  rw [writes, if_pos (kind?_writerEntry region parameters), hProperties, Option.getD_some]
  simp [lookup_cons_ite, Dict.map, ofDict]

theorem placeholdersIn_export (name : String) :
    placeholdersIn ("Export", Json.object [("Name", .str name)]) = [] := by
  rw [object_singleton, placeholdersIn_obj, placeholders_obj, List.flatMap_singleton,
    placeholdersIn_eq (by decide), placeholders_str]

theorem placeholdersIn_exportEntry_perm (key : String) (r : Reference) :
    (placeholdersIn (exportEntry key r)).Perm [own r] := by
  refine (placeholders_object_perm (by simp)).trans ?_
  rw [List.flatMap_cons, List.flatMap_singleton, placeholdersIn_export,
    Intrinsic.placeholdersIn_ownAttribute, List.append_nil]

theorem exportName?_exportEntry (key : String) (r : Reference) :
    exportName? (exportEntry key r).2 = some key := by
  simp [exportName?, exportEntry, Json.text?]

theorem value_exportEntry (key : String) (r : Reference) :
    (exportEntry key r).2.member? "Value" = some (Intrinsic.ownAttribute r) := by
  simp [exportEntry, lookup_cons_ite]

/-! ### Outputs and parameters -/

theorem nodup_outputEntry (output : Output) (value : Json) :
    ((("Value", value) :: output.exportName.toList.map fun name =>
      ("Export", Json.object [("Name", .str name)])).map Prod.fst).Nodup := by
  cases output.exportName <;> simp

theorem placeholdersIn_outputEntry_perm (consumer : String) (output : Output) :
    (placeholdersIn (outputEntry consumer output)).Perm
      (output.value.references.map (ofReference consumer)) := by
  refine (placeholders_object_perm (nodup_outputEntry output _)).trans ?_
  rw [List.flatMap_cons, placeholdersIn_eq (by decide), Intrinsic.placeholders_value]
  cases output.exportName with
  | none => simp
  | some name => simp [placeholdersIn_export]

theorem exportName?_outputEntry (consumer : String) (output : Output) :
    exportName? (outputEntry consumer output).2 = output.exportName := by
  rw [exportName?, outputEntry, member?_object, lookup_reverse (nodup_outputEntry output _)]
  cases output.exportName <;> simp [lookup_cons_ite, Json.text?]

theorem placeholdersIn_parameterEntry (r : Reference) :
    placeholdersIn (parameterEntry r) = [] := by
  refine List.Perm.eq_nil ((placeholders_object_perm (by simp)).trans ?_)
  rw [List.flatMap_cons, List.flatMap_singleton, placeholdersIn_eq (by decide),
    placeholdersIn_eq (by decide), placeholders_str, placeholders_str, List.append_nil]

theorem defaultPath?_parameterEntry (r : Reference) :
    defaultPath? (parameterEntry r).2 = some (Intrinsic.parameterPath r) := by
  simp [defaultPath?, parameterEntry, Json.text?]

end Blueprint.Template
