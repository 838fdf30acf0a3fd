import Blueprint.Json
import Blueprint.Proofs.Dict

/-! Members of canonical JSON objects: nothing but the order of the members is lost, and a
look-up finds what was listed last under a key. -/

namespace Blueprint.Json

/-- Members without repeated keys all stand in the canonical object. -/
theorem object_eq_perm {members : List (String × Json)}
    (hNodup : (members.map Prod.fst).Nodup) :
    ∃ entries, object members = .obj entries ∧ entries.Perm members :=
  ⟨_, rfl, Dict.entries_ofList_perm hNodup⟩

theorem object_singleton (key : String) (json : Json) :
    object [(key, json)] = .obj [(key, json)] := rfl

theorem lookup_reverse {α : Type} {entries : List (String × α)}
    (hNodup : (entries.map Prod.fst).Nodup) (key : String) :
    entries.reverse.lookup key = entries.lookup key := by
  have hReverse : (entries.reverse.map Prod.fst).Nodup := by
    rw [List.map_reverse]
    exact List.nodup_reverse.mpr hNodup
  apply Option.ext
  intro value
  rw [lookup_eq_some_iff_mem hReverse, lookup_eq_some_iff_mem hNodup, List.mem_reverse]

@[simp] theorem member?_ofDict (d : Dict Json) (key : String) :
    (ofDict d).member? key = d.get? key :=
  lookup_reverse d.nodup_keys key

@[simp] theorem member?_object (members : List (String × Json)) (key : String) :
    (object members).member? key = members.reverse.lookup key :=
  (member?_ofDict _ key).trans (Dict.get?_ofList members key)

/-- Members without repeated keys can be read off the object again. -/
theorem eq_of_object_eq {α : Type} {entries : List (String × α)} (f g : α → Json)
    (hNodup : (entries.map Prod.fst).Nodup)
    (h : object (entries.map fun entry => (entry.1, f entry.2)) =
      object (entries.map fun entry => (entry.1, g entry.2))) :
    ∀ entry ∈ entries, f entry.2 = g entry.2 := by
  intro entry hMem
  have hRead : ∀ f : α → Json,
      (object (entries.map fun entry => (entry.1, f entry.2))).member? entry.1 =
        some (f entry.2) := by
    intro f
    have hKeys : ((entries.map fun entry => (entry.1, f entry.2)).map Prod.fst).Nodup := by
      rwa [List.map_map]
    rw [member?_object, lookup_reverse hKeys, lookup_eq_some_iff_mem hKeys]
    exact List.mem_map.mpr ⟨entry, hMem, rfl⟩
  exact Option.some_inj.mp ((hRead f).symm.trans ((congrArg (member? · entry.1) h).trans
    (hRead g)))

end Blueprint.Json
