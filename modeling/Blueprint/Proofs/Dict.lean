import Blueprint.Dict
import Mathlib.Data.List.Dedup
import Mathlib.Data.List.Nodup
import Mathlib.Data.List.Perm.Basic

/-! Look-up in finite maps. The map of a list without repeated keys holds exactly the entries of
the list. -/

namespace Blueprint

variable {α β : Type}

theorem lookup_cons_ite (key : String) (first : String × α) (rest : List (String × α)) :
    (first :: rest).lookup key = if key = first.1 then some first.2 else rest.lookup key := by
  obtain ⟨firstKey, value⟩ := first
  by_cases hKey : key = firstKey
  · simp [hKey]
  · rw [List.lookup_cons, if_neg hKey, beq_eq_false_iff_ne.mpr hKey]

theorem lookup_insertEntry (key other : String) (value : α) (entries : List (String × α)) :
    (insertEntry key value entries).lookup other =
      if other = key then some value else entries.lookup other := by
  induction entries with
  | nil => rw [insertEntry, lookup_cons_ite]
  | cons first rest ih =>
      unfold insertEntry
      split
      next hLess => rw [lookup_cons_ite]
      next =>
        split
        next hSame =>
          rw [lookup_cons_ite, lookup_cons_ite]
          by_cases hKey : other = key
          · simp [hKey]
          · rw [if_neg hKey, if_neg hKey, if_neg (hSame ▸ hKey)]
        next hSame =>
          rw [lookup_cons_ite, lookup_cons_ite, ih]
          by_cases hKey : other = first.1
          · rw [if_pos hKey, if_pos hKey, if_neg (hKey ▸ Ne.symm hSame)]
          · rw [if_neg hKey, if_neg hKey]

/-- Insertion under a new key only adds the entry. -/
theorem insertEntry_perm {key : String} (value : α) {entries : List (String × α)}
    (hNew : key ∉ entries.map Prod.fst) :
    (insertEntry key value entries).Perm ((key, value) :: entries) := by
  induction entries with
  | nil => exact List.Perm.refl _
  | cons first rest ih =>
      simp only [List.map_cons, List.mem_cons, not_or] at hNew
      unfold insertEntry
      split_ifs with hLess hSame
      · exact List.Perm.refl _
      · exact absurd hSame hNew.1
      · exact ((ih hNew.2).cons first).trans (List.Perm.swap _ _ _)

theorem insertEntry_map (f : α → β) (key : String) (value : α) (entries : List (String × α)) :
    insertEntry key (f value) (entries.map fun entry => (entry.1, f entry.2)) =
      (insertEntry key value entries).map fun entry => (entry.1, f entry.2) := by
  induction entries with
  | nil => rfl
  | cons first rest ih =>
      rw [List.map_cons, insertEntry, insertEntry]
      split_ifs
      · rfl
      · rfl
      · rw [ih, List.map_cons]

theorem Ascending.nodup_keys {entries : List (String × α)} (h : Ascending entries) :
    (entries.map Prod.fst).Nodup := by
  rw [List.nodup_iff_pairwise_ne, List.pairwise_map]
  refine h.imp fun {a b} hLess hSame => ?_
  rw [hSame] at hLess
  exact String.lt_irrefl _ hLess

/-- Without repeated keys, an entry of a list is what a look-up of its key finds. -/
theorem lookup_eq_some_iff_mem {entries : List (String × α)}
    (hNodup : (entries.map Prod.fst).Nodup) {key : String} {value : α} :
    entries.lookup key = some value ↔ (key, value) ∈ entries := by
  induction entries with
  | nil => simp
  | cons first rest ih =>
      obtain ⟨hFirst, hRest⟩ := List.nodup_cons.mp hNodup
      rw [lookup_cons_ite]
      by_cases hKey : key = first.1
      · subst hKey
        have hAbsent : (first.1, value) ∉ rest := fun hMem =>
          hFirst (List.mem_map.mpr ⟨_, hMem, rfl⟩)
        simp [hAbsent, Prod.ext_iff, eq_comm]
      · simp [ih hRest, Prod.ext_iff, hKey]

theorem lookup_eq_none_iff_not_mem {entries : List (String × α)} {key : String} :
    entries.lookup key = none ↔ key ∉ entries.map Prod.fst := by
  induction entries with
  | nil => simp
  | cons first rest ih =>
      rw [lookup_cons_ite]
      by_cases hKey : key = first.1
      · simp [hKey]
      · simp [ih, hKey]

namespace Dict

theorem get?_empty (key : String) : (empty : Dict α).get? key = none := rfl

theorem get?_insert (d : Dict α) (key other : String) (value : α) :
    (d.insert key value).get? other = if other = key then some value else d.get? other :=
  lookup_insertEntry key other value d.entries

theorem get?_alter (d : Dict α) (key other : String) (f : Option α → α) :
    (d.alter key f).get? other = if other = key then some (f (d.get? key)) else d.get? other :=
  get?_insert d key other _

theorem forall_entries_insert {P : String × α → Prop} {d : Dict α} {key : String} {value : α}
    (hNew : P (key, value)) (h : ∀ entry ∈ d.entries, P entry) :
    ∀ entry ∈ (d.insert key value).entries, P entry := by
  intro entry hMem
  rcases mem_insertEntry hMem with rfl | hOld
  · exact hNew
  · exact h entry hOld

theorem mem_entries_iff_get? {d : Dict α} {key : String} {value : α} :
    (key, value) ∈ d.entries ↔ d.get? key = some value :=
  (lookup_eq_some_iff_mem d.ascending.nodup_keys).symm

theorem nodup_keys (d : Dict α) : (d.entries.map Prod.fst).Nodup := d.ascending.nodup_keys

/-- Of entries with one key, the last one of a list counts. -/
theorem get?_ofList (entries : List (String × α)) (key : String) :
    (ofList entries).get? key = entries.reverse.lookup key := by
  have hFold : ∀ (entries : List (String × α)) (d : Dict α),
      (entries.foldl (fun d entry => d.insert entry.1 entry.2) d).get? key =
        (entries.reverse.lookup key).or (d.get? key) := by
    intro entries
    induction entries with
    | nil => simp
    | cons first rest ih =>
        intro d
        rw [List.foldl_cons, ih, get?_insert, List.reverse_cons, List.lookup_append,
          lookup_cons_ite, Option.or_assoc]
        by_cases hKey : key = first.1 <;> simp [hKey]
  rw [ofList, hFold, get?_empty, Option.or_none]

theorem mem_of_mem_entries_ofList {entries : List (String × α)} {entry : String × α}
    (hMem : entry ∈ (ofList entries).entries) : entry ∈ entries := by
  obtain ⟨key, value⟩ := entry
  rw [mem_entries_iff_get?, get?_ofList, List.lookup_eq_some_iff] at hMem
  obtain ⟨before, after, hReverse, -⟩ := hMem
  rw [← List.mem_reverse, hReverse]
  simp

theorem forall_values_ofList {entries : List (String × α)} {P : α → Prop}
    (h : ∀ entry ∈ entries, P entry.2) : ∀ value ∈ (ofList entries).values, P value := by
  intro value hMem
  obtain ⟨entry, hEntry, rfl⟩ := List.mem_map.mp hMem
  exact h entry (mem_of_mem_entries_ofList hEntry)

theorem mem_keys_ofList {entries : List (String × α)} {key : String} :
    key ∈ (ofList entries).keys ↔ key ∈ entries.map Prod.fst := by
  rw [keys, ← not_iff_not, ← lookup_eq_none_iff_not_mem, ← lookup_eq_none_iff_not_mem,
    ← get?, get?_ofList, lookup_eq_none_iff_not_mem, lookup_eq_none_iff_not_mem, List.map_reverse,
    List.mem_reverse]

/-- The keys of the map of a list are those of the list, each once. -/
theorem keys_ofList_perm (entries : List (String × α)) :
    (ofList entries).keys.Perm (entries.map Prod.fst).dedup := by
  refine (List.perm_ext_iff_of_nodup (nodup_keys _) (List.nodup_dedup _)).mpr fun key => ?_
  rw [List.mem_dedup]
  exact mem_keys_ofList

/-- A list without repeated keys is the list of entries of its map, up to their order. -/
theorem entries_ofList_perm {entries : List (String × α)}
    (hNodup : (entries.map Prod.fst).Nodup) : (ofList entries).entries.Perm entries := by
  have hFold : ∀ (entries : List (String × α)) (d : Dict α),
      ((entries ++ d.entries).map Prod.fst).Nodup →
      (entries.foldl (fun d entry => d.insert entry.1 entry.2) d).entries.Perm
        (entries ++ d.entries) := by
    intro entries
    induction entries with
    | nil => exact fun d _ => List.Perm.refl _
    | cons first rest ih =>
        intro d hNodup
        simp only [List.cons_append, List.map_cons, List.nodup_cons] at hNodup
        have hInsert : (d.insert first.1 first.2).entries.Perm (first :: d.entries) := by
          refine insertEntry_perm first.2 fun hMem => hNodup.1 ?_
          rw [List.map_append]
          exact List.mem_append_right _ hMem
        have hMove : (rest ++ (d.insert first.1 first.2).entries).Perm
            (first :: (rest ++ d.entries)) :=
          (hInsert.append_left rest).trans List.perm_middle
        refine (ih _ ?_).trans hMove
        refine (hMove.map Prod.fst).nodup_iff.mpr ?_
        simpa using hNodup
  have hPerm := hFold entries empty (by simpa [empty] using hNodup)
  rwa [empty, List.append_nil] at hPerm

/-- A map is the map of its entries. -/
theorem ofList_entries (d : Dict α) : ofList d.entries = d := by
  refine ext (List.Perm.eq_of_pairwise (fun a b _ _ hLess hGreater => ?_) (ofList _).ascending
    d.ascending (entries_ofList_perm d.nodup_keys))
  exact absurd hGreater (String.lt_asymm hLess)

/-- Two maps in which every look-up finds the same are equal. -/
theorem ext_get? {a b : Dict α} (h : ∀ key, a.get? key = b.get? key) : a = b := by
  have hPerm : a.entries.Perm b.entries := by
    refine (List.perm_ext_iff_of_nodup a.nodup_keys.of_map b.nodup_keys.of_map).mpr ?_
    rintro ⟨key, value⟩
    rw [mem_entries_iff_get?, mem_entries_iff_get?, h key]
  refine ext (hPerm.eq_of_pairwise (fun x y _ _ hLess hGreater => ?_) a.ascending b.ascending)
  exact absurd hGreater (String.lt_asymm hLess)

theorem get?_map (f : α → β) (d : Dict α) (key : String) :
    (d.map f).get? key = (d.get? key).map f := by
  obtain ⟨entries, hAscending⟩ := d
  change (entries.map fun entry => (entry.1, f entry.2)).lookup key = (entries.lookup key).map f
  clear hAscending
  induction entries with
  | nil => rfl
  | cons first rest ih =>
      rw [List.map_cons, lookup_cons_ite, lookup_cons_ite, ih]
      split <;> rfl

/-- Two maps are the same after a function if what is found in either of them has its like in the
other. -/
theorem map_eq_map {f : α → β} {a b : Dict α}
    (hLeft : ∀ key x, a.get? key = some x → ∃ y, b.get? key = some y ∧ f x = f y)
    (hRight : ∀ key y, b.get? key = some y → ∃ x, a.get? key = some x ∧ f x = f y) :
    a.map f = b.map f := by
  refine ext_get? fun key => ?_
  rw [get?_map, get?_map]
  cases hFind : a.get? key with
  | some x =>
      obtain ⟨y, hFound, hLike⟩ := hLeft key x hFind
      rw [hFound, Option.map_some, Option.map_some, hLike]
  | none =>
      cases hFound : b.get? key with
      | none => rfl
      | some y =>
          obtain ⟨x, hSome, -⟩ := hRight key y hFound
          rw [hFind] at hSome
          cases hSome

/-- Changing the values and then listing is listing and then changing the values. -/
theorem ofList_map (f : α → β) (entries : List (String × α)) :
    ofList (entries.map fun entry => (entry.1, f entry.2)) = (ofList entries).map f := by
  have hFold : ∀ (entries : List (String × α)) (d : Dict α),
      (entries.map fun entry => (entry.1, f entry.2)).foldl
          (fun d entry => d.insert entry.1 entry.2) (d.map f) =
        (entries.foldl (fun d entry => d.insert entry.1 entry.2) d).map f := by
    intro entries
    induction entries with
    | nil => exact fun _ => rfl
    | cons first rest ih =>
        intro d
        have hInsert : (d.map f).insert first.1 (f first.2) = (d.insert first.1 first.2).map f :=
          ext (insertEntry_map f first.1 first.2 d.entries)
        rw [List.map_cons, List.foldl_cons, List.foldl_cons, hInsert, ih]
  exact hFold entries empty

end Dict

end Blueprint
