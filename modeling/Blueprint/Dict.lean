/-!
Finite maps from texts to values. A map keeps its entries in ascending order of their keys, each
key once, so two maps with the same entries are equal and listing one needs no further sorting.
Keys are compared code point by code point, which is also the order of their UTF-8 bytes.
-/

namespace Blueprint

/-- Put an entry into an ordered list, in the place of an entry with the same key if there is
one. -/
def insertEntry {α : Type} (key : String) (value : α) : List (String × α) → List (String × α)
  | [] => [(key, value)]
  | entry :: rest =>
    if key < entry.1 then (key, value) :: entry :: rest
    else if key = entry.1 then (key, value) :: rest
    else entry :: insertEntry key value rest

/-- Strict ascent of the keys along a list of entries. -/
def Ascending {α : Type} (entries : List (String × α)) : Prop :=
  entries.Pairwise fun a b => a.1 < b.1

theorem mem_insertEntry {α : Type} {key : String} {value : α} {entry : String × α}
    {entries : List (String × α)} (h : entry ∈ insertEntry key value entries) :
    entry = (key, value) ∨ entry ∈ entries := by
  induction entries with
  | nil => simpa [insertEntry] using h
  | cons first rest ih => grind [insertEntry]

theorem Ascending.insertEntry {α : Type} {entries : List (String × α)} (key : String) (value : α)
    (h : Ascending entries) : Ascending (insertEntry key value entries) := by
  induction entries with
  | nil => simp [Blueprint.insertEntry, Ascending]
  | cons first rest ih =>
    obtain ⟨below, tail⟩ := List.pairwise_cons.1 h
    unfold Blueprint.insertEntry
    split
    next smaller =>
      exact List.pairwise_cons.2 ⟨fun entry mem => (List.mem_cons.1 mem).elim
        (fun e => e ▸ smaller) (fun m => String.lt_trans smaller (below entry m)), h⟩
    next notSmaller =>
      split
      next same => exact List.pairwise_cons.2 ⟨fun entry mem => same ▸ below entry mem, tail⟩
      next other =>
        refine List.pairwise_cons.2 ⟨fun entry mem => ?_, ih tail⟩
        rcases mem_insertEntry mem with rfl | m
        · exact Decidable.byContradiction fun notBelow =>
            other (String.le_antisymm (String.not_lt.1 notBelow) (String.not_lt.1 notSmaller))
        · exact below entry m

/-- A finite map from texts to values of one type. -/
structure Dict (α : Type) where
  /-- The entries, in ascending order of their keys. -/
  entries : List (String × α)
  ascending : Ascending entries

namespace Dict

variable {α β : Type}

instance [DecidableEq α] : DecidableEq (Dict α) := fun a b =>
  if h : a.entries = b.entries then
    .isTrue (by cases a; cases b; simpa using h)
  else .isFalse fun e => h (e ▸ rfl)

/-- The map without entries. -/
def empty : Dict α := ⟨[], List.Pairwise.nil⟩

instance : Inhabited (Dict α) := ⟨empty⟩

/-- The map with one more entry; an entry with the same key is replaced. -/
def insert (d : Dict α) (key : String) (value : α) : Dict α :=
  ⟨insertEntry key value d.entries, d.ascending.insertEntry key value⟩

/-- The map of the listed entries. Of entries with one key, the last one stays. -/
def ofList (entries : List (String × α)) : Dict α :=
  entries.foldl (fun d entry => d.insert entry.1 entry.2) empty

/-- The value under a key. -/
def get? (d : Dict α) (key : String) : Option α := d.entries.lookup key

/-- Whether the map has an entry under a key. -/
def contains (d : Dict α) (key : String) : Bool := (d.get? key).isSome

/-- Whether the map has no entry. -/
def isEmpty (d : Dict α) : Bool := d.entries.isEmpty

/-- The keys, in ascending order. -/
def keys (d : Dict α) : List String := d.entries.map Prod.fst

/-- The values, in the order of their keys. -/
def values (d : Dict α) : List α := d.entries.map Prod.snd

/-- The map with every value changed by a function. -/
def map (f : α → β) (d : Dict α) : Dict β :=
  ⟨d.entries.map fun entry => (entry.1, f entry.2), by
    simpa [Ascending, List.pairwise_map] using d.ascending⟩

/-- The map with the value under a key changed; without such a value, the change of nothing. -/
def alter (d : Dict α) (key : String) (f : Option α → α) : Dict α := d.insert key (f (d.get? key))

theorem ext {a b : Dict α} (h : a.entries = b.entries) : a = b := by
  cases a; cases b; simpa using h

end Dict

end Blueprint
