import Blueprint.Json

/-!
Tables of a TOML document while it is being read. A table may be given once: by a header, by dotted
keys, or in one line. Tables on the way to a deeper one come into being by themselves and may still
be given a header of their own. A list of tables grows by one with each of its headers.
-/

namespace Blueprint.Toml

/-- How a table came into being. -/
inductive Origin where
  /-- On the way to a table with a header. -/
  | path
  /-- By a key with dots. -/
  | dotted
  /-- By a header. -/
  | header
  deriving DecidableEq

/-- What stands under a key. -/
inductive Node where
  | value (json : Json)
  | table (origin : Origin) (entries : List (String × Node))
  /-- A list of tables, the latest first. -/
  | tables (latest : List (String × Node)) (earlier : List (List (String × Node)))

abbrev Entries := List (String × Node)

/-- The entries with what stands under a key replaced. The change sees what stood there before and
may refuse. -/
def change (key : String) (f : Option Node → Option Node) : Entries → Option Entries
  | [] => (f none).map fun node => [(key, node)]
  | (other, node) :: rest =>
    if other = key then (f (some node)).map fun node => (key, node) :: rest
    else (change key f rest).map fun rest => (other, node) :: rest

/-- Put a value under a key with dots. -/
def put (json : Json) : List String → Entries → Option Entries
  | [], _ => none
  | [key], entries =>
    change key (fun
      | none => some (.value json)
      | some _ => none) entries
  | key :: path, entries =>
    change key (fun
      | none => (put json path []).map (.table .dotted)
      | some (.table .header _) => none
      | some (.table origin inner) => (put json path inner).map (.table origin)
      | some _ => none) entries

/-- Change the entries of the table at a path, which comes into being where it is missing. Of a
list of tables the latest one is meant. -/
def within (f : Entries → Option Entries) : List String → Entries → Option Entries
  | [], entries => f entries
  | key :: path, entries =>
    change key (fun
      | none => (within f path []).map (.table .path)
      | some (.table origin inner) => (within f path inner).map (.table origin)
      | some (.tables latest earlier) =>
        (within f path latest).map fun latest => .tables latest earlier
      | some (.value _) => none) entries

/-- Give the table under a key its header. -/
def openTable (key : String) : Entries → Option Entries :=
  change key fun
    | none => some (.table .header [])
    | some (.table .path inner) => some (.table .header inner)
    | some _ => none

/-- Give the list of tables under a key one more table. -/
def openTables (key : String) : Entries → Option Entries :=
  change key fun
    | none => some (.tables [] [])
    | some (.tables latest earlier) => some (.tables [] (latest :: earlier))
    | some _ => none

mutual

/-- The JSON form of what stands under a key. -/
def Node.toJson : Node → Json
  | .value json => json
  | .table _ entries => .obj (entriesToJson entries)
  | .tables latest earlier =>
    .arr ((Json.obj (entriesToJson latest) :: tablesToJson earlier).reverse)

def entriesToJson : List (String × Node) → List (String × Json)
  | [] => []
  | (key, node) :: rest => (key, node.toJson) :: entriesToJson rest

def tablesToJson : List (List (String × Node)) → List Json
  | [] => []
  | entries :: rest => .obj (entriesToJson entries) :: tablesToJson rest

end

end Blueprint.Toml
