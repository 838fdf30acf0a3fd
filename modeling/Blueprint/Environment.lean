/-!
The environment of a run: variables with their values.
-/

namespace Blueprint

/-- Variables with their values. Of entries with one name the first one counts. -/
structure Environment where
  entries : List (String × String)

namespace Environment

/-- The value of a variable. -/
def get? (env : Environment) (name : String) : Option String := env.entries.lookup name

/-- The environment with a value for a variable that has none so far. -/
def provide (env : Environment) (name value : String) : Environment :=
  if (env.get? name).isSome then env else ⟨env.entries ++ [(name, value)]⟩

/-- A variable from the text of its name and its value with an equals sign between them. The name is
not empty, so an equals sign in the first place belongs to it. -/
def entry? : List Char → Option (String × String)
  | [] => none
  | c :: cs =>
    let name := cs.takeWhile (· ≠ '=')
    match cs.drop name.length with
    | '=' :: value => some (String.ofList (c :: name), String.ofList value)
    | _ => none

/-- The entries of a block, each of which ends with a byte 0. The bytes of an entry that has begun
come first, the latest of them in front. -/
def blockEntries (current : List UInt8) : List UInt8 → List (List UInt8)
  | [] => if current = [] then [] else [current.reverse]
  | b :: rest =>
    if b = 0 then current.reverse :: blockEntries [] rest else blockEntries (b :: current) rest

/-- The environment from a block. Entries that are not text are left out. -/
def ofBlock (bytes : ByteArray) : Environment :=
  ⟨(blockEntries [] bytes.data.toList).filterMap fun entry =>
    (String.fromUTF8? ⟨entry.toArray⟩).bind fun s => entry? s.toList⟩

theorem get?_provide_of_get? {env : Environment} {name other value found : String}
    (h : env.get? name = some found) : (env.provide other value).get? name = some found := by
  unfold provide
  split
  · exact h
  · simp only [get?] at h ⊢
    rw [List.lookup_append, h]
    rfl

end Environment

end Blueprint
