import Blueprint.Bounds
import Blueprint.Json

/-!
JSON values of one type. Each reader accepts the values of its type and no others: a number is never
taken for a text, and an integer must lie within its limits.
-/

namespace Blueprint

def Json.text? : Json → Option String
  | .str s => some s
  | _ => none

/-- A truth value. -/
def Json.bool? : Json → Option Bool
  | .bool b => some b
  | _ => none

/-- An integer between two limits. -/
def Json.intWithin? (low high : Int) : Json → Option Int
  | .int n => if low ≤ n ∧ n ≤ high then some n else none
  | _ => none

/-- An integer of sixty-four bits. -/
def Json.int64? : Json → Option Int :=
  Json.intWithin? Bounds.leastInt64 Bounds.greatestInt64

/-- A natural number up to a limit. -/
def Json.natUpTo? (limit : Nat) (json : Json) : Option Nat :=
  (json.intWithin? 0 limit).map Int.toNat

/-- The items of an array, each read in the same way. -/
def Json.list? {α : Type} (item? : Json → Option α) : Json → Option (List α)
  | .arr items => items.mapM item?
  | _ => none

end Blueprint
