import Blueprint.Text.Ascii
import Blueprint.Text.Blank
import Blueprint.Text.Decimal
import Blueprint.Text.Split
import Blueprint.Trace

/-!
Which events are shown. A filter is a list of directives, written with commas between them. A plain
directive gives a level to all origins whose names start with its target; of the directives that
concern an origin the most specific one counts. A directive with a span in brackets shows everything
up to its level that happens within such a span.
-/

namespace Blueprint.Trace

/-- A field that a directive asks for, with its value if that matters. -/
structure FieldPattern where
  name : String
  value : Option String
  deriving DecidableEq

/-- One rule of a filter. -/
structure Directive where
  /-- The beginning of the names of the origins it concerns, none for all of them. -/
  target : Option String
  /-- The name of the spans it concerns. -/
  span : Option String
  fields : List FieldPattern
  /-- The rank of the least weighty level that it shows, 0 for none. -/
  rank : Nat
  deriving DecidableEq

namespace Directive

/-- The rank that a level has in a directive, where levels are written by name in letters of any
case or by number. -/
def rank? (cs : List Char) : Option Nat :=
  match Text.lower (String.ofList cs) with
  | "off" => some 0
  | "error" => some 1
  | "warn" => some 2
  | "info" => some 3
  | "debug" => some 4
  | "trace" => some 5
  | _ => Text.decimalChars? 5 cs

/-- A field pattern: a name, or a name and a value with an equals sign between them. -/
def fieldPattern? (cs : List Char) : Option FieldPattern :=
  match cs, Text.cutChars '=' cs with
  | [], _ => none
  | _, some (name, value) => some ⟨String.ofList name, some (String.ofList value)⟩
  | _, none => some ⟨String.ofList cs, none⟩

/-- The level that follows a target; every level when none is written. -/
def levelAfter? (cs : List Char) : Option Nat := if cs = [] then some 5 else rank? cs

/-- What follows a span in brackets: nothing, or an equals sign and a level. -/
def afterSpan? (d : Directive) : List Char → Option Directive
  | [] => some d
  | '=' :: level => (levelAfter? level).map fun rank => { d with rank }
  | _ => none

/-- The field patterns between braces and what follows them. -/
def fields? (d : Directive) (cs : List Char) : Option Directive := do
  let (inner, rest) ← Text.cutChars '\x7d' cs
  let fields ← (Text.splitChars ',' inner).mapM fieldPattern?
  match rest with
  | ']' :: rest => afterSpan? { d with fields } rest
  | _ => none

/-- A span, after its opening bracket. -/
def span? (d : Directive) (cs : List Char) : Option Directive :=
  let name := cs.takeWhile fun c => c ≠ ']' && c ≠ '\x7b'
  match cs.drop name.length with
  | ']' :: rest => afterSpan? { d with span := some (String.ofList name) } rest
  | '\x7b' :: rest =>
    fields? { d with span := if name = [] then none else some (String.ofList name) } rest
  | _ => none

/-- Whether a directive may begin with a character. -/
def isStart (c : Char) : Bool :=
  Text.isAlnum c || c = '-' || c = ':' || c = '_' || 0x80 ≤ c.toNat

/-- The directive that a text without blanks at its ends writes. -/
def parseTrimmed? (cs : List Char) : Option Directive :=
  match cs with
  | [] => none
  | '[' :: rest => span? ⟨none, none, [], 5⟩ rest
  | c :: _ =>
    if !isStart c then none
    else
      let head := cs.takeWhile fun c => c ≠ '=' && c ≠ '['
      match cs.drop head.length with
      | '=' :: level =>
        (levelAfter? level).map fun rank => ⟨some (String.ofList head), none, [], rank⟩
      | '[' :: rest => span? ⟨some (String.ofList head), none, [], 5⟩ rest
      | _ =>
        match rank? cs with
        | some rank => some ⟨none, none, [], rank⟩
        | none => some ⟨some (String.ofList cs), none, [], 5⟩

/-- The directive that a text writes. Blanks are not taken off: a name with blanks at its ends is
the target of nothing, and an assignment with them cannot be read. -/
def parse? (cs : List Char) : Option Directive :=
  let trimmed := Text.trimChars cs
  if trimmed = cs then parseTrimmed? cs
  else
    match trimmed with
    | [] => none
    | c :: rest =>
      if (c = '[' || isStart c) && !rest.contains '=' then
        some ⟨some (String.ofList cs), none, [], 5⟩
      else none

def isScoped (d : Directive) : Bool := d.span.isSome || d.fields ≠ []

/-- Whether a directive counts outside of spans, too. -/
def isPlain (d : Directive) : Bool :=
  d.span.isNone && d.fields.all fun pattern => pattern.value.isNone

def concerns (d : Directive) (origin : Origin) : Bool :=
  match d.target with
  | none => true
  | some start => Text.startsWith start origin.target

def opensAt (d : Directive) (span : Span) : Bool :=
  d.isScoped && d.concerns span.origin && (d.span.all fun name => name = span.name) &&
    d.fields.all fun pattern => span.fields.any fun (name, _) => name = pattern.name

/-- Whether a span has the values that a directive asks for. -/
def holdsAt (d : Directive) (span : Span) : Bool :=
  d.fields.all fun pattern =>
    match pattern.value with
    | none => true
    | some value => span.fields.any fun (name, v) => name = pattern.name && v.text = value

/-- How specific a plain directive is: the longer target counts, then the larger number of
fields. -/
def weight (d : Directive) : Nat × Nat :=
  (match d.target with
    | none => 0
    | some start => Text.byteCount start + 1, d.fields.length)

end Directive

/-- Directives, in the order in which they were written. -/
structure Filter where
  directives : List Directive
  deriving DecidableEq

namespace Filter

/-- The filter that a text writes, none when one of its directives cannot be read. A text without
directives shows errors only. -/
def parse? (s : String) : Option Filter := do
  let parts := (Text.splitChars ',' s.toList).filter (· ≠ [])
  let directives ← parts.mapM fun part => Directive.parse? part
  return ⟨if directives = [] then [⟨none, none, [], 1⟩] else directives⟩

/-- The filter that shows a rank of events of every part of the program. -/
def ofRank (rank : Nat) : Filter :=
  ⟨["tierstack", "tierstack_core", "tierstack_adapters"].map fun target =>
    ⟨some target, none, [], rank⟩⟩

/-- The filter for a number of requests to say more, or for the request to be quiet. -/
def ofVerbosity (verbose : Nat) (quiet : Bool) : Filter :=
  ofRank (if quiet then 1 else min (verbose + 2) 5)

/-- The largest rank that anything is shown at. -/
def maxRank (filter : Filter) : Nat :=
  if filter.directives.any fun d => d.fields.any fun pattern => pattern.value.isSome then 5
  else (filter.directives.map Directive.rank).foldl max 0

/-- The most specific plain directive for an origin; of equally specific ones the last counts. -/
def plainDirective? (filter : Filter) (origin : Origin) (fields : List String) :
    Option Directive :=
  (filter.directives.filter fun d =>
    d.isPlain && d.concerns origin && d.fields.all fun pattern => pattern.name ∈ fields).foldl
    (fun best d =>
      match best with
      | none => some d
      | some b =>
        if d.weight.1 < b.weight.1 || (d.weight.1 = b.weight.1 && d.weight.2 < b.weight.2) then
          some b
        else some d)
    none

/-- Whether an origin is shown at a rank, wherever it happens. -/
def showsPlainly (filter : Filter) (origin : Origin) (fields : List String) (rank : Nat) : Bool :=
  match filter.plainDirective? origin fields with
  | some d => rank ≤ d.rank
  | none => false

/-- The rank that a span opens for what happens within it, none when no directive asks for it. -/
def opened? (filter : Filter) (span : Span) : Option Nat :=
  let asking := filter.directives.filter fun d => d.opensAt span
  if asking = [] then none
  else some (((asking.filter fun d => d.holdsAt span).map Directive.rank).foldl max 0)

/-- The spans that are shown, and the largest rank that one of them opens. -/
def visibleSpans (filter : Filter) (reach : Nat) : List Span → List Span × Nat
  | [] => ([], reach)
  | span :: rest =>
    let opened := if Level.info.rank ≤ filter.maxRank then filter.opened? span else none
    let shown :=
      Level.info.rank ≤ filter.maxRank &&
        (opened.isSome || Level.info.rank ≤ reach ||
          filter.showsPlainly span.origin [] Level.info.rank)
    let (spans, rank) := visibleSpans filter (max reach (opened.getD 0)) rest
    (if shown then span :: spans else spans, rank)

/-- The event as the filter shows it, none when it is hidden. Spans that are hidden are left out. -/
def shown? (filter : Filter) (event : Event) : Option Event :=
  let (spans, reach) := filter.visibleSpans 0 event.spans
  let fields := "message" :: event.fields.map Prod.fst
  if event.level.rank ≤ reach || filter.showsPlainly event.origin fields event.level.rank then
    some { event with spans }
  else none

end Filter

end Blueprint.Trace
