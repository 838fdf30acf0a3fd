import Blueprint.Json
import Blueprint.Text.Hidden
import Blueprint.Text.Quoted

/-!
The account that a run gives of itself: events, each within the spans that were open when it
happened. An event can be written as a line of text or as a JSON object. Both forms start from the
outermost span; the JSON form names the innermost one a second time, on its own.
-/

namespace Blueprint.Trace

/-- How much an event matters, the weightiest level first. -/
inductive Level where
  | error
  | warn
  | info
  | debug
  | trace
  deriving DecidableEq

/-- The place of a level, from 1 for the weightiest. -/
def Level.rank : Level → Nat
  | error => 1
  | warn => 2
  | info => 3
  | debug => 4
  | trace => 5

def Level.name : Level → String
  | error => "ERROR"
  | warn => "WARN"
  | info => "INFO"
  | debug => "DEBUG"
  | trace => "TRACE"

/-- The part of the program that opens a span or reports an event. -/
inductive Origin where
  /-- The command line as a whole. -/
  | main
  /-- The report of an error. -/
  | report
  | initCommand
  | validateCommand
  | synthCommand
  /-- Loading settings and writing artifacts. -/
  | synthesis
  /-- Putting the topologies together. -/
  | assembly
  | renderer
  /-- Reading a settings document. -/
  | source
  deriving DecidableEq

/-- The name under which the events of a part are known and can be selected. -/
def Origin.target : Origin → String
  | main => "tierstack"
  | report => "tierstack::error"
  | initCommand => "tierstack::commands::init"
  | validateCommand => "tierstack::commands::validate"
  | synthCommand => "tierstack::commands::synth"
  | synthesis => "tierstack_core::application::services::synth_service"
  | assembly => "tierstack_core::application::services::assembler"
  | renderer => "tierstack_adapters::renderer::json"
  | source => "tierstack_adapters::source::file"

inductive FieldValue where
  /-- A text that the line form puts into quotation marks. -/
  | quoted (s : String)
  /-- A text that stands for itself. -/
  | bare (s : String)
  | nat (n : Nat)
  | bool (b : Bool)
  deriving DecidableEq

/-- The value of a field in the line form. -/
def FieldValue.text : FieldValue → String
  | quoted s => Text.quoted s
  | bare s => s
  | nat n => toString n
  | bool b => if b then "true" else "false"

def FieldValue.toJson : FieldValue → Json
  | quoted s | bare s => .str s
  | nat n => .nat n
  | bool b => .bool b

/-- A named value. -/
abbrev Field := String × FieldValue

/-- A field in the line form. -/
def fieldText (field : Field) : String := field.1 ++ "=" ++ field.2.text

/-- Fields in the line form. -/
def fieldsText (fields : List Field) : String := String.intercalate " " (fields.map fieldText)

def fieldMembers (fields : List Field) : List (String × Json) :=
  fields.map fun (name, value) => (name, value.toJson)

/-- A stretch of a run, with what is known at its beginning. -/
structure Span where
  name : String
  origin : Origin
  fields : List Field

/-- A span in the line form. -/
def Span.text (span : Span) : String :=
  if span.fields = [] then span.name
  else span.name ++ "\x7b" ++ fieldsText span.fields ++ "\x7d"

def Span.toJson (span : Span) : Json :=
  Json.object (("name", .str span.name) :: fieldMembers span.fields)

/-- Something that happened in a run. -/
structure Event where
  level : Level
  origin : Origin
  message : String
  fields : List Field
  /-- The spans that were open, the outermost first. -/
  spans : List Span

/-- The event as it is seen from within one more span around all the others. -/
def Event.within (span : Span) (event : Event) : Event :=
  { event with spans := span :: event.spans }

/-- A character of a message in the line form. Characters that steer a terminal are given by their
number. -/
def messageChar (c : Char) : List Char :=
  if c.toNat ∈ [0x1B, 0x07, 0x08, 0x0C, 0x7F] then
    ['\\', 'x', Text.hexDigit (c.toNat / 16), Text.hexDigit (c.toNat % 16)]
  else if 0x80 ≤ c.toNat ∧ c.toNat ≤ 0x9F then Text.numbered c
  else [c]

/-- The message of an event in the line form. -/
def Event.messageText (event : Event) : String :=
  String.ofList (event.message.toList.flatMap messageChar)

/-- The line form of an event. -/
def Event.text (event : Event) : String :=
  event.level.name ++ " " ++ String.join (event.spans.map fun span => span.text ++ ":") ++
    (if event.spans.isEmpty then "" else " ") ++
    String.intercalate " " (event.messageText :: event.fields.map fieldText)

def Event.toJson (event : Event) : Json :=
  Json.object
    ([("level", .str event.level.name),
        ("fields", Json.object (("message", .str event.message) :: fieldMembers event.fields)),
        ("target", .str event.origin.target)] ++
      match event.spans.getLast? with
      | none => []
      | some innermost =>
        [("span", innermost.toJson), ("spans", .arr (event.spans.map Span.toJson))])

end Blueprint.Trace
