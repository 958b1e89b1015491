/-!
# The log

While the program works it logs what happens, as events of some level that come from some part of
it. Work that takes several steps is a span, and an event can be logged in the course of one.
Events and spans have named fields.

## Main definitions

* `Level`, `Event`, `Span` — what is logged.
* `LogFormat` — how events are shown.
-/

namespace IndexedMesh.Command

/-- How much an event matters. -/
inductive Level
  | error
  | warn
  | info
deriving DecidableEq

/-- The level as it is shown. -/
def Level.name : Level → String
  | error => "ERROR"
  | warn => "WARN"
  | info => "INFO"

/-- How much detail a filter has to show for an event of the level to be shown. -/
def Level.detail : Level → Nat
  | error => 1
  | warn => 2
  | info => 3

/-- What a field says. -/
inductive FieldValue
  | text (text : String)
  | number (n : Nat)
deriving DecidableEq

/-- A piece of work. -/
structure Span where
  level : Level
  /-- the part of the program that does the work -/
  origin : String
  name : String
  fields : List (String × FieldValue)
deriving DecidableEq

/-- Something that was logged. -/
structure Event where
  level : Level
  /-- the part of the program that the event comes from -/
  origin : String
  message : String
  /-- the names of its fields, of which the message is one -/
  fields : List String := ["message"]
  /-- the work in the course of which it was logged -/
  span : Option Span := none
deriving DecidableEq

/-- How events are shown. -/
inductive LogFormat
  | compact
  | full
  | pretty
  | json
deriving DecidableEq

/-- The formats by name. -/
def LogFormat.parse? : String → Option LogFormat
  | "compact" => some compact
  | "full" => some full
  | "pretty" => some pretty
  | "json" => some json
  | _ => none

end IndexedMesh.Command
