import IndexedMesh.Command.Log.Directive
import IndexedMesh.Command.Log.Event

/-!
# Filters

A filter is a list of directives with commas between them. It decides which events are shown.

Of the directives that speak of events the one with the longest target decides. Directives that
speak of spans can only add to what it shows: while the program is in a span, the most detailed
directive for that span decides too. A span that is more detailed than all directives is not
noticed at all, unless some directive asks what a field says.

## Main definitions

* `LogFilter.parse?` — filters as texts.
* `LogFilter.shows` — what a filter shows.
-/

namespace IndexedMesh.Command

namespace Directive

/-- Whether two directives are about the same events. -/
def sameScope (a b : Directive) : Bool :=
  a.target = b.target && a.span = b.span && a.field = b.field

/-- Whether the directive asks what a field says. -/
def asksValue (d : Directive) : Bool := d.field.any (·.value.isSome)

/-! ## Directives about spans -/

/-- Whether a field of a span says what is asked for. -/
def saysValue : ValueTest → FieldValue → Bool
  | .pattern _ pattern, .text text => pattern.endsText text
  | .number n, .number m => n = m
  | _, _ => false

/-- Whether a field of a span is the one that is asked for. -/
def hasField (fields : List (String × FieldValue)) (test : FieldTest) : Bool :=
  fields.any fun (name, value) => name = test.name && test.value.all (saysValue · value)

/-- Whether the directive is for a span. -/
def coversSpan (d : Directive) (span : Span) : Bool :=
  (d.span.isSome || d.field.isSome) && d.target.toList.isPrefixOf span.origin.toList &&
    d.span.all (· = span.name) && d.field.all (hasField span.fields)

/-! ## Directives about events -/

/-- Whether the directive is for an event, in whatever span it is logged. -/
def coversEvent (d : Directive) (event : Event) : Bool :=
  d.span.isNone && !d.asksValue && d.target.toList.isPrefixOf event.origin.toList &&
    d.field.all fun test => event.fields.contains test.name

/-- Whether of two directives for the same event the second one decides: the one with the longer
target, then the one with a field, and last the one whose field is later in the alphabet. -/
def yieldsTo (a b : Directive) : Bool :=
  if a.target.length ≠ b.target.length then a.target.length < b.target.length
  else
    match a.field, b.field with
    | none, _ => true
    | some _, none => false
    | some a, some b => a.name ≤ b.name

end Directive

/-- Which events are shown. -/
structure LogFilter where
  directives : List Directive

namespace LogFilter

/-- The filter of a text. What is not of the form of a directive is passed over, and without any
directive only errors are shown. There is no filter if a directive cannot be cut into its parts. -/
def parse? (text : String) : Option LogFilter :=
  let parts := ((text.splitOn ",").filter (· ≠ "")).map Directive.parse
  if parts.any fun | .error .uncut => true | _ => false then none
  else
    match parts.filterMap Except.toOption with
    | [] => some ⟨[{ detail := Level.error.detail }]⟩
    | directives => some ⟨directives⟩

/-- The directives in force: of several about the same events only the last one. -/
def inForce (filter : LogFilter) : List Directive :=
  filter.directives.foldl (fun kept d => kept.filter (!d.sameScope ·) ++ [d]) []

/-- The most detail that a directive of some list shows. -/
def mostDetail (directives : List Directive) : Nat :=
  (directives.map (·.detail)).foldl max 0

/-- The detail that is shown of an event, in whatever span it is logged. -/
def eventDetail (filter : LogFilter) (event : Event) : Nat :=
  match filter.inForce.filter (·.coversEvent event) with
  | [] => 0
  | first :: others => (others.foldl (fun a b => if a.yieldsTo b then b else a) first).detail

/-- Whether a span is noticed. -/
def notices (filter : LogFilter) (span : Span) : Bool :=
  span.level.detail ≤ mostDetail filter.directives || filter.directives.any (·.asksValue)

/-- The detail that is shown of all events in a span. -/
def spanDetail (filter : LogFilter) (span : Span) : Nat :=
  if filter.notices span then mostDetail (filter.inForce.filter (·.coversSpan span)) else 0

/-- Whether an event is shown. -/
def shows (filter : LogFilter) (event : Event) : Bool :=
  event.level.detail ≤ filter.eventDetail event ||
    event.span.any fun span => event.level.detail ≤ filter.spanDetail span

end LogFilter

end IndexedMesh.Command
