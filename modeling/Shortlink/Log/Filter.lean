import Shortlink.Log.Directive
import Shortlink.Log.Event

/-!
# Filters

A filter is made of two tables of directives, each in order from the most specific
one on.  A plain directive decides about events by their target and fields, and the
first one that applies is the one that counts.  A spanned directive decides about all
events of a request, and the widest one that applies is the one that counts.
-/

namespace Shortlink.Log

/-- A directive that decides about events by themselves. -/
structure PlainDirective where
  /-- What the target of an event starts with. -/
  target? : Option String
  /-- The name of a field that an event has. -/
  field? : Option String
  /-- What is let through. -/
  threshold : Threshold
  deriving DecidableEq, Repr

/-- What a filter is told by an event or a span. -/
structure Subject where
  level : Level
  target : String
  /-- The names of the fields, or `none` where fields do not count. -/
  fields? : Option (List String)
  deriving DecidableEq, Repr

/-- An event as the subject of a filter. -/
def Event.subject (event : Event) : Subject :=
  { level := event.level
    target := event.target
    fields? := some event.fieldNames }

/-- A request as the subject of a filter. -/
def Span.subject : Subject :=
  { level := Span.level, target := Span.target, fields? := none }

/-- Whether a text starts with another one. -/
def isStartOf (start text : String) : Bool :=
  start.toList.isPrefixOf text.toList

namespace PlainDirective

/-- Whether a directive applies. -/
def appliesTo (directive : PlainDirective) (subject : Subject) : Bool :=
  directive.target?.all (isStartOf · subject.target) &&
    directive.field?.all fun name => subject.fields?.all (·.contains name)

/-- A directive as it is written. -/
def written (directive : PlainDirective) : String :=
  let scope := Directive.writtenScope none directive.field?
  Directive.writtenFor (directive.target?.getD "" ++ scope)
    (directive.target?.isSome || scope != "") directive.threshold

/-- Whether one directive is more specific than another: one with a longer target,
or else one with a field; ties are broken by the texts. -/
def order (first second : PlainDirective) : Ordering :=
  (compare (first.target?.map String.utf8ByteSize) (second.target?.map String.utf8ByteSize)).then
    <| (compare first.field?.isSome second.field?.isSome).then
    <| (compare first.target? second.target?).then
    <| compare first.field? second.field?

end PlainDirective

namespace FieldPattern

/-- The place of a floating-point number, given by its bits, in the order of these
numbers.  The two zeros share one place. -/
def floatPlace (bits : UInt64) : Int :=
  let magnitude : Nat := (bits &&& 0x7FFFFFFFFFFFFFFF).toNat
  if Decimal.hasMinus bits then -magnitude else magnitude

/-- The order of patterns. -/
def orderValues (first second : ValuePattern) : Ordering :=
  (compare first.rank second.rank).then <| match first, second with
    | .truth first, .truth second => compare first second
    | .float first, .float second => compare (floatPlace first) (floatPlace second)
    | .natural first, .natural second => compare first second
    | .integer first, .integer second => compare first second
    | first, second => compare first.written second.written

/-- The order of fields: those with a value come after those without. -/
def order (first second : FieldPattern) : Ordering :=
  (compare first.value?.isSome second.value?.isSome).then
    <| (compare first.name second.name).then
    <| match first.value?, second.value? with
      | some first, some second => orderValues first second
      | _, _ => .eq

end FieldPattern

namespace Directive

/-- Whether a directive is about requests. -/
def isSpanned (directive : Directive) : Bool :=
  directive.span?.isSome || directive.field?.isSome

/-- The plain directive that goes with a directive, unless it names a span or the
value of a field. -/
def plain? (directive : Directive) : Option PlainDirective :=
  if directive.span?.isNone && directive.field?.all fun field => field.value?.isNone then
    some
      { target? := directive.target?
        field? := directive.field?.map FieldPattern.name
        threshold := directive.threshold }
  else none

/-- Whether one directive is more specific than another: one with a longer target,
or else one with a span, or else one with a field; ties are broken by the texts. -/
def order (first second : Directive) : Ordering :=
  (compare (first.target?.map String.utf8ByteSize) (second.target?.map String.utf8ByteSize)).then
    <| (compare first.span?.isSome second.span?.isSome).then
    <| (compare first.field?.isSome second.field?.isSome).then
    <| (compare first.target? second.target?).then
    <| (compare first.span? second.span?).then
    <| match first.field?, second.field? with
      | some first, some second => FieldPattern.order first second
      | _, _ => .eq

/-- Whether a directive is about requests at all. -/
def concernsRequests (directive : Directive) : Bool :=
  directive.target?.all (isStartOf · Span.target) &&
    directive.span?.all (· = Span.name) &&
    directive.field?.all fun field => Span.fieldNames.contains field.name

/-- Whether a directive is about a request, given that it is about requests. -/
def holdsOf (directive : Directive) (span : Span) : Bool :=
  directive.field?.all fun field => field.value?.all fun pattern =>
    span.fields.any fun (name, value) => name = field.name && pattern.accepts value

end Directive

/-- Files a directive in a table from the most specific one on, in place of one
that is equally specific. -/
def fileDirective {α : Type} (order : α → α → Ordering) (directive : α) : List α → List α
  | [] => [directive]
  | first :: rest =>
      match order directive first with
      | .gt => directive :: first :: rest
      | .eq => directive :: rest
      | .lt => first :: fileDirective order directive rest

/-- A table of directives, the later ones in place of earlier ones that are equally
specific. -/
def tabulate {α : Type} (order : α → α → Ordering) (directives : List α) : List α :=
  directives.foldl (fun table directive => fileDirective order directive table) []

/-- The widest of thresholds. -/
def widestOf (thresholds : List Threshold) : Threshold :=
  thresholds.foldl Threshold.widest .off

structure Filter where
  plain : List PlainDirective
  spanned : List Directive
  /-- The widest threshold of a plain directive. -/
  plainMaximum : Threshold
  /-- The widest threshold of a spanned directive. -/
  spannedMaximum : Threshold
  deriving DecidableEq, Repr

namespace Filter

/-- The filter that directives make up. -/
def ofDirectives (directives : List Directive) : Filter :=
  let spanned := directives.filter Directive.isSpanned
  let plain := (directives.filter (!·.isSpanned) ++ spanned).filterMap Directive.plain?
  { plain := tabulate PlainDirective.order plain
    spanned := tabulate Directive.order spanned
    plainMaximum := widestOf (plain.map PlainDirective.threshold)
    spannedMaximum := widestOf (spanned.map Directive.threshold) }

def parse (text : String) : Except DirectiveFailure Filter :=
  (readDirectives text).map ofDirectives

/-- A filter as it is written. -/
def written (filter : Filter) : String :=
  ",".intercalate (filter.plain.map PlainDirective.written ++
    filter.spanned.map Directive.written)

/-- The level beyond which nothing can be let through. -/
def maximum (filter : Filter) : Threshold :=
  if filter.spanned.any fun directive =>
      directive.field?.any fun field => field.value?.isSome then .upTo .trace
  else filter.plainMaximum.widest filter.spannedMaximum

/-- Whether the plain directives let a subject through. -/
def admits (filter : Filter) (subject : Subject) : Bool :=
  ((filter.plain.find? (·.appliesTo subject)).map (·.threshold.allows subject.level)).getD false

/-- Whether events tell of the request that they belong to. -/
def showsRequests (filter : Filter) : Bool :=
  filter.maximum.allows Span.level &&
    (filter.spanned.any Directive.concernsRequests || filter.admits Span.subject)

/-- What the spanned directives let through during a request. -/
def scope (filter : Filter) (span : Span) : Threshold :=
  widestOf ((filter.spanned.filter fun directive =>
    directive.concernsRequests && directive.holdsOf span).map Directive.threshold)

/-- Whether an event is let through. -/
def lets (filter : Filter) (entry : Entry) : Bool :=
  filter.maximum.allows entry.event.level &&
    (filter.admits entry.event.subject ||
      (filter.showsRequests && entry.span?.any fun span =>
        (filter.scope span).allows entry.event.level))

end Filter

end Shortlink.Log
