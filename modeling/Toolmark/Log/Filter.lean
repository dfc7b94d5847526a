import Toolmark.Log
import Toolmark.Regex
import Toolmark.Text.Alphanumeric
import Toolmark.Text.Blank

/-!
# Log filters

A filter is a list of directives, each of which sets the verbosity of the parts of the program whose
path begins with its target. Of all directives that apply to an event the most specific one decides.
A directive that names a span waits for that span, and as no event has one, it selects nothing.
-/

namespace Toolmark

/-- The verbosity that a name or a number of a level allows; zero allows nothing. -/
def Level.verbosity? (name : String) : Option Nat :=
  let digits := match name.toList with
    | '+' :: rest => rest
    | chars => chars
  if !digits.isEmpty && digits.all Char.isDigit then
    let value := digits.foldl (fun value c => 10 * value + (c.toNat - '0'.toNat)) 0
    if value ≤ trace.rank then some value else none
  else
    match String.ofList (name.toList.map Char.toLower) with
    | "" => some error.rank
    | "off" => some 0
    | "error" => some error.rank
    | "warn" => some warn.rank
    | "info" => some info.rank
    | "debug" => some debug.rank
    | "trace" => some trace.rank
    | _ => none

/-- A part of a filter. -/
structure Directive where
  /-- How the path of a part of the program has to begin. -/
  target : Option String
  /-- The span in which an event has to occur. -/
  span : Option String
  /-- The details that an event has to have, some with a value. -/
  fields : List (String × Option String)
  /-- The verbosity that it allows. -/
  verbosity : Nat
deriving DecidableEq, Repr

namespace Directive

/-- The directive that nothing has been said about. -/
def blank : Directive := ⟨none, none, [], Level.trace.rank⟩

/-- Where the reader of a directive stands, with the part that it is reading, last character first.
-/
inductive Stage where
  /-- Before the first character. -/
  | start
  /-- In a level or a target. -/
  | word (part : List Char)
  /-- In the name of a span. -/
  | span (part : List Char)
  /-- In a detail. -/
  | field (part : List Char)
  /-- Behind the details. -/
  | fields
  /-- Behind the span. -/
  | target
  /-- In a level. -/
  | level (part : List Char)

/-- A reader of a directive. -/
structure Reader where
  /-- What has been read. -/
  directive : Directive
  /-- Where the reader stands. -/
  stage : Stage

/-- The text of a part. -/
def partText (part : List Char) : String := String.ofList part.reverse

/-- A text that reads as a number. -/
def isNumeral (text : String) : Bool :=
  let digits := match text.toList with
    | '+' :: rest => rest
    | '-' :: rest => rest
    | chars => chars
  !digits.isEmpty && digits.all Char.isDigit

/-- The detail in a part, if its value is a truth value, a number or a regular expression. -/
def field? (part : List Char) : Option (String × Option String) :=
  if part.isEmpty then none
  else
    let chars := part.reverse
    let name := String.ofList (chars.takeWhile (· != '='))
    match chars.dropWhile (· != '=') with
    | [] => some (name, none)
    | _ :: rest =>
        let value := String.ofList (rest.takeWhile (· != '='))
        if value == "true" || value == "false" || isNumeral value || (Regex.compile? value).isSome
        then some (name, some value)
        else none

/-- The verbosity given behind an equals sign. -/
def verbosity? (text : String) : Option Nat :=
  if text.isEmpty then some Level.trace.rank else Level.verbosity? text

namespace Reader

/-- The reader before the first character. -/
def initial : Reader := ⟨blank, .start⟩

/-- The reader behind one more character. -/
def step (reader : Reader) (c : Char) : Option Reader :=
  let directive := reader.directive
  match reader.stage, c with
  | .start, '[' => some ⟨directive, .span []⟩
  | .start, _ =>
      if c == '-' || c == ':' || c == '_' || Text.isAlphanumeric c then
        some ⟨directive, .word [c]⟩
      else none
  | .word part, '=' => some ⟨{ directive with target := some (partText part) }, .level []⟩
  | .word part, '[' => some ⟨{ directive with target := some (partText part) }, .span []⟩
  | .word part, _ => some ⟨directive, .word (c :: part)⟩
  | .span part, ']' => some ⟨{ directive with span := some (partText part) }, .target⟩
  | .span part, '\x7b' =>
      let span := if part.isEmpty then none else some (partText part)
      some ⟨{ directive with span := span }, .field []⟩
  | .span part, _ => some ⟨directive, .span (c :: part)⟩
  | .field part, '\x7d' => do
      let field ← field? part
      some ⟨{ directive with fields := directive.fields ++ [field] }, .fields⟩
  | .field part, _ => some ⟨directive, .field (c :: part)⟩
  | .fields, ']' => some ⟨directive, .target⟩
  | .fields, _ => none
  | .target, '=' => some ⟨directive, .level []⟩
  | .target, _ => none
  | .level part, _ => some ⟨directive, .level (c :: part)⟩

/-- The directive behind the last character. Blanks around a level are no part of it, so a text with
them is no level: alone it is a target, behind an equals sign it is a fault. -/
def finish (reader : Reader) (before after : List Char) : Option Directive :=
  let directive := reader.directive
  match reader.stage with
  | .word part =>
      let text := String.ofList (before ++ part.reverse ++ after)
      match Level.verbosity? text with
      | some verbosity => some { directive with verbosity := verbosity }
      | none => some { directive with target := some text }
  | .level part => do
      if before.isEmpty then
        let verbosity ← verbosity? (partText (after.reverse ++ part))
        some { directive with verbosity := verbosity }
      else none
  | .target => some directive
  | _ => none

end Reader

/-- The directive in a text. -/
def read? (text : String) : Option Directive := do
  let chars := text.toList
  let before := chars.takeWhile Text.isBlank
  let chars := chars.dropWhile Text.isBlank
  let after := (chars.reverse.takeWhile Text.isBlank).reverse
  let reader ← (chars.take (chars.length - after.length)).foldlM Reader.step Reader.initial
  reader.finish before after

/-- A directive that waits for a span or for the value of a detail. -/
def isDynamic (directive : Directive) : Bool :=
  directive.span.isSome || directive.fields.any (·.2.isSome)

/-- The names of the details of a directive. -/
def fieldNames (directive : Directive) : List String := directive.fields.map (·.1)

/-- The directive applies to an event. -/
def applies (directive : Directive) (event : Event) : Bool :=
  !directive.isDynamic &&
    (match directive.target with
      | some target => target.toList.isPrefixOf event.origin.target.toList
      | none => true) &&
    directive.fieldNames.all fun name => name == "message" || event.fields.any (·.1 == name)

/-- A directive is at most as specific as another: its target is shorter, or as long with fewer
details, or it comes first in the order of the names of its details. -/
def isWeaker (left right : Directive) : Bool :=
  let size (directive : Directive) : Nat :=
    (directive.target.map fun target => target.utf8ByteSize + 1).getD 0
  if size left ≠ size right then size left < size right
  else if left.fields.length ≠ right.fields.length then left.fields.length < right.fields.length
  else !(right.fieldNames < left.fieldNames)

end Directive

/-- A list of directives. -/
structure Filter where
  /-- The directives in the order in which they were given. -/
  directives : List Directive
deriving DecidableEq, Repr

namespace Filter

/-- The filter in a text, if each of its directives can be read. -/
def read? (text : String) : Option Filter := do
  let parts := (text.splitOn ",").filter (!·.isEmpty)
  let directives ← parts.mapM Directive.read?
  return ⟨directives⟩

/-- The filter that lets warnings and errors pass. -/
def initial : Filter := ⟨[{ Directive.blank with verbosity := Level.warn.rank }]⟩

/-- The filter that a user has set, or the initial one if there is none or it has a fault. -/
def ofSetting (setting : Option String) : Filter := (setting.bind read?).getD initial

/-- The most specific directive that applies to an event; of equals the last. -/
def decisive? (filter : Filter) (event : Event) : Option Directive :=
  (filter.directives.filter fun directive => directive.applies event).foldl
    (fun best directive =>
      match best with
      | none => some directive
      | some other => if other.isWeaker directive then some directive else best)
    none

/-- The filter lets an event pass. -/
def passes (filter : Filter) (event : Event) : Bool :=
  match filter.decisive? event with
  | some directive => event.level.rank ≤ directive.verbosity
  | none => false

end Filter

end Toolmark
