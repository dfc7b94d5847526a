import Toolmark.Json

/-!
# Decoding JSON values

The values that a JSON value stands for when their type is known. A record is written as an object,
in which unknown names are passed over and a known name occurs at most once, or as an array of its
fields in their order.
-/

namespace Toolmark.Json

/-- The greatest number that a word of 64 bits holds. -/
def wordLimit : Nat := 0xffffffffffffffff

/-- A number of 64 bits. -/
def toWord? : Json → Option Nat
  | number (.natural value) => if value ≤ wordLimit then some value else none
  | _ => none

/-- A truth value. -/
def toBool? : Json → Option Bool
  | bool value => some value
  | _ => none

/-- A text. -/
def toText? : Json → Option String
  | string text => text
  | _ => none

/-- A list of values of one type. -/
def toList? {α : Type} (decode : Json → Option α) : Json → Option (List α)
  | array items => items.mapM decode
  | _ => none

/-- A value that may be absent. -/
def toOption? {α : Type} (decode : Json → Option α) : Json → Option (Option α)
  | null => some none
  | value => (decode value).map some

/-- The name of a variant without content: a string, or an object whose only member is `null`. -/
def toVariant? : Json → Option String
  | string text => text
  | object [(name, null)] => name
  | _ => none

/-- The members of an object, if all their names have a text. -/
def toMembers? : Json → Option (List (String × Json))
  | object members => members.mapM fun (name, value) => name.map fun name => (name, value)
  | _ => none

/-- The value of the only member with a given name; the name may be absent, but not occur twice. -/
def field? (members : List (String × Json)) (name : String) : Option (Option Json) :=
  match members.filter fun member => member.1 = name with
  | [] => some none
  | [member] => some (some member.2)
  | _ => none

/-- The fields of a record, each absent or with its value. -/
def toRecord? (names : List String) : Json → Option (List (Option Json))
  | array items =>
      if items.length ≤ names.length then
        some (items.map some ++ List.replicate (names.length - items.length) none)
      else none
  | value => do
      let members ← value.toMembers?
      names.mapM (field? members)

/-- A field that has to be present. -/
def required {α : Type} (decode : Json → Option α) (field : Option Json) : Option α :=
  field.bind decode

/-- A field that has a value when it is absent. -/
def defaulted {α : Type} (fallback : α) (decode : Json → Option α) :
    Option Json → Option α
  | none => some fallback
  | some value => decode value

end Toolmark.Json
