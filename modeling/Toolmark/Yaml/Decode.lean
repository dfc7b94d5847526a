import Toolmark.Yaml.Node

/-!
# Decoding YAML documents

The values that a node stands for when their type is known. A record is a mapping in which unknown
keys are passed over and a known key occurs at most once; nothing at all stands for a record without
entries. Scalars in quotation marks are always texts.
-/

namespace Toolmark.Yaml

/-- A document: its root, and the node of each anchor. -/
structure Document where
  /-- The root, unless the text holds no document. -/
  root : Option Node
  /-- The anchored nodes, the last one of each anchor first. -/
  anchors : List (Nat × Node)
deriving Repr

namespace Node

mutual

/-- The anchored nodes within a node, in the reverse of their order in the text. -/
def anchored (found : List (Nat × Node)) : Node → List (Nat × Node)
  | scalar anchor tag style text =>
      match anchor with
      | some number => (number, scalar anchor tag style text) :: found
      | none => found
  | sequence anchor items =>
      let found := match anchor with
        | some number => (number, sequence anchor items) :: found
        | none => found
      anchoredItems found items
  | mapping anchor entries =>
      let found := match anchor with
        | some number => (number, mapping anchor entries) :: found
        | none => found
      anchoredEntries found entries
  | reference _ => found

/-- The anchored nodes within a list of nodes. -/
def anchoredItems (found : List (Nat × Node)) : List Node → List (Nat × Node)
  | [] => found
  | item :: rest => anchoredItems (anchored found item) rest

/-- The anchored nodes within a list of entries. -/
def anchoredEntries (found : List (Nat × Node)) : List (Node × Node) → List (Nat × Node)
  | [] => found
  | (key, value) :: rest => anchoredEntries (anchored (anchored found key) value) rest

end

end Node

namespace Document

/-- The document that a text is. -/
def ofText? (text : String) : Option Document := do
  let tokens ← Token.ofText? text
  let root ← Node.ofTokens? tokens
  some ⟨root, (root.map (Node.anchored [])).getD []⟩

/-- The node itself, or the one that it refers to. -/
def follow (document : Document) : Node → Option Node
  | .reference anchor => document.anchors.lookup anchor
  | node => some node

end Document

/-! ## Scalars -/

/-- The spellings of nothing. -/
def isNull (text : String) : Bool := ["null", "Null", "NULL", "~"].contains text

/-- The value of digits in a base, if there are any digits and nothing else. -/
def digitsValue? (base : Nat) (digits : List Char) : Option Nat :=
  if digits.isEmpty then none
  else digits.foldlM (fun value c => do
    let digit ← Text.Table.hexDigit? c
    if digit < base then some (base * value + digit) else none) 0

/-- The natural number of 64 bits that a scalar spells. -/
def number? (text : String) : Option Nat := do
  let unsigned := match text.toList with
    | '+' :: rest => rest
    | chars => chars
  let value ←
    match unsigned with
    | '0' :: 'x' :: rest => digitsValue? 16 rest
    | '0' :: 'o' :: rest => digitsValue? 8 rest
    | '0' :: 'b' :: rest => digitsValue? 2 rest
    | '0' :: _ :: _ => none
    | digits => digitsValue? 10 digits
  if value ≤ 0xffffffffffffffff then some value else none

/-- The tag of integers. -/
def integerTag : String := "tag:yaml.org,2002:int"

/-- The tag of nothing. -/
def nullTag : String := "tag:yaml.org,2002:null"

namespace Document

/-- A text. Every scalar is one. -/
def toText? (document : Document) (node : Node) : Option String := do
  match ← document.follow node with
  | .scalar _ _ _ text => some text
  | _ => none

/-- A natural number of 64 bits. -/
def toWord? (document : Document) (node : Node) : Option Nat := do
  match ← document.follow node with
  | .scalar _ tag style text =>
      if style = .plain || (style = .literal && tag == some integerTag) then number? text else none
  | _ => none

/-- A value that may be absent. -/
def toOption? {α : Type} (document : Document) (decode : Node → Option α) (node : Node) :
    Option (Option α) := do
  let target ← document.follow node
  match target with
  | .scalar _ tag .plain text =>
      if tag == some nullTag then if isNull text then some none else none
      else if tag.isNone && (text.isEmpty || isNull text) then some none
      else (decode target).map some
  | _ => (decode target).map some

/-- Nothing is written where a collection is expected. -/
def isVoid : Node → Bool
  | .scalar _ _ .plain text => text.isEmpty
  | _ => false

/-- A list of values of one type. -/
def toList? {α : Type} (document : Document) (decode : Node → Option α) (node : Node) :
    Option (List α) := do
  match ← document.follow node with
  | .sequence _ items => items.mapM decode
  | target => if isVoid target then some [] else none

/-- The entries of a mapping, in the order of the text. -/
def toEntries? (document : Document) (node : Node) : Option (List (String × Node)) := do
  match ← document.follow node with
  | .mapping _ entries =>
      entries.mapM fun (key, value) => (document.toText? key).map fun key => (key, value)
  | target => if isVoid target then some [] else none

/-- The value of the only entry with a given key; the key may be absent, but not occur twice. -/
def field? (entries : List (String × Node)) (name : String) : Option (Option Node) :=
  match entries.filter fun entry => entry.1 = name with
  | [] => some none
  | [entry] => some (some entry.2)
  | _ => none

/-- A field that has a value when it is absent. -/
def defaulted {α : Type} (fallback : α) (decode : Node → Option α) : Option Node → Option α
  | none => some fallback
  | some node => decode node

end Document

end Toolmark.Yaml
