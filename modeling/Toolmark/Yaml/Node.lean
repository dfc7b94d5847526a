import Toolmark.Yaml.Token

/-!
# YAML nodes

The document that a list of tokens describes, as a tree. A reference to an anchored node stands in the
tree as the number of the anchor; the numbers of anchors count the distinct names used before them.
-/

namespace Toolmark.Yaml

/-- A node of a document. -/
inductive Node where
  /-- A scalar. -/
  | scalar (anchor : Option Nat) (tag : Option String) (style : ScalarStyle) (text : String)
  /-- A list of nodes. -/
  | sequence (anchor : Option Nat) (items : List Node)
  /-- A list of keys with their values. -/
  | mapping (anchor : Option Nat) (entries : List (Node × Node))
  /-- A reference to the node with an anchor. -/
  | reference (anchor : Nat)
deriving Repr, Inhabited

namespace Node

/-- The node that stands where nothing is written. -/
def absent : Node := scalar none none .plain ""

end Node

namespace Composer

/-- The state of the reader between two nodes. -/
structure State where
  /-- The tokens that remain. -/
  tokens : List Token
  /-- The anchor that each name denotes at present. -/
  names : List (String × Nat)

/-- The handles of tags with what they abbreviate. -/
abbrev Handles := List (String × String)

/-- The handles of every document. -/
def standardHandles : Handles := [("!", "!"), ("!!", "tag:yaml.org,2002:")]

/-- The state with an anchor under a name. The anchors of distinct names are counted; a name used
again takes the number that a new name would take. -/
def State.define (state : State) (name : String) : Nat × State :=
  let number := state.names.length
  (number, { state with names := (name, number) :: state.names.filter (·.1 != name) })

/-- What may stand before the content of a node. -/
structure Properties where
  /-- The name of its anchor. -/
  anchor : Option String
  /-- Its tag, in full. -/
  tag : Option String

/-- A tag in full. -/
def fullTag? (handles : Handles) (handle suffix : String) : Option String :=
  if handle.isEmpty then some suffix
  else (handles.lookup handle).map fun beginning => beginning ++ suffix

/-- The anchor and the tag at the beginning of a node, in either order. -/
def properties (handles : Handles) : List Token → Option (Properties × List Token)
  | .anchor name :: .tag handle suffix :: rest =>
      (fullTag? handles handle suffix).map fun tag => (⟨some name, some tag⟩, rest)
  | .tag handle suffix :: .anchor name :: rest =>
      (fullTag? handles handle suffix).map fun tag => (⟨some name, some tag⟩, rest)
  | .anchor name :: rest => some (⟨some name, none⟩, rest)
  | .tag handle suffix :: rest =>
      (fullTag? handles handle suffix).map fun tag => (⟨none, some tag⟩, rest)
  | rest => some (⟨none, none⟩, rest)

/-- The tag of a scalar that is written out; there the tag `!` says nothing. -/
def scalarTag (tag : Option String) : Option String := tag.filter (· != "!")

/-- No value follows a key of a block mapping, or no key follows its question mark. -/
def endsBlockEntry : List Token → Bool
  | .key :: _ | .value :: _ | .blockEnd :: _ => true
  | _ => false

/-- No node follows the hyphen of an item in a sequence without indentation of its own. -/
def endsLooseItem : List Token → Bool
  | .item :: _ => true
  | tokens => endsBlockEntry tokens

/-- No node follows the hyphen of an item. -/
def endsBlockItem : List Token → Bool
  | .item :: _ | .blockEnd :: _ => true
  | _ => false

mutual

/-- A node. Block collections and sequences without indentation of their own are read only where they
may stand. -/
def node (handles : Handles) (inBlock isLoose : Bool) : Nat → State → Option (Node × State)
  | 0, _ => none
  | fuel + 1, state =>
      match state.tokens with
      | .reference name :: rest => do
          let anchor ← state.names.lookup name
          some (.reference anchor, { state with tokens := rest })
      | tokens => do
          let (properties, tokens) ← properties handles tokens
          let state := { state with tokens := tokens }
          let (anchor, state) := match properties.anchor with
            | some name =>
                let (number, state) := state.define name
                (some number, state)
            | none => (none, state)
          match tokens with
          | .item :: _ =>
              if isLoose then
                let (items, state) ← looseItems handles fuel state
                some (.sequence anchor items, state)
              else if properties.anchor.isSome || properties.tag.isSome then
                some (.scalar anchor properties.tag .plain "", state)
              else none
          | .scalar text style :: rest =>
              some (.scalar anchor (scalarTag properties.tag) style text, { state with tokens := rest })
          | .flowSequence :: rest => do
              let (items, state) ← flowItems handles true fuel { state with tokens := rest }
              some (.sequence anchor items, state)
          | .flowMapping :: rest => do
              let (entries, state) ← flowEntries handles true fuel { state with tokens := rest }
              some (.mapping anchor entries, state)
          | .blockSequence :: rest =>
              if inBlock then
                let (items, state) ← blockItems handles fuel { state with tokens := rest }
                some (.sequence anchor items, state)
              else if properties.anchor.isSome || properties.tag.isSome then
                some (.scalar anchor properties.tag .plain "", state)
              else none
          | .blockMapping :: rest =>
              if inBlock then
                let (entries, state) ← blockEntries handles fuel { state with tokens := rest }
                some (.mapping anchor entries, state)
              else if properties.anchor.isSome || properties.tag.isSome then
                some (.scalar anchor properties.tag .plain "", state)
              else none
          | _ =>
              if properties.anchor.isSome || properties.tag.isSome then
                some (.scalar anchor properties.tag .plain "", state)
              else none

/-- The items of a block sequence, with its end. -/
def blockItems (handles : Handles) : Nat → State → Option (List Node × State)
  | 0, _ => none
  | fuel + 1, state =>
      match state.tokens with
      | .item :: rest => do
          let state := { state with tokens := rest }
          let (item, state) ←
            if endsBlockItem rest then some (Node.absent, state)
            else node handles true false fuel state
          let (items, state) ← blockItems handles fuel state
          some (item :: items, state)
      | .blockEnd :: rest => some ([], { state with tokens := rest })
      | _ => none

/-- The items of a sequence without indentation of its own. -/
def looseItems (handles : Handles) : Nat → State → Option (List Node × State)
  | 0, _ => none
  | fuel + 1, state =>
      match state.tokens with
      | .item :: rest => do
          let state := { state with tokens := rest }
          let (item, state) ←
            if endsLooseItem rest then some (Node.absent, state)
            else node handles true false fuel state
          let (items, state) ← looseItems handles fuel state
          some (item :: items, state)
      | _ => some ([], state)

/-- The entries of a block mapping, with its end. -/
def blockEntries (handles : Handles) : Nat → State → Option (List (Node × Node) × State)
  | 0, _ => none
  | fuel + 1, state =>
      match state.tokens with
      | .blockEnd :: rest => some ([], { state with tokens := rest })
      | .key :: rest => do
          let state := { state with tokens := rest }
          let (key, state) ←
            if endsBlockEntry rest then some (Node.absent, state)
            else node handles true true fuel state
          let (value, state) ← blockValue handles fuel state
          let (entries, state) ← blockEntries handles fuel state
          some ((key, value) :: entries, state)
      | _ => none

/-- The value behind a key of a block mapping. -/
def blockValue (handles : Handles) : Nat → State → Option (Node × State)
  | 0, _ => none
  | fuel + 1, state =>
      match state.tokens with
      | .value :: rest =>
          let state := { state with tokens := rest }
          if endsBlockEntry rest then some (Node.absent, state)
          else node handles true true fuel state
      | _ => some (Node.absent, state)

/-- The items of a flow sequence, with its end. -/
def flowItems (handles : Handles) (isFirst : Bool) : Nat → State → Option (List Node × State)
  | 0, _ => none
  | fuel + 1, state =>
      match state.tokens with
      | .flowSequenceEnd :: rest => some ([], { state with tokens := rest })
      | tokens => do
          let tokens ←
            if isFirst then some tokens
            else match tokens with
              | .comma :: rest => some rest
              | _ => none
          match tokens with
          | .flowSequenceEnd :: rest => some ([], { state with tokens := rest })
          | .key :: rest => do
              let (pair, state) ← flowPair handles fuel { state with tokens := rest }
              let (items, state) ← flowItems handles false fuel state
              some (.mapping none [pair] :: items, state)
          | _ => do
              let (item, state) ← node handles false false fuel { state with tokens := tokens }
              let (items, state) ← flowItems handles false fuel state
              some (item :: items, state)

/-- A key with its value within a flow sequence, behind the sign of the key. Where the key is missing,
the token in its place is passed over. -/
def flowPair (handles : Handles) : Nat → State → Option ((Node × Node) × State)
  | 0, _ => none
  | fuel + 1, state => do
      let (key, state) ←
        match state.tokens with
        | .value :: rest | .comma :: rest | .flowSequenceEnd :: rest =>
            some (Node.absent, { state with tokens := rest })
        | _ => node handles false false fuel state
      match state.tokens with
      | .value :: .comma :: rest => some ((key, Node.absent), { state with tokens := .comma :: rest })
      | .value :: .flowSequenceEnd :: rest =>
          some ((key, Node.absent), { state with tokens := .flowSequenceEnd :: rest })
      | .value :: rest => do
          let (value, state) ← node handles false false fuel { state with tokens := rest }
          some ((key, value), state)
      | _ => some ((key, Node.absent), state)

/-- The entries of a flow mapping, with its end. -/
def flowEntries (handles : Handles) (isFirst : Bool) :
    Nat → State → Option (List (Node × Node) × State)
  | 0, _ => none
  | fuel + 1, state =>
      match state.tokens with
      | .flowMappingEnd :: rest => some ([], { state with tokens := rest })
      | tokens => do
          let tokens ←
            if isFirst then some tokens
            else match tokens with
              | .comma :: rest => some rest
              | _ => none
          match tokens with
          | .flowMappingEnd :: rest => some ([], { state with tokens := rest })
          | .key :: rest => do
              let state := { state with tokens := rest }
              let (key, state) ←
                match rest with
                | .value :: _ | .comma :: _ | .flowMappingEnd :: _ => some (Node.absent, state)
                | _ => node handles false false fuel state
              let (value, state) ← flowValue handles fuel state
              let (entries, state) ← flowEntries handles false fuel state
              some ((key, value) :: entries, state)
          | _ => do
              let (key, state) ← node handles false false fuel { state with tokens := tokens }
              let (entries, state) ← flowEntries handles false fuel state
              some ((key, Node.absent) :: entries, state)

/-- The value behind a key of a flow mapping. -/
def flowValue (handles : Handles) : Nat → State → Option (Node × State)
  | 0, _ => none
  | fuel + 1, state =>
      match state.tokens with
      | .value :: rest =>
          let state := { state with tokens := rest }
          match rest with
          | .comma :: _ | .flowMappingEnd :: _ => some (Node.absent, state)
          | _ => node handles false false fuel state
      | _ => some (Node.absent, state)

end

/-- The handles that directives define, and the tokens behind them. Each handle is defined at most
once, and the version is stated at most once. -/
def directives (version : Option (Nat × Nat)) (handles : Handles) :
    List Token → Option (Handles × List Token)
  | .version major minor :: rest =>
      if version.isSome || major ≠ 1 || (minor ≠ 1 && minor ≠ 2) then none
      else directives (some (major, minor)) handles rest
  | .tagDirective handle beginning :: rest =>
      if (handles.lookup handle).isSome then none
      else directives version ((handle, beginning) :: handles) rest
  | rest => some (handles ++ standardHandles, rest)

/-- No node follows the line at the beginning of a document. -/
def endsDocument : List Token → Bool
  | [] => true
  | .version .. :: _ | .tagDirective .. :: _ | .documentStart :: _ | .documentEnd :: _ => true
  | _ => false

/-- The root of the only document of a text and the tokens behind it. -/
def document (tokens : List Token) : Option (Option Node × List Token) :=
  let fuel := 3 * tokens.length + 3
  match tokens with
  | [] => some (none, [])
  | .version .. :: _ | .tagDirective .. :: _ | .documentStart :: _ => do
      let (handles, tokens) ← directives none [] tokens
      match tokens with
      | .documentStart :: rest =>
          if endsDocument rest then some (some Node.absent, rest)
          else
            let (root, state) ← node handles true false fuel ⟨rest, []⟩
            some (some root, state.tokens)
      | _ => none
  | tokens => do
      let (root, state) ← node standardHandles true false fuel ⟨tokens, []⟩
      some (some root, state.tokens)

end Composer

/-- The root of the only document that tokens describe, unless there is no document at all. -/
def Node.ofTokens? (tokens : List Token) : Option (Option Node) := do
  let (root, rest) ← Composer.document tokens
  if rest.all (· == .documentEnd) then some root else none

end Toolmark.Yaml
