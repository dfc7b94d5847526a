import Toolmark.Yaml.Scalar

/-!
# YAML tokens

A text is read into tokens in one pass. Indentation opens and closes block collections. Whether a
scalar is the key of a mapping shows only at the colon behind it, so a place is kept in front of
everything that may turn out to be a key, and the places of actual keys are filled at the end.
-/

namespace Toolmark.Yaml

/-- A token of a YAML text. -/
inductive Token where
  /-- A version directive. -/
  | version (major minor : Nat)
  /-- A directive that abbreviates the beginnings of tags. -/
  | tagDirective (handle beginning : String)
  /-- The line at the beginning of a document. -/
  | documentStart
  /-- The line at the end of a document. -/
  | documentEnd
  /-- The beginning of a sequence by indentation. -/
  | blockSequence
  /-- The beginning of a mapping by indentation. -/
  | blockMapping
  /-- The end of a collection by indentation. -/
  | blockEnd
  /-- An opening bracket. -/
  | flowSequence
  /-- A closing bracket. -/
  | flowSequenceEnd
  /-- An opening brace. -/
  | flowMapping
  /-- A closing brace. -/
  | flowMappingEnd
  /-- The hyphen before an item. -/
  | item
  /-- The comma between items. -/
  | comma
  /-- The beginning of a key. -/
  | key
  /-- The colon before a value. -/
  | value
  /-- A reference to an anchored node. -/
  | reference (name : String)
  /-- The name of a node for later references. -/
  | anchor (name : String)
  /-- The tag of a node: a handle and what follows it. -/
  | tag (handle suffix : String)
  /-- A scalar. -/
  | scalar (text : String) (style : ScalarStyle)
deriving DecidableEq, Repr

/-- A place that may turn out to begin a key. -/
structure KeyPlace where
  /-- The number of the place. -/
  number : Nat
  /-- Nothing but a key can stand there. -/
  isRequired : Bool
  /-- The position. -/
  cursor : Cursor

/-- The state of the reader between two tokens. -/
structure Scanner where
  /-- The position. -/
  cursor : Cursor
  /-- The tokens and the numbered places so far, last first. -/
  tokens : List (Token ⊕ Nat)
  /-- The columns of the open block collections, innermost first. -/
  indents : List Nat
  /-- The place of the current key in each open flow collection and around them, innermost first. -/
  places : List (Option KeyPlace)
  /-- The number of the next place. -/
  nextPlace : Nat
  /-- The places that begin keys, with those that begin mappings marked. -/
  keys : List (Nat × Bool)
  /-- A key may begin at the position. -/
  allowsKey : Bool
  /-- A number greater than that of the characters of the text. -/
  bound : Nat

namespace Scanner

/-- The reader at the beginning of a text. -/
def start (text : List Char) : Scanner where
  cursor := Cursor.start text
  tokens := []
  indents := []
  places := [none]
  nextPlace := 0
  keys := []
  allowsKey := true
  bound := text.length + 2

/-- The position is within a flow collection. -/
def inFlow (scanner : Scanner) : Bool := 1 < scanner.places.length

/-- The reader with one more token. -/
def emit (scanner : Scanner) (token : Token) : Scanner :=
  { scanner with tokens := .inl token :: scanner.tokens }

/-- The reader at another position. -/
def moveTo (scanner : Scanner) (cursor : Cursor) : Scanner := { scanner with cursor := cursor }

/-- The reader that allows or forbids a key at its position. -/
def allow (scanner : Scanner) (allowsKey : Bool) : Scanner := { scanner with allowsKey := allowsKey }

/-- The current column lies right of the innermost block collection. -/
def isDeeper (scanner : Scanner) (column : Nat) : Bool :=
  match scanner.indents with
  | [] => true
  | indent :: _ => indent < column

/-- The reader with a new block collection at its column, if the column lies deep enough. -/
def openBlock (scanner : Scanner) (token : Token) : Scanner :=
  if !scanner.inFlow && scanner.isDeeper scanner.cursor.column then
    { scanner.emit token with indents := scanner.cursor.column :: scanner.indents }
  else scanner

/-- The reader without the block collections right of a column, or without any. -/
def closeBlocks (scanner : Scanner) (column : Option Nat) : Scanner :=
  if scanner.inFlow then scanner
  else
    let isClosed (indent : Nat) : Bool :=
      match column with
      | some column => column < indent
      | none => true
    { scanner with
      tokens :=
        (scanner.indents.takeWhile isClosed).map (fun _ => .inl .blockEnd) ++ scanner.tokens
      indents := scanner.indents.dropWhile isClosed }

/-- The reader without the place of its current key. A required key must not be given up. -/
def dropPlace (scanner : Scanner) : Option Scanner :=
  match scanner.places with
  | some place :: outer =>
      if place.isRequired then none else some { scanner with places := none :: outer }
  | _ => some scanner

/-- The reader with a place at its position, where a key is allowed. -/
def savePlace (scanner : Scanner) : Option Scanner :=
  if scanner.allowsKey then do
    let scanner ← scanner.dropPlace
    let place : KeyPlace :=
      { number := scanner.nextPlace
        isRequired := !scanner.inFlow && scanner.indents.head? == some scanner.cursor.column
        cursor := scanner.cursor }
    some
      { scanner with
        tokens := .inr scanner.nextPlace :: scanner.tokens
        places := some place :: scanner.places.drop 1
        nextPlace := scanner.nextPlace + 1 }
  else some scanner

/-- The reader without the places that a key can no longer begin at: a key stands on one line and has
at most 1024 characters. -/
def dropStale (scanner : Scanner) : Option Scanner := do
  let places ← scanner.places.mapM fun place =>
    match place with
    | none => some none
    | some place =>
        if place.cursor.line < scanner.cursor.line ||
            place.cursor.index + 1024 < scanner.cursor.index then
          if place.isRequired then none else some none
        else some (some place)
  some { scanner with places := places }

/-- The reader at the next token, behind blanks, comments and line breaks. -/
def pass : Nat → Scanner → Scanner
  | 0, scanner => scanner
  | fuel + 1, scanner =>
      let cursor := scanner.cursor
      let cursor :=
        if cursor.column = 0 && cursor.nextIs (· = '\uFEFF') then cursor.skip 1 else cursor
      let cursor := cursor.skipWhile fun c =>
        c = ' ' || ((scanner.inFlow || !scanner.allowsKey) && c = '\t')
      let cursor :=
        if cursor.nextIs (· = '#') then cursor.skipWhile fun c => !isBreak c else cursor
      if cursor.nextIs isBreak then
        pass fuel
          { scanner with
            cursor := cursor.skipBreak
            allowsKey := scanner.allowsKey || !scanner.inFlow }
      else scanner.moveTo cursor

/-! ## Names and tags -/

/-- A character of the name of an anchor or a handle. -/
def isNameChar (c : Char) : Bool := c.isAlphanum || c = '_' || c = '-'

/-- The name of an anchor or of a reference, behind its mark. -/
def anchorName (cursor : Cursor) : Option (String × Cursor) :=
  let (name, behind) := cursor.takeWhile isNameChar
  let endsWell := behind.isAtSeparator ||
    behind.nextIs fun c => ['?', ':', ',', ']', '\x7d', '%', '@', '\x60'].contains c
  if name.isEmpty || !endsWell then none else some (String.ofList name, behind)

/-- A character of a tag. -/
def isTagChar (isVerbatim : Bool) (c : Char) : Bool :=
  isNameChar c ||
    [';', '/', '?', ':', '@', '&', '=', '+', '$', '.', '%', '!', '~', '*', '\'', '(', ')'].contains c ||
    (isVerbatim && [',', '[', ']'].contains c)

/-- The bytes of percent escapes in a tag are well formed. -/
def escapesAreSound : List Char → Bool
  | [] => true
  | '%' :: high :: low :: rest =>
      (Text.Table.hexDigit? high).isSome && (Text.Table.hexDigit? low).isSome && escapesAreSound rest
  | '%' :: _ => false
  | _ :: rest => escapesAreSound rest

/-- The text of a tag. It may be empty behind a handle of one character. -/
def tagText (isVerbatim : Bool) (mayBeEmpty : Bool) (cursor : Cursor) :
    Option (List Char × Cursor) :=
  let (text, behind) := cursor.takeWhile (isTagChar isVerbatim)
  if (text.isEmpty && !mayBeEmpty) || !escapesAreSound text then none else some (text, behind)

/-- The handle of a tag, from its exclamation mark. -/
def tagHandle (cursor : Cursor) : List Char × Cursor :=
  let (name, behind) := (cursor.skip 1).takeWhile isNameChar
  if behind.nextIs (· = '!') then ('!' :: name ++ ['!'], behind.skip 1) else ('!' :: name, behind)

/-- A tag, from its exclamation mark. -/
def tag (inFlow : Bool) (cursor : Cursor) : Option (Token × Cursor) := do
  let (token, behind) ←
    if cursor.at? 1 == some '<' then do
      let (text, behind) ← tagText true false (cursor.skip 2)
      if behind.nextIs (· = '>') then some (.tag "" (String.ofList text), behind.skip 1) else none
    else
      let (handle, behind) := tagHandle cursor
      if 1 < handle.length && handle.getLast? == some '!' then do
        let (text, behind) ← tagText false false behind
        some (Token.tag (String.ofList handle) (String.ofList text), behind)
      else do
        let (text, behind) ← tagText false true behind
        let suffix := handle.drop 1 ++ text
        if suffix.isEmpty then some (.tag "" "!", behind)
        else some (.tag "!" (String.ofList suffix), behind)
  if (inFlow && behind.nextIs (· = ',')) || behind.isAtSeparator then some (token, behind) else none

/-! ## Directives -/

/-- A number of at most nine digits. -/
def versionNumber (cursor : Cursor) : Option (Nat × Cursor) :=
  let (digits, behind) := cursor.takeWhile Char.isDigit
  if digits.isEmpty || 9 < digits.length then none
  else some (digits.foldl (fun value c => 10 * value + (c.toNat - '0'.toNat)) 0, behind)

/-- The content of a directive, behind its name. -/
def directiveContent (name : String) (cursor : Cursor) : Option (Token × Cursor) :=
  match name with
  | "YAML" => do
      let (major, behind) ← versionNumber (cursor.skipWhile isBlank)
      if behind.nextIs (· = '.') then
        let (minor, behind) ← versionNumber (behind.skip 1)
        some (.version major minor, behind)
      else none
  | "TAG" => do
      let cursor := cursor.skipWhile isBlank
      if cursor.nextIs (· = '!') then
        let (handle, behind) := tagHandle cursor
        if handle == ['!'] || (1 < handle.length && handle.getLast? == some '!') then
          if behind.nextIs isBlank then
            let (text, behind) ← tagText true false (behind.skipWhile isBlank)
            if behind.isAtSeparator then
              some (.tagDirective (String.ofList handle) (String.ofList text), behind)
            else none
          else none
        else none
      else none
  | _ => none

/-- A directive, from its percent sign to the end of its line. -/
def directive (cursor : Cursor) : Option (Token × Cursor) := do
  let (name, behind) := (cursor.skip 1).takeWhile isNameChar
  if name.isEmpty || !behind.isAtSeparator then none
  else
    let (token, behind) ← directiveContent (String.ofList name) behind
    let behind := behind.skipWhile isBlank
    let behind :=
      if behind.nextIs (· = '#') then behind.skipWhile fun c => !isBreak c else behind
    if behind.isAtEnd || behind.nextIs isBreak then some (token, behind.skipBreak) else none

/-! ## Tokens -/

/-- The reader behind the opening mark of a flow collection. -/
def openFlow (scanner : Scanner) (token : Token) : Option Scanner := do
  let scanner ← scanner.savePlace
  some
    { scanner.emit token with
      cursor := scanner.cursor.skip 1
      places := none :: scanner.places
      allowsKey := true }

/-- The reader behind the closing mark of a flow collection. -/
def closeFlow (scanner : Scanner) (token : Token) : Option Scanner := do
  let scanner ← scanner.dropPlace
  some
    { scanner.emit token with
      cursor := scanner.cursor.skip 1
      places := if scanner.inFlow then scanner.places.drop 1 else scanner.places
      allowsKey := false }

/-- The reader behind the comma between two items. -/
def comma (scanner : Scanner) : Option Scanner := do
  let scanner ← scanner.dropPlace
  some (((scanner.emit .comma).moveTo (scanner.cursor.skip 1)).allow true)

/-- The reader behind the hyphen before an item. -/
def item (scanner : Scanner) : Option Scanner := do
  if scanner.inFlow || scanner.allowsKey then
    let scanner ← (scanner.openBlock .blockSequence).dropPlace
    some (((scanner.emit .item).moveTo (scanner.cursor.skip 1)).allow true)
  else none

/-- The reader behind the question mark before a key. -/
def explicitKey (scanner : Scanner) : Option Scanner := do
  if scanner.inFlow || scanner.allowsKey then
    let scanner ← (scanner.openBlock .blockMapping).dropPlace
    some (((scanner.emit .key).moveTo (scanner.cursor.skip 1)).allow (!scanner.inFlow))
  else none

/-- The reader behind the colon before a value. -/
def colon (scanner : Scanner) : Option Scanner :=
  let behind := scanner.cursor.skip 1
  match scanner.places with
  | some place :: outer =>
      let beginsMapping := !scanner.inFlow && scanner.isDeeper place.cursor.column
      some
        { scanner.emit .value with
          cursor := behind
          indents :=
            if beginsMapping then place.cursor.column :: scanner.indents else scanner.indents
          places := none :: outer
          keys := (place.number, beginsMapping) :: scanner.keys
          allowsKey := false }
  | _ =>
      if scanner.inFlow || scanner.allowsKey then
        let scanner := scanner.openBlock .blockMapping
        some (((scanner.emit .value).moveTo behind).allow (!scanner.inFlow))
      else none

/-- The reader behind a token that may begin a key. -/
def atom (scanner : Scanner) (read : Cursor → Option (Token × Cursor)) : Option Scanner := do
  let scanner ← scanner.savePlace
  let (token, behind) ← read scanner.cursor
  some (((scanner.emit token).moveTo behind).allow false)

/-- The reader behind a line that separates documents. -/
def documentMark (scanner : Scanner) (token : Token) : Option Scanner := do
  let scanner ← (scanner.closeBlocks none).dropPlace
  some (((scanner.emit token).moveTo (scanner.cursor.skip 3)).allow false)

/-- The reader behind a directive. -/
def directiveLine (scanner : Scanner) : Option Scanner := do
  let scanner ← (scanner.closeBlocks none).dropPlace
  let (token, behind) ← directive scanner.cursor
  some (((scanner.emit token).moveTo behind).allow false)

/-- The reader behind a scalar in quotation marks. -/
def quoted (scanner : Scanner) (double : Bool) : Option Scanner :=
  scanner.atom fun cursor => do
    let (text, behind) ← Scalar.readQuoted double scanner.bound [] (cursor.skip 1)
    some (.scalar text .quoted, behind)

/-- The reader behind a block scalar. -/
def block (scanner : Scanner) (folded : Bool) : Option Scanner := do
  let scanner ← scanner.dropPlace
  let (text, behind) ←
    Scalar.readBlock folded scanner.indents.head? scanner.bound (scanner.cursor.skip 1)
  let token := Token.scalar text (if folded then .folded else .literal)
  some (((scanner.emit token).moveTo behind).allow true)

/-- The reader behind a plain scalar. -/
def plain (scanner : Scanner) : Option Scanner := do
  let scanner ← scanner.savePlace
  let cursor := scanner.cursor
  let indent := (scanner.indents.head?.map (· + 1)).getD 0
  let (text, endsLine, behind) ←
    Scalar.readPlain scanner.inFlow indent scanner.bound Scalar.Gap.none [] cursor
  some (((scanner.emit (.scalar text .plain)).moveTo behind).allow endsLine)

/-- A plain scalar may begin with the character, whatever follows. -/
def beginsPlain (c : Char) : Bool :=
  !isBlank c && !isBreak c &&
    !(['-', '?', ':', ',', '[', ']', '\x7b', '\x7d', '#', '&', '*', '!', '|', '>', '\'', '"', '%', '@',
      '\x60'].contains c)

/-- The reader behind the token that begins with a character. -/
def token (scanner : Scanner) (c : Char) : Option Scanner :=
  let second := scanner.cursor.at? 1
  let inFlow := scanner.inFlow
  if scanner.cursor.column = 0 && c = '%' then scanner.directiveLine
  else if scanner.cursor.isAtMark '-' then scanner.documentMark .documentStart
  else if scanner.cursor.isAtMark '.' then scanner.documentMark .documentEnd
  else if c = '[' then scanner.openFlow .flowSequence
  else if c = '\x7b' then scanner.openFlow .flowMapping
  else if c = ']' then scanner.closeFlow .flowSequenceEnd
  else if c = '\x7d' then scanner.closeFlow .flowMappingEnd
  else if c = ',' then scanner.comma
  else if c = '-' && isSeparator second then scanner.item
  else if c = '?' && (inFlow || isSeparator second) then scanner.explicitKey
  else if c = ':' && (inFlow || isSeparator second) then scanner.colon
  else if c = '*' then
    scanner.atom fun cursor =>
      (anchorName (cursor.skip 1)).map fun (name, behind) => (.reference name, behind)
  else if c = '&' then
    scanner.atom fun cursor =>
      (anchorName (cursor.skip 1)).map fun (name, behind) => (.anchor name, behind)
  else if c = '!' then scanner.atom (tag inFlow)
  else if c = '|' && !inFlow then scanner.block false
  else if c = '>' && !inFlow then scanner.block true
  else if c = '\'' then scanner.quoted false
  else if c = '"' then scanner.quoted true
  else if beginsPlain c || (c = '-' && !second.any isBlank) ||
      (!inFlow && (c = '?' || c = ':') && !isSeparator second) then scanner.plain
  else none

/-- The reader at the end of the text. -/
def run : Nat → Scanner → Option Scanner
  | 0, _ => none
  | fuel + 1, scanner => do
      let scanner ← (scanner.pass scanner.bound).dropStale
      let scanner := scanner.closeBlocks (some scanner.cursor.column)
      match scanner.cursor.next with
      | none => (scanner.closeBlocks none).dropPlace
      | some c => run fuel (← scanner.token c)

/-- The tokens in order, with keys at their places. -/
def ordered (scanner : Scanner) : List Token :=
  scanner.tokens.foldl
    (fun tokens entry =>
      match entry with
      | .inl token => token :: tokens
      | .inr number =>
          match scanner.keys.lookup number with
          | some true => .blockMapping :: .key :: tokens
          | some false => .key :: tokens
          | none => tokens)
    []

end Scanner

/-- The tokens of a text, if it can be read into tokens. -/
def Token.ofText? (text : String) : Option (List Token) :=
  let chars := text.toList
  let chars := if chars.head? == some '\uFEFF' then chars.drop 1 else chars
  if chars.all isAllowed then
    (Scanner.run (chars.length + 2) (Scanner.start chars)).map Scanner.ordered
  else none

end Toolmark.Yaml
