import Toolmark.Sink

/-!
# Styled text

Text in which some parts are emphasised. With colour an emphasised part stands between an opening
sequence and a reset, and a reset within it is followed by the opening sequence again; without colour
it is the bare text.
-/

namespace Toolmark

/-- An emphasis. -/
inductive Emphasis where
  /-- Bold and green. -/
  | boldGreen
  /-- Bold and red. -/
  | boldRed
  /-- Green. -/
  | green
  /-- Red. -/
  | red
  /-- Faint. -/
  | faint
deriving DecidableEq, Repr

namespace Emphasis

/-- The sequence that begins an emphasis. -/
def opening : Emphasis → List Char
  | boldGreen => ['\x1b', '[', '1', ';', '3', '2', 'm']
  | boldRed => ['\x1b', '[', '1', ';', '3', '1', 'm']
  | green => ['\x1b', '[', '3', '2', 'm']
  | red => ['\x1b', '[', '3', '1', 'm']
  | faint => ['\x1b', '[', '2', 'm']

/-- The sequence that ends every emphasis. -/
def reset : List Char := ['\x1b', '[', '0', 'm']

/-- The text with the opening sequence behind every reset. -/
def reopen (emphasis : Emphasis) : List Char → List Char
  | '\x1b' :: '[' :: '0' :: 'm' :: rest => reset ++ emphasis.opening ++ reopen emphasis rest
  | c :: rest => c :: reopen emphasis rest
  | [] => []

end Emphasis

/-- A part of a line. -/
structure Span where
  /-- The emphasis of the part, if it has one. -/
  emphasis : Option Emphasis
  /-- Its text. -/
  text : String
deriving DecidableEq, Repr

namespace Span

/-- A part without emphasis. -/
def plain (text : String) : Span := ⟨none, text⟩

/-- An emphasised part. -/
def styled (emphasis : Emphasis) (text : String) : Span := ⟨some emphasis, text⟩

/-- The pieces in which a part is written, with or without colour. -/
def pieces (color : Bool) (span : Span) : List String :=
  match color, span.emphasis with
  | true, some emphasis =>
      [String.ofList emphasis.opening, String.ofList (emphasis.reopen span.text.toList),
        String.ofList Emphasis.reset]
  | _, _ => [span.text]

end Span

/-- Writes the parts of a formatted text. -/
def Writer.format (color : Bool) (spans : List Span) : Writer Unit :=
  putAll (spans.flatMap (Span.pieces color))

end Toolmark
