import Toolmark.Shell.Arithmetic

/-!
# Formatted output of the shell

The texts that `echo` and `printf` print, with the escapes of each.
-/

namespace Toolmark.Shell.Format

/-- A digit of the base eight. -/
def isOctal (c : Char) : Bool := '0' ≤ c && c ≤ '7'

/-- The octet with a number given by digits of the base eight. -/
def octet (digits : Octets) : Char :=
  Char.ofNat (digits.foldl (fun value c => 8 * value + (c.toNat - '0'.toNat)) 0 % 256)

/-- Up to three digits of the base eight at the beginning of a text. -/
def octalDigits (text : Octets) : Octets := (text.take 3).takeWhile isOctal

/-- The octet of a letter behind a backslash. -/
def control? (c : Char) : Option Char :=
  match c with
  | 'a' => some '\x07'
  | 'b' => some '\x08'
  | 'f' => some '\x0c'
  | 'n' => some '\n'
  | 'r' => some '\r'
  | 't' => some '\t'
  | 'v' => some '\x0b'
  | '\\' => some '\\'
  | _ => none

/-- The text with its escapes resolved, given a bound for its length, and whether it ends all
output. A zero in front of an octet number is not counted as one of its digits. -/
def unescape : Nat → Octets → Octets × Bool
  | 0, _ => ([], false)
  | _, [] => ([], false)
  | bound + 1, '\\' :: c :: rest =>
      let put (c : Char) (rest : Octets) : Octets × Bool :=
        let (text, isLast) := unescape bound rest
        (c :: text, isLast)
      if c == 'c' then ([], true)
      else if c == '0' then
        let digits := octalDigits rest
        put (octet digits) (rest.drop digits.length)
      else if isOctal c then
        let digits := octalDigits (c :: rest)
        put (octet digits) ((c :: rest).drop digits.length)
      else
        match control? c with
        | some c => put c rest
        | none => put '\\' (c :: rest)
  | bound + 1, c :: rest =>
      let (text, isLast) := unescape bound rest
      (c :: text, isLast)

/-- Words joined by blanks. -/
def joined (words : List Octets) : Octets := [' '].intercalate words

/-- The output of the command `echo` of the shell. -/
def echo (words : List Octets) : Octets :=
  let (isPlain, words) := match words with
    | ['-', 'n'] :: words => (true, words)
    | words => (false, words)
  let text := joined words
  let (text, isLast) := unescape text.length text
  if isPlain || isLast then text else text ++ ['\n']

/-- A text filled up to a width. -/
def pad (isLeft : Bool) (fill : Char) (width : Nat) (text : Octets) : Octets :=
  let filling := List.replicate (width - text.length) fill
  if isLeft then text ++ filling else filling ++ text

/-- A directive of a format. -/
structure Directive where
  /-- The text stands at the left of its field. -/
  isLeft : Bool
  /-- A number is filled with zeros. -/
  hasZeros : Bool
  /-- A plus sign or a blank stands before a number that is not negative. -/
  sign : Octets
  /-- A number shows its base. -/
  showsBase : Bool
  /-- The width of the field. -/
  width : Nat
  /-- The number of characters or digits. -/
  precision : Option Nat

namespace Directive

/-- The directive that nothing has been said about. -/
def blank : Directive := ⟨false, false, [], false, 0, none⟩

/-- The directive with the flags at the beginning of a text, and what follows them. -/
def withFlags (directive : Directive) : Octets → Directive × Octets
  | '-' :: rest => { directive with isLeft := true }.withFlags rest
  | '0' :: rest => { directive with hasZeros := true }.withFlags rest
  | '+' :: rest => { directive with sign := ['+'] }.withFlags rest
  | ' ' :: rest =>
      { directive with sign := if directive.sign.isEmpty then [' '] else directive.sign }.withFlags
        rest
  | '#' :: rest => { directive with showsBase := true }.withFlags rest
  | rest => (directive, rest)

/-- A text in its field. -/
def field (directive : Directive) (text : Octets) : Octets :=
  pad directive.isLeft ' ' directive.width text

/-- A string in its field. -/
def string (directive : Directive) (text : Octets) : Octets :=
  directive.field (match directive.precision with
    | some length => text.take length
    | none => text)

/-- Digits with what stands before them, in their field. -/
def number (directive : Directive) (before digits : Octets) : Octets :=
  match directive.precision with
  | some precision => directive.field (before ++ pad false '0' precision digits)
  | none =>
      if directive.hasZeros && !directive.isLeft then
        before ++ pad false '0' (directive.width - before.length) digits
      else directive.field (before ++ digits)

/-- A signed number in its field. -/
def signed (directive : Directive) (value : Int) : Octets :=
  directive.number (if value < 0 then ['-'] else directive.sign) (Nat.toDigits 10 value.natAbs)

/-- A number without a sign in its field. -/
def unsigned (directive : Directive) (base : Nat) (before : Octets) (isUpper : Bool)
    (value : Int) : Octets :=
  let digits := Nat.toDigits base (value % 0x10000000000000000).toNat
  let before := if directive.showsBase && value ≠ 0 then before else []
  directive.number before (if isUpper then digits.map Char.toUpper else digits)

end Directive

/-- The number that an argument stands for; a quote stands for the number of the next character. -/
def argumentValue (argument : Octets) : Int × Bool :=
  match argument with
  | '\'' :: c :: _ => (Int.ofNat c.toNat, true)
  | '"' :: c :: _ => (Int.ofNat c.toNat, true)
  | text =>
      match Arithmetic.ofText? text with
      | some value => (value, true)
      | none =>
          let sign := text.takeWhile fun c => c == '-' || c == '+'
          let digits := (text.drop sign.length).takeWhile Char.isDigit
          ((Arithmetic.ofText? (sign ++ digits)).getD 0, false)

/-- What a format has printed: the text, the arguments that are left, whether all were of the right
form, and whether all output ends here. -/
structure Printed where
  /-- The text. -/
  text : Octets
  /-- The arguments that are left. -/
  arguments : List Octets
  /-- All arguments were of the right form. -/
  isRight : Bool
  /-- All output ends here. -/
  isLast : Bool

namespace Printed

/-- Printed text with a text before it. -/
def after (text : Octets) (printed : Printed) : Printed :=
  { printed with text := text ++ printed.text }

end Printed

/-- The text of one use of a format, given a bound for its length. -/
def once : Nat → Octets → List Octets → Printed
  | 0, _, arguments => ⟨[], arguments, true, false⟩
  | _, [], arguments => ⟨[], arguments, true, false⟩
  | bound + 1, '%' :: '%' :: rest, arguments => (once bound rest arguments).after ['%']
  | bound + 1, '%' :: rest, arguments =>
      let (directive, rest) := Directive.blank.withFlags rest
      let number (text : Octets) (arguments : List Octets) : Nat × Octets × List Octets :=
        match text with
        | '*' :: text =>
            ((argumentValue (arguments.headD [])).1.toNat, text, arguments.drop 1)
        | text =>
            let digits := text.takeWhile Char.isDigit
            ((Arithmetic.ofDigits? 10 digits).getD 0 |>.toNat, text.drop digits.length, arguments)
      let (width, rest, arguments) := number rest arguments
      let (precision, rest, arguments) := match rest with
        | '.' :: rest =>
            let (precision, rest, arguments) := number rest arguments
            (some precision, rest, arguments)
        | rest => (none, rest, arguments)
      let directive := { directive with width := width, precision := precision }
      match rest with
      | [] => ⟨[], arguments, false, true⟩
      | c :: rest =>
          let argument := arguments.headD []
          let (value, isRight) :=
            if arguments.isEmpty then (0, true) else argumentValue argument
          let next := once bound rest (arguments.drop 1)
          let numeric (text : Octets) : Printed :=
            { next.after text with isRight := isRight && next.isRight }
          match c with
          | 's' => next.after (directive.string argument)
          | 'c' => next.after (directive.string (argument.take 1))
          | 'b' =>
              let (text, isLast) := unescape argument.length argument
              if isLast then ⟨directive.string text, [], true, true⟩
              else next.after (directive.string text)
          | 'd' => numeric (directive.signed value)
          | 'i' => numeric (directive.signed value)
          | 'u' => numeric (directive.unsigned 10 [] false value)
          | 'o' => numeric (directive.unsigned 8 ['0'] false value)
          | 'x' => numeric (directive.unsigned 16 ['0', 'x'] false value)
          | 'X' => numeric (directive.unsigned 16 ['0', 'X'] true value)
          | _ => ⟨[], arguments, false, true⟩
  | bound + 1, '\\' :: c :: rest, arguments =>
      if isOctal c then
        let digits := octalDigits (c :: rest)
        (once bound ((c :: rest).drop digits.length) arguments).after [octet digits]
      else
        match control? c with
        | some c => (once bound rest arguments).after [c]
        | none => (once bound (c :: rest) arguments).after ['\\']
  | bound + 1, c :: rest, arguments => (once bound rest arguments).after [c]

/-- The text of a format that is used until no arguments are left, given a bound for their number.
-/
def repeatedly : Nat → Octets → List Octets → Octets × Bool
  | 0, _, _ => ([], true)
  | bound + 1, format, arguments =>
      let printed := once format.length format arguments
      if printed.isLast || printed.arguments.isEmpty
          || printed.arguments.length == arguments.length then
        (printed.text, printed.isRight)
      else
        let (text, isRight) := repeatedly bound format printed.arguments
        (printed.text ++ text, printed.isRight && isRight)

/-- The output of the command `printf`, and whether it succeeds. -/
def printf (words : List Octets) : Octets × Bool :=
  match words with
  | [] => ([], false)
  | format :: arguments => repeatedly (arguments.length + 1) format arguments

end Toolmark.Shell.Format
