import Toolmark.Text.Utf8

/-!
# Octets

Text as the shell sees it: octets without regard to characters of more than one octet. Every octet
is held as the character with its number.
-/

namespace Toolmark.Shell

/-- A text of octets, each as the character with its number. -/
abbrev Octets := List Char

namespace Octets

/-- The octets with given bytes. -/
def ofBytes (bytes : List UInt8) : Octets := bytes.map fun byte => Char.ofNat byte.toNat

/-- The bytes of octets. -/
def toBytes (octets : Octets) : List UInt8 := octets.map fun c => c.toNat.toUInt8

/-- The octets of a text. -/
def ofText (text : String) : Octets := ofBytes (Text.Utf8.encode text)

/-- The text of octets. -/
def toText (octets : Octets) : String := Text.Utf8.decode (toBytes octets)

/-- The octets of a number in decimal digits. -/
def ofNat (value : Nat) : Octets := Nat.toDigits 10 value

end Octets

end Toolmark.Shell
