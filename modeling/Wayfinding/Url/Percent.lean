import Wayfinding.Text.Digit
import Wayfinding.Text.Utf8

/-!
# Percent-encoding

Bytes that may not stand in a part of a URL are written as a percent sign and two hexadecimal
digits.

Main definitions:
* `Percent.encode`: escapes the characters of a class.
* `Percent.decode`: the bytes of a text, with its escapes undone.
* `Percent.form`: the encoding of form fields, in which a plus sign stands for a space.
-/

namespace Wayfinding.Percent

/-- The escape of a byte. -/
def encodeByte (b : UInt8) : List Char := '%' :: Digit.ofByte b

/-- The bytes of a character. -/
def bytes (c : Char) : List UInt8 := Utf8.encode (String.singleton c)

/-- A text with the characters of a class escaped. -/
def encode (escaped : Char → Bool) (cs : List Char) : List Char :=
  cs.flatMap fun c => if escaped c then (bytes c).flatMap encodeByte else [c]

/-- The bytes of a text in which escapes stand for bytes; a percent sign without two digits stands
for itself. -/
def decode : List Char → List UInt8
  | [] => []
  | '%' :: a :: b :: rest =>
    match Digit.number? 16 [a, b] with
    | some n => .ofNat n :: decode rest
    | none => 0x25 :: decode (a :: b :: rest)
  | c :: rest => bytes c ++ decode rest

/-- Whether a character is a control character or not in ASCII; such characters are escaped
everywhere. -/
def isControl (c : Char) : Bool := c.toNat < 0x20 || 0x7e < c.toNat

/-- Whether a character is escaped in paths. -/
def inPath (c : Char) : Bool :=
  isControl c || [' ', '"', '<', '>', '\x60', '#', '?', '\x7b', '\x7d'].contains c

/-- Whether a character is escaped in queries; `special` adds the apostrophe. -/
def inQuery (special : Bool) (c : Char) : Bool :=
  isControl c || [' ', '"', '#', '<', '>'].contains c || (special && c == '\x27')

/-- How a byte is written in a form field. -/
def formByte (b : UInt8) : List Char :=
  let c := Char.ofNat b.toNat
  if c = ' ' then ['+']
  else if b < 0x80 ∧ (c.isAlphanum ∨ c ∈ ['*', '-', '.', '_']) then [c]
  else encodeByte b

/-- A text as a form field. -/
def form (s : String) : List Char := (Utf8.encode s).flatMap formByte

end Wayfinding.Percent
