import Wayfinding.Text.Printable

/-!
# Quoted text

A text in quotation marks, with escapes for the marks, the backslash and every character that
cannot be shown by itself. Main definition: `Quoted.encode`.
-/

namespace Wayfinding.Text.Quoted

/-- How a character is written inside the quotation marks. -/
def escape (c : Char) : List Char :=
  match c with
  | '\x00' => ['\\', '0']
  | '\t' => ['\\', 't']
  | '\n' => ['\\', 'n']
  | '\r' => ['\\', 'r']
  | '"' => ['\\', '"']
  | '\\' => ['\\', '\\']
  | c =>
    if isPrintable c then [c]
    else ['\\', 'u', '\x7b'] ++ Nat.toDigits 16 c.toNat ++ ['\x7d']

/-- The text between quotation marks, escaped. -/
def encode (s : String) : String :=
  String.ofList ('"' :: s.toList.flatMap escape ++ ['"'])

end Wayfinding.Text.Quoted
