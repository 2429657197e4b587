import Wayfinding.Number.Decimal

/-!
# JSON values

JSON values and their two written forms.

Main definitions:
* `JsonValue.compact`: without any blank.
* `JsonValue.pretty`: one member or item a line, indented by two spaces.
* `JsonValue.realChars`: a number as the shortest decimal that reads back; one that is not finite
  is written as `null`.
-/

namespace Wayfinding

/-- A JSON value; members keep their order. -/
inductive JsonValue where
  | null
  | bool (value : Bool)
  | integer (value : Int)
  | real (value : Binary64)
  | text (value : String)
  | list (items : List JsonValue)
  | record (members : List (String × JsonValue))
deriving Inhabited

namespace JsonValue

/-- A value, or `null` for an absent one. -/
def ofOption : Option JsonValue → JsonValue
  | some v => v
  | none => null

/-- How a character is written in a JSON string. -/
def escape (c : Char) : List Char :=
  match c with
  | '"' => ['\\', '"']
  | '\\' => ['\\', '\\']
  | '\x08' => ['\\', 'b']
  | '\t' => ['\\', 't']
  | '\n' => ['\\', 'n']
  | '\x0c' => ['\\', 'f']
  | '\r' => ['\\', 'r']
  | c =>
    if c.toNat < 0x20 then
      ['\\', 'u', '0', '0', Nat.digitChar (c.toNat / 16), Nat.digitChar (c.toNat % 16)]
    else [c]

/-- A text between quotation marks. -/
def quoted (s : String) : List Char := '"' :: s.toList.flatMap escape ++ ['"']

/-- Numbers from `10 ^ -5` up to `10 ^ 16` are written without an exponent and always with a point,
the others with one digit before the point and a signed exponent. -/
def decimalChars (d : Decimal) : List Char :=
  let ds := d.digitChars
  let leading := (ds.length : Int) + d.exponent - 1
  if d.digits = 0 ∨ (-5 ≤ leading ∧ leading ≤ 15) then
    d.positional ++ if 0 ≤ d.exponent then ['.', '0'] else []
  else
    Decimal.signChars d.negative ++ Decimal.pointed (ds.length - 1) ds ++
      ['e', if leading < 0 then '-' else '+'] ++ Nat.toDigits 10 leading.natAbs

/-- A number as JSON text; a tie between two shortest decimals goes to the even digit. -/
def realChars (x : Binary64) : List Char :=
  if x.isFinite then decimalChars (x.shortest .even) else "null".toList

/-- An integer as JSON text. -/
def integerChars (n : Int) : List Char :=
  Decimal.signChars (decide (n < 0)) ++ Nat.toDigits 10 n.natAbs

mutual

/-- A value without any blank. -/
def compactChars : JsonValue → List Char
  | null => "null".toList
  | bool b => (if b then "true" else "false").toList
  | integer n => integerChars n
  | real x => realChars x
  | text s => quoted s
  | list [] => ['[', ']']
  | list (v :: vs) => '[' :: compactChars v ++ compactItems vs ++ [']']
  | record [] => ['\x7b', '\x7d']
  | record ((k, v) :: ms) =>
    '\x7b' :: quoted k ++ ':' :: compactChars v ++ compactMembers ms ++ ['\x7d']

/-- The items after the first one. -/
def compactItems : List JsonValue → List Char
  | [] => []
  | v :: vs => ',' :: compactChars v ++ compactItems vs

/-- The members after the first one. -/
def compactMembers : List (String × JsonValue) → List Char
  | [] => []
  | (k, v) :: ms => ',' :: quoted k ++ ':' :: compactChars v ++ compactMembers ms

end

/-- A new line, indented to a depth. -/
def newline (depth : Nat) : List Char := '\n' :: List.replicate (2 * depth) ' '

mutual

/-- A value with one member or item a line, inside `depth` enclosing values. -/
def prettyChars (depth : Nat) : JsonValue → List Char
  | null => "null".toList
  | bool b => (if b then "true" else "false").toList
  | integer n => integerChars n
  | real x => realChars x
  | text s => quoted s
  | list [] => ['[', ']']
  | list (v :: vs) =>
    '[' :: newline (depth + 1) ++ prettyChars (depth + 1) v ++ prettyItems (depth + 1) vs ++
      newline depth ++ [']']
  | record [] => ['\x7b', '\x7d']
  | record ((k, v) :: ms) =>
    '\x7b' :: newline (depth + 1) ++ quoted k ++ ':' :: ' ' :: prettyChars (depth + 1) v ++
      prettyMembers (depth + 1) ms ++ newline depth ++ ['\x7d']

/-- The items after the first one, each on its line. -/
def prettyItems (depth : Nat) : List JsonValue → List Char
  | [] => []
  | v :: vs => ',' :: newline depth ++ prettyChars depth v ++ prettyItems depth vs

/-- The members after the first one, each on its line. -/
def prettyMembers (depth : Nat) : List (String × JsonValue) → List Char
  | [] => []
  | (k, v) :: ms =>
    ',' :: newline depth ++ quoted k ++ ':' :: ' ' :: prettyChars depth v ++ prettyMembers depth ms

end

/-- A value as text without any blank. -/
def compact (v : JsonValue) : String := String.ofList v.compactChars

/-- A value as text with one member or item a line. -/
def pretty (v : JsonValue) : String := String.ofList (v.prettyChars 0)

end JsonValue

end Wayfinding
