import Wayfinding.Number.Decimal
import Wayfinding.Text.Digit

/-!
# Tokens of JSON text

JSON text is read in tokens: punctuation, strings, numbers and the three words.

Main definitions:
* `Json.TextUnit`: a part of a string; `TextUnit.join?` puts the halves of characters together.
* `Json.NumberText`: a number as it is written.
* `Json.Token.scan`: the tokens of a text, if it has no others.
-/

namespace Wayfinding.Json

/-- A part of a string: a character, or one half of a character that is escaped as a pair. -/
inductive TextUnit where
  | char (c : Char)
  | half (code : Nat)
deriving DecidableEq, Repr

namespace TextUnit

/-- The part that a number from an escape stands for. -/
def ofCode (n : Nat) : TextUnit :=
  if 0xd800 ≤ n ∧ n < 0xe000 then half n else char (Char.ofNat n)

/-- The text, if the halves come in pairs. -/
def join? : List TextUnit → Option (List Char)
  | [] => some []
  | char c :: rest => (join? rest).map (c :: ·)
  | half a :: half b :: rest =>
    if a < 0xdc00 ∧ 0xdc00 ≤ b then
      (join? rest).map (Char.ofNat (0x10000 + (a - 0xd800) * 0x400 + (b - 0xdc00)) :: ·)
    else none
  | half _ :: _ => none

end TextUnit

/-- The character that a letter stands for after a backslash. -/
def escaped? : Char → Option Char
  | '"' => some '"'
  | '\\' => some '\\'
  | '/' => some '/'
  | 'b' => some '\x08'
  | 'f' => some '\x0c'
  | 'n' => some '\n'
  | 'r' => some '\r'
  | 't' => some '\t'
  | _ => none

/-- Reads the rest of a string up to its closing quotation mark. -/
def takeText : List Char → Option (List TextUnit × List Char)
  | [] => none
  | '"' :: rest => some ([], rest)
  | '\\' :: 'u' :: a :: b :: c :: d :: rest =>
    match Digit.number? 16 [a, b, c, d], takeText rest with
    | some n, some (units, rest) => some (.ofCode n :: units, rest)
    | _, _ => none
  | '\\' :: e :: rest =>
    match escaped? e, takeText rest with
    | some c, some (units, rest) => some (.char c :: units, rest)
    | _, _ => none
  | c :: rest =>
    if c.toNat < 0x20 ∨ c = '\\' then none
    else (takeText rest).map fun r => (.char c :: r.1, r.2)

theorem length_le_of_takeText {cs : List Char} {r : List TextUnit × List Char}
    (h : takeText cs = some r) : r.2.length ≤ cs.length := by
  fun_induction takeText cs generalizing r <;> grind [Option.map_eq_some_iff]

/-- A number as it is written. -/
structure NumberText where
  negative : Bool
  whole : List Char
  fraction : List Char
  /-- Whether the exponent is negative, and its digits. -/
  exponent : Option (Bool × List Char)
deriving DecidableEq, Repr

namespace NumberText

/-- Whether digits may stand before the point: there is one, and a zero stands alone. -/
def isWhole : List Char → Bool
  | [] => false
  | ['0'] => true
  | c :: _ => c != '0'

/-- The exponent that a text denotes, if any; `some none` stands for no exponent. -/
def exponent? : List Char → Option (Option (Bool × List Char))
  | [] => some none
  | c :: rest =>
    let (negative, digits) := Decimal.takeSign rest
    if (c = 'e' ∨ c = 'E') ∧ digits ≠ [] ∧ digits.all Decimal.isDigit then
      some (some (negative, digits))
    else none

/-- The digits after the point, if there is one, and what follows them. -/
def fraction? : List Char → Option (List Char × List Char)
  | '.' :: rest =>
    if rest.takeWhile Decimal.isDigit = [] then none
    else some (rest.takeWhile Decimal.isDigit, rest.dropWhile Decimal.isDigit)
  | rest => some ([], rest)

/-- Reads a number. -/
def ofChars? (cs : List Char) : Option NumberText := do
  let (negative, rest) := match cs with
    | '-' :: rest => (true, rest)
    | rest => (false, rest)
  let whole := rest.takeWhile Decimal.isDigit
  let (fraction, rest) ← fraction? (rest.dropWhile Decimal.isDigit)
  let exponent ← exponent? rest
  if isWhole whole then some ⟨negative, whole, fraction, exponent⟩ else none

end NumberText

/-- A token of JSON text. -/
inductive Token where
  | openList
  | closeList
  | openRecord
  | closeRecord
  | comma
  | colon
  | text (units : List TextUnit)
  | number (n : NumberText)
  | bool (value : Bool)
  | null
deriving DecidableEq, Repr

namespace Token

/-- Whether a character may stand between tokens. -/
def isBlank (c : Char) : Bool := c = ' ' || c = '\t' || c = '\n' || c = '\r'

/-- Whether a character occurs in numbers. -/
def inNumber (c : Char) : Bool :=
  Decimal.isDigit c || c = '-' || c = '+' || c = '.' || c = 'e' || c = 'E'

/-- Whether a character occurs in words. -/
def inWord (c : Char) : Bool := decide ('a' ≤ c ∧ c ≤ 'z')

/-- The token of a word. -/
def ofWord? (word : List Char) : Option Token :=
  match String.ofList word with
  | "null" => some null
  | "true" => some (bool true)
  | "false" => some (bool false)
  | _ => none

/-- The token of a punctuation mark. -/
def ofMark? : Char → Option Token
  | '[' => some openList
  | ']' => some closeList
  | '\x7b' => some openRecord
  | '\x7d' => some closeRecord
  | ',' => some comma
  | ':' => some colon
  | _ => none

/-- Reads the token that starts with a character. -/
def take? (c : Char) (cs : List Char) : Option (Token × List Char) :=
  if c = '"' then (takeText cs).map fun r => (text r.1, r.2)
  else if inWord c then
    (ofWord? (c :: cs.takeWhile inWord)).map fun t => (t, cs.dropWhile inWord)
  else if inNumber c then
    (NumberText.ofChars? (c :: cs.takeWhile inNumber)).map fun n =>
      (number n, cs.dropWhile inNumber)
  else (ofMark? c).map fun t => (t, cs)

theorem length_dropWhile_le (p : Char → Bool) (cs : List Char) :
    (cs.dropWhile p).length ≤ cs.length := by
  induction cs with
  | nil => simp
  | cons c cs ih =>
    rw [List.dropWhile_cons]
    split
    · exact Nat.le_succ_of_le ih
    · exact Nat.le_refl _

/-- What follows a token is no longer than what follows its first character. -/
theorem length_le_of_take? {c : Char} {cs : List Char} {r : Token × List Char}
    (h : take? c cs = some r) : r.2.length ≤ cs.length := by
  simp only [take?] at h
  split at h
  · obtain ⟨a, ha, rfl⟩ := Option.map_eq_some_iff.1 h
    exact length_le_of_takeText ha
  · split at h
    · obtain ⟨a, _, rfl⟩ := Option.map_eq_some_iff.1 h
      exact length_dropWhile_le _ _
    · split at h
      · obtain ⟨a, _, rfl⟩ := Option.map_eq_some_iff.1 h
        exact length_dropWhile_le _ _
      · obtain ⟨a, _, rfl⟩ := Option.map_eq_some_iff.1 h
        exact Nat.le_refl _

/-- The tokens of a text. -/
def scan : List Char → Option (List Token)
  | [] => some []
  | c :: cs =>
    if isBlank c then scan cs
    else match _h : take? c cs with
      | none => none
      | some (t, rest) => (scan rest).map (t :: ·)
termination_by cs => cs.length
decreasing_by
  · simp
  · have : rest.length ≤ cs.length := length_le_of_take? _h
    simp only [List.length_cons]
    omega

end Token

end Wayfinding.Json
