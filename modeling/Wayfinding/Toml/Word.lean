import Wayfinding.Number.Decimal
import Wayfinding.Text.Digit

/-!
# Words in TOML

A value that is neither a string nor a list nor a table is a word: a number, a truth value, a date
or a time.

Main definitions:
* `Word.integer?`: an integer of 64 bits in one of four bases.
* `Word.float?`: a floating-point number.
* `Word.isMoment`: a date, a time or both.
-/

namespace Wayfinding.Toml.Word

/-- Whether a character occurs in words. -/
def inWord (c : Char) : Bool :=
  c.isAlphanum || c == '+' || c == '-' || c == '_' || c == '.' || c == ':'

/-! ### Integers -/

/-- Digits without the underscores between them; each underscore stands between two digits. -/
def ungrouped? (isDigit : Char → Bool) (cs : List Char) : Option (List Char) :=
  let groups := cs.splitOn '_'
  if groups.all fun g => !g.isEmpty && g.all isDigit then some groups.flatten else none

/-- Whether digits make a decimal number: a leading zero stands alone. -/
def isDecimal : List Char → Bool
  | '0' :: _ :: _ => false
  | _ => true

/-- Whether an integer fits in 64 bits with a sign. -/
def fits (n : Int) : Bool := decide (Int64.minValue.toInt ≤ n ∧ n ≤ Int64.maxValue.toInt)

/-- A number in a base that is named by a letter after a zero. -/
def based? (base : Nat) (cs : List Char) : Option Int :=
  (ungrouped? (Digit.isIn base) cs).map fun digits => (Digit.number base digits : Int)

/-- A decimal number with an optional sign. -/
def decimal? (cs : List Char) : Option Int :=
  let (negative, rest) := Decimal.takeSign cs
  (ungrouped? (Digit.isIn 10) rest).bind fun digits =>
    let n := Digit.number 10 digits
    if isDecimal rest then some (if negative then -(n : Int) else n)
    else none

/-- The integer that a word writes. -/
def integer? (cs : List Char) : Option Int :=
  (match cs with
    | '0' :: 'x' :: rest => based? 16 rest
    | '0' :: 'o' :: rest => based? 8 rest
    | '0' :: 'b' :: rest => based? 2 rest
    | _ => decimal? cs).filter fits

/-! ### Floating-point numbers -/

/-- Whether a character belongs to grouped digits. -/
def inDigits (c : Char) : Bool := Decimal.isDigit c || c == '_'

/-- The digits behind a point, if there is one, and what follows. -/
def fraction? : List Char → Option (List Char × List Char)
  | '.' :: rest =>
    (ungrouped? Decimal.isDigit (rest.takeWhile inDigits)).map fun digits =>
      ('.' :: digits, rest.dropWhile inDigits)
  | cs => some ([], cs)

/-- The exponent, if there is one. -/
def exponent? : List Char → Option (List Char)
  | [] => some []
  | c :: rest =>
    let (negative, digits) := Decimal.takeSign rest
    if c = 'e' ∨ c = 'E' then
      (ungrouped? Decimal.isDigit digits).map fun digits =>
        'e' :: (if negative then ['-'] else []) ++ digits
    else none

/-- The number that digits with a point or an exponent write; none is too large upwards. -/
def finite? (cs : List Char) : Option Binary64 := do
  let (negative, rest) := Decimal.takeSign cs
  let whole := rest.takeWhile inDigits
  let digits ← ungrouped? Decimal.isDigit whole
  let (fraction, rest) ← fraction? (rest.dropWhile inDigits)
  let exponent ← exponent? rest
  let x ← Binary64.parse? (Decimal.signChars negative ++ digits ++ fraction ++ exponent)
  if isDecimal whole ∧ (fraction ≠ [] ∨ exponent ≠ []) ∧ x ≠ .infinity false then some x else none

/-- The floating-point number that a word writes. -/
def float? (cs : List Char) : Option Binary64 :=
  let (negative, rest) := Decimal.takeSign cs
  match String.ofList rest with
  | "inf" => some (NonFinite.infinity.toBinary64 negative)
  | "nan" => some (NonFinite.nan.toBinary64 negative)
  | _ => finite? cs

/-! ### Dates and times -/

/-- The number of two digits. -/
def two? (a b : Char) : Option Nat :=
  if Decimal.isDigit a ∧ Decimal.isDigit b then some (Decimal.ofDigits [a, b]) else none

/-- How many days a month has. -/
def daysIn (year month : Nat) : Nat :=
  if month = 2 then if year % 4 = 0 ∧ (year % 100 ≠ 0 ∨ year % 400 = 0) then 29 else 28
  else if month = 4 ∨ month = 6 ∨ month = 9 ∨ month = 11 then 30
  else 31

/-- Whether a word is a date. -/
def isDate : List Char → Bool
  | [a, b, c, d, '-', m, n, '-', x, y] =>
    match two? a b, two? c d, two? m n, two? x y with
    | some century, some year, some month, some day =>
      1 ≤ month && month ≤ 12 && 1 ≤ day && day ≤ daysIn (100 * century + year) month
    | _, _, _, _ => false
  | _ => false

/-- Whether two digits write an hour, and two others a minute. -/
def isClock (h i m n : Char) : Bool := (two? h i).any (· ≤ 23) && (two? m n).any (· ≤ 59)

/-- Whether a word is a fraction of a second, or nothing. -/
def isFraction : List Char → Bool
  | [] => true
  | '.' :: rest => !rest.isEmpty && rest.all Decimal.isDigit
  | _ => false

/-- Whether a word is the time of a day. -/
def isTime : List Char → Bool
  | h :: i :: ':' :: m :: n :: ':' :: s :: t :: rest =>
    isClock h i m n && (two? s t).any (· ≤ 60) && isFraction rest
  | _ => false

/-- Whether a word is the offset of a time zone, or nothing. -/
def isOffset : List Char → Bool
  | [] | ['Z'] | ['z'] => true
  | [s, h, i, ':', m, n] => (s == '+' || s == '-') && isClock h i m n
  | _ => false

/-- Whether a character occurs in the time of a day. -/
def inTime (c : Char) : Bool := Decimal.isDigit c || c == ':' || c == '.'

/-- Whether a word is what follows a date: a time, with an optional offset. -/
def isZonedTime (cs : List Char) : Bool :=
  isTime (cs.takeWhile inTime) && isOffset (cs.dropWhile inTime)

/-- Whether a word is a date, a time or both. -/
def isMoment (cs : List Char) : Bool :=
  isTime cs || isDate cs || (isDate (cs.take 10) && match cs.drop 10 with
    | 'T' :: rest | 't' :: rest => isZonedTime rest
    | _ => false)

end Wayfinding.Toml.Word
