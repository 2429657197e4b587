import Wayfinding.Text.Digit

/-!
# Text in TOML

Blanks, line breaks, comments and the four kinds of strings.

Main definitions:
* `Toml.skipGaps`: what may stand between the items of a list.
* `Toml.endLine?`: what may follow a statement on its line.
* `Toml.takeString?`: a string of any kind.
-/

namespace Wayfinding.Toml

/-! ### Blanks and comments -/

/-- Whether a character is a blank. -/
def isBlank (c : Char) : Bool := c == ' ' || c == '\t'

/-- A text without the blanks at its start. -/
def skipBlanks (cs : List Char) : List Char := cs.dropWhile isBlank

/-- Whether a character may stand in comments and strings: no control character but the tab. -/
def isPlain (c : Char) : Bool := c == '\t' || (0x20 ≤ c.toNat && c.toNat != 0x7f)

/-- Reads a line break. -/
def takeBreak? : List Char → Option (List Char)
  | '\n' :: rest => some rest
  | '\r' :: '\n' :: rest => some rest
  | _ => none

/-- A text without a line break at its start. -/
def dropBreak (cs : List Char) : List Char := (takeBreak? cs).getD cs

/-- A text without a comment at its start. -/
def dropComment : List Char → List Char
  | '#' :: rest => rest.dropWhile isPlain
  | cs => cs

/-- Reads blanks, an optional comment and the end of the line. -/
def endLine? (cs : List Char) : Option (List Char) :=
  match dropComment (skipBlanks cs) with
  | [] => some []
  | rest => takeBreak? rest

/-- A text without the blanks, line breaks and comments at its start; `commented` tells that it
starts inside a comment. -/
def skipGaps (commented : Bool) : List Char → List Char
  | [] => []
  | '\n' :: rest => skipGaps false rest
  | '\r' :: '\n' :: rest => skipGaps false rest
  | c :: rest =>
    if commented then if isPlain c then skipGaps true rest else c :: rest
    else if isBlank c then skipGaps false rest
    else if c = '#' then skipGaps true rest
    else c :: rest

/-! ### Escapes -/

/-- The character that a letter stands for after a backslash. -/
def escaped? : Char → Option Char
  | '"' => some '"'
  | '\\' => some '\\'
  | 'b' => some '\x08'
  | 'f' => some '\x0c'
  | 'n' => some '\n'
  | 'r' => some '\r'
  | 't' => some '\t'
  | _ => none

/-- The character whose code is written in hexadecimal digits. -/
def coded? (digits : List Char) : Option Char :=
  (Digit.number? 16 digits).bind fun n =>
    if n < 0xd800 ∨ (0xdfff < n ∧ n < 0x110000) then some (Char.ofNat n) else none

/-- A character before a string that has been read. -/
def before (c : Option Char) (r : Option (List Char × List Char)) :
    Option (List Char × List Char) :=
  match c, r with
  | some c, some (text, rest) => some (c :: text, rest)
  | _, _ => none

/-! ### Strings -/

/-- Reads the rest of a string with escapes, up to its quotation mark. -/
def takeQuoted : List Char → Option (List Char × List Char)
  | [] => none
  | '"' :: rest => some ([], rest)
  | '\\' :: 'u' :: a :: b :: c :: d :: rest => before (coded? [a, b, c, d]) (takeQuoted rest)
  | '\\' :: 'U' :: a :: b :: c :: d :: e :: f :: g :: h :: rest =>
    before (coded? [a, b, c, d, e, f, g, h]) (takeQuoted rest)
  | '\\' :: e :: rest => before (escaped? e) (takeQuoted rest)
  | c :: rest => if isPlain c && c != '\\' then before (some c) (takeQuoted rest) else none

/-- Whether a backslash before the text joins two lines. -/
def joinsLines (cs : List Char) : Bool := (takeBreak? (skipBlanks cs)).isSome

/-- Reads the rest of a string with escapes over several lines, up to three quotation marks; up to
two more belong to the string. While lines are `joining`, blanks and line breaks are left out. -/
def takeQuotedLines (joining : Bool) : List Char → Option (List Char × List Char)
  | [] => none
  | '"' :: '"' :: '"' :: '"' :: '"' :: rest => some (['"', '"'], rest)
  | '"' :: '"' :: '"' :: '"' :: rest => some (['"'], rest)
  | '"' :: '"' :: '"' :: rest => some ([], rest)
  | '\\' :: 'u' :: a :: b :: c :: d :: rest =>
    before (coded? [a, b, c, d]) (takeQuotedLines false rest)
  | '\\' :: 'U' :: a :: b :: c :: d :: e :: f :: g :: h :: rest =>
    before (coded? [a, b, c, d, e, f, g, h]) (takeQuotedLines false rest)
  | '\\' :: e :: rest =>
    if joinsLines (e :: rest) then takeQuotedLines true (e :: rest)
    else before (escaped? e) (takeQuotedLines false rest)
  | '\r' :: '\n' :: rest =>
    if joining then takeQuotedLines true rest
    else before (some '\n') (takeQuotedLines false rest)
  | '\n' :: rest =>
    if joining then takeQuotedLines true rest
    else before (some '\n') (takeQuotedLines false rest)
  | c :: rest =>
    if joining && isBlank c then takeQuotedLines true rest
    else if isPlain c && c != '\\' then before (some c) (takeQuotedLines false rest)
    else none

/-- Reads the rest of a string without escapes, up to its apostrophe. -/
def takeLiteral : List Char → Option (List Char × List Char)
  | [] => none
  | '\x27' :: rest => some ([], rest)
  | c :: rest => if isPlain c then before (some c) (takeLiteral rest) else none

/-- Reads the rest of a string without escapes over several lines, up to three apostrophes; up to
two more belong to the string. -/
def takeLiteralLines : List Char → Option (List Char × List Char)
  | [] => none
  | '\x27' :: '\x27' :: '\x27' :: '\x27' :: '\x27' :: rest => some (['\x27', '\x27'], rest)
  | '\x27' :: '\x27' :: '\x27' :: '\x27' :: rest => some (['\x27'], rest)
  | '\x27' :: '\x27' :: '\x27' :: rest => some ([], rest)
  | '\r' :: '\n' :: rest => before (some '\n') (takeLiteralLines rest)
  | '\n' :: rest => before (some '\n') (takeLiteralLines rest)
  | c :: rest => if isPlain c then before (some c) (takeLiteralLines rest) else none

/-- Reads a string on one line. -/
def takeShort? : List Char → Option (List Char × List Char)
  | '"' :: rest => takeQuoted rest
  | '\x27' :: rest => takeLiteral rest
  | _ => none

/-- Reads a string of any kind. -/
def takeString? : List Char → Option (List Char × List Char)
  | '"' :: '"' :: '"' :: rest => takeQuotedLines false (dropBreak rest)
  | '\x27' :: '\x27' :: '\x27' :: rest => takeLiteralLines (dropBreak rest)
  | cs => takeShort? cs

end Wayfinding.Toml
