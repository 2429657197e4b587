import Wayfinding.Toml.Text
import Wayfinding.Toml.Value
import Wayfinding.Toml.Word

/-!
# Reading TOML

A document is a list of statements: headers, which name a table, and assignments to keys of the
table that was named last.

Main definitions:
* `Toml.takeValue?`: reads a value.
* `Toml.Statement.list?`: the statements of a text.
* `Toml.parse?`: the table of a text.
-/

namespace Wayfinding.Toml

/-- How many parts a key may have, and how many lists and tables may be nested. -/
def depthLimit : Nat := 79

/-! ### Keys -/

/-- Whether a character may stand in a key without quotation marks. -/
def inKey (c : Char) : Bool := c.isAlphanum || c == '-' || c == '_'

/-- Reads a part of a key. -/
def takeName? (cs : List Char) : Option (String × List Char) :=
  match takeShort? cs with
  | some (text, rest) => some (String.ofList text, rest)
  | none =>
    if cs.takeWhile inKey = [] then none
    else some (String.ofList (cs.takeWhile inKey), cs.dropWhile inKey)

/-- Reads a key of at most `limit` parts with dots between them, and the blanks around them. -/
def takeKey? : (limit : Nat) → List Char → Option (List String × List Char)
  | 0, _ => none
  | limit + 1, cs =>
    match takeName? (skipBlanks cs) with
    | none => none
    | some (name, rest) =>
      match skipBlanks rest with
      | '.' :: rest => (takeKey? limit rest).map fun r => (name :: r.1, r.2)
      | rest => some ([name], rest)

/-! ### Values -/

/-- The value of a word. -/
def ofWord? (word : List Char) : Option Value :=
  if word = "true".toList then some (.bool true)
  else if word = "false".toList then some (.bool false)
  else if Word.isMoment word then some .moment
  else ((Word.float? word).map .float).or ((Word.integer? word).map .integer)

/-- Reads a word; a time may follow a date after one space. -/
def takeWord? (cs : List Char) : Option (Value × List Char) :=
  let word := cs.takeWhile Word.inWord
  let rest := cs.dropWhile Word.inWord
  match rest with
  | ' ' :: more =>
    if Word.isDate word && Word.isZonedTime (more.takeWhile Word.inWord) then
      some (.moment, more.dropWhile Word.inWord)
    else (ofWord? word).map fun v => (v, rest)
  | _ => (ofWord? word).map fun v => (v, rest)

/-- Reads a string or a word. -/
def takeScalar? (cs : List Char) : Option (Value × List Char) :=
  match cs with
  | '"' :: _ | '\x27' :: _ =>
    (takeString? cs).map fun r => (.text (String.ofList r.1), r.2)
  | _ => takeWord? cs

/-- Reads the items of a list, at most `count`, and its closing bracket. -/
def takeItems (item : List Char → Option (Value × List Char)) :
    (count : Nat) → List Char → Option (List Value × List Char)
  | 0, _ => none
  | count + 1, cs =>
    match skipGaps false cs with
    | ']' :: rest => some ([], rest)
    | cs =>
      match item cs with
      | none => none
      | some (v, rest) =>
        match skipGaps false rest with
        | ',' :: rest => (takeItems item count rest).map fun r => (v :: r.1, r.2)
        | ']' :: rest => some ([v], rest)
        | _ => none

/-- Reads a key, an equals sign and a value. -/
def takePair? (item : List Char → Option (Value × List Char)) (cs : List Char) :
    Option ((List String × Value) × List Char) :=
  match takeKey? depthLimit cs with
  | some (path, '=' :: rest) => (item (skipBlanks rest)).map fun r => ((path, r.1), r.2)
  | _ => none

/-- Reads the pairs of a table on one line, at most `count`, and its closing brace. -/
def takePairs (item : List Char → Option (Value × List Char)) :
    (count : Nat) → List Char → Option (List (List String × Value) × List Char)
  | 0, _ => none
  | count + 1, cs =>
    match takePair? item cs with
    | none => none
    | some (pair, rest) =>
      match skipBlanks rest with
      | ',' :: rest => (takePairs item count rest).map fun r => (pair :: r.1, r.2)
      | '\x7d' :: rest => some ([pair], rest)
      | _ => none

/-- The table that pairs make. -/
def ofPairs? (pairs : List (List String × Value)) : Option Value :=
  (pairs.foldlM (fun node pair => Node.assign? pair.1 pair.2 node) Node.empty).map Node.value

/-- Reads the rest of a table on one line. -/
def takeTable? (item : List Char → Option (Value × List Char)) (cs : List Char) :
    Option (Value × List Char) :=
  match skipBlanks cs with
  | '\x7d' :: rest => some (.table [], rest)
  | cs =>
    match takePairs item cs.length cs with
    | some (pairs, rest) => (ofPairs? pairs).map fun v => (v, rest)
    | none => none

/-- Reads a value in which at most `depth` lists and tables are nested. -/
def takeValue? : (depth : Nat) → List Char → Option (Value × List Char)
  | depth + 1, '[' :: cs =>
    (takeItems (takeValue? depth) (cs.length + 1) cs).map fun r => (.list r.1, r.2)
  | depth + 1, '\x7b' :: cs => takeTable? (takeValue? depth) cs
  | _, cs => takeScalar? cs

/-! ### Statements -/

/-- A line of a document. -/
inductive Statement where
  | assign (path : List String) (value : Value)
  | openTable (path : List String)
  | openItem (path : List String)

namespace Statement

/-- Reads a header. -/
def takeHeader? (cs : List Char) : Option (Statement × List Char) :=
  match cs with
  | '[' :: cs =>
    match takeKey? depthLimit cs with
    | some (path, ']' :: ']' :: rest) => some (openItem path, rest)
    | _ => none
  | _ =>
    match takeKey? depthLimit cs with
    | some (path, ']' :: rest) => some (openTable path, rest)
    | _ => none

/-- Reads a statement. -/
def take? (cs : List Char) : Option (Statement × List Char) :=
  match cs with
  | '[' :: cs => takeHeader? cs
  | _ => (takePair? (takeValue? depthLimit) cs).map fun r => (assign r.1.1 r.1.2, r.2)

/-- Whether a line holds no statement. -/
def isVoid : List Char → Bool
  | '#' :: _ | '\n' :: _ | '\r' :: _ => true
  | _ => false

/-- Reads the statements on at most `count` lines. -/
def takeLines : (count : Nat) → List Char → Option (List Statement)
  | 0, _ => none
  | count + 1, cs =>
    match skipBlanks cs with
    | [] => some []
    | cs =>
      if isVoid cs then (endLine? cs).bind (takeLines count)
      else
        match take? cs with
        | none => none
        | some (statement, rest) =>
          ((endLine? rest).bind (takeLines count)).map (statement :: ·)

/-- The statements of a text. -/
def list? (cs : List Char) : Option (List Statement) := takeLines (cs.length + 1) cs

end Statement

/-! ### Documents -/

/-- A document that is being read: its table, and the path of the table that was named last. -/
structure Draft where
  root : Node := .empty
  current : List String := []

namespace Draft

/-- What a statement does. -/
def step? (d : Draft) : Statement → Option Draft
  | .assign path v =>
    (Node.update? false (Node.assign? path v) d.current d.root).map fun root => { d with root }
  | .openTable path => (d.root.openTable? path).map fun root => ⟨root, path⟩
  | .openItem path => (d.root.openItem? path).map fun root => ⟨root, path⟩

end Draft

/-- A text without the mark of its byte order. -/
def dropMark : List Char → List Char
  | '\ufeff' :: rest => rest
  | cs => cs

/-- The table of a text. -/
def parse? (s : String) : Option Value := do
  let statements ← Statement.list? (dropMark s.toList)
  let draft ← statements.foldlM Draft.step? {}
  return draft.root.value

end Wayfinding.Toml
