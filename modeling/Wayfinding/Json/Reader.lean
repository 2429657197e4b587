import Wayfinding.Json.Token

/-!
# Reading JSON text

JSON text is read by a machine that keeps the lists and records that are still open. Numbers stay as
they are written, and keys and strings in their parts, so that each reader decides what it accepts.

Main definitions:
* `Json.Tree`: a value as it is written.
* `Json.Reading.step`: what a token does to an unfinished reading.
* `Json.Tree.parse?`: the value of a text.
-/

namespace Wayfinding.Json

/-- A JSON value as it is written. -/
inductive Tree where
  | null
  | bool (value : Bool)
  | number (n : NumberText)
  | text (units : List TextUnit)
  | list (items : List Tree)
  | record (members : List (List TextUnit × Tree))
deriving Inhabited

/-- A list or record that is still open, with what it holds so far, the latest first. -/
inductive Frame where
  | list (items : List Tree)
  | record (members : List (List TextUnit × Tree)) (key : List TextUnit)

/-- An unfinished reading inside some open frames, the innermost first. -/
inductive Reading where
  /-- A value must follow. -/
  | value (frames : List Frame)
  /-- The first item of a list or its end must follow. -/
  | firstItem (frames : List Frame)
  /-- The first key of a record or its end must follow. -/
  | firstKey (frames : List Frame)
  /-- A key must follow. -/
  | key (members : List (List TextUnit × Tree)) (frames : List Frame)
  /-- A colon must follow the key. -/
  | colon (members : List (List TextUnit × Tree)) (key : List TextUnit) (frames : List Frame)
  /-- A comma or the end of the innermost frame must follow a value. -/
  | after (v : Tree) (frames : List Frame)

namespace Reading

/-- A value begins with a token. -/
def start (frames : List Frame) : Token → Option Reading
  | .openList => some (firstItem frames)
  | .openRecord => some (firstKey frames)
  | .text units => some (after (.text units) frames)
  | .number n => some (after (.number n) frames)
  | .bool b => some (after (.bool b) frames)
  | .null => some (after .null frames)
  | _ => none

/-- What a token does to an unfinished reading. -/
def step : Reading → Token → Option Reading
  | value frames, t => start frames t
  | firstItem frames, .closeList => some (after (.list []) frames)
  | firstItem frames, t => start (.list [] :: frames) t
  | firstKey frames, .closeRecord => some (after (.record []) frames)
  | firstKey frames, .text k => some (colon [] k frames)
  | key members frames, .text k => some (colon members k frames)
  | colon members k frames, .colon => some (value (.record members k :: frames))
  | after v (.list items :: frames), .comma => some (value (.list (v :: items) :: frames))
  | after v (.list items :: frames), .closeList =>
    some (after (.list (v :: items).reverse) frames)
  | after v (.record members k :: frames), .comma => some (key ((k, v) :: members) frames)
  | after v (.record members k :: frames), .closeRecord =>
    some (after (.record ((k, v) :: members).reverse) frames)
  | _, _ => none

end Reading

namespace Tree

/-- The value of a text. -/
def parse? (text : String) : Option Tree := do
  let tokens ← Token.scan text.toList
  match ← tokens.foldlM Reading.step (.value []) with
  | .after v [] => some v
  | _ => none

end Tree

end Wayfinding.Json
