import Wayfinding.Number.Binary64

/-!
# Tables in TOML

A document builds one table. Each of its statements adds to it, and none may define again what
another one has defined.

Main definitions:
* `Toml.Value`: a value that has been read.
* `Toml.Node`: a table that is being built.
* `Node.assign?`, `Node.openTable?`, `Node.openItem?`: what the three kinds of statements do.
-/

namespace Wayfinding.Toml

/-- A value. -/
inductive Value where
  | text (s : String)
  | integer (n : Int)
  | float (x : Binary64)
  | bool (b : Bool)
  /-- A date, a time or both. -/
  | moment
  | list (items : List Value)
  | table (members : List (String × Value))
deriving Inhabited

/-- How a table came to be. -/
inductive Origin where
  /-- By a header of its own, or as the table of the whole document. -/
  | header
  /-- By the header of a table in it. -/
  | implied
  /-- By a key with dots. -/
  | dotted
deriving DecidableEq

/-- A part of a table that is being built. -/
inductive Node where
  | leaf (value : Value)
  | table (origin : Origin) (members : List (String × Node))
  /-- The tables that headers have added to a list, the newest first. -/
  | tables (items : List Node)

namespace Node

mutual

/-- The value that has been built. -/
def value : Node → Value
  | leaf v => v
  | table _ members => .table (values members)
  | tables items => .list (valueList items).reverse

/-- The values of members. -/
def values : List (String × Node) → List (String × Value)
  | [] => []
  | (key, node) :: rest => (key, value node) :: values rest

/-- The values of a list. -/
def valueList : List Node → List Value
  | [] => []
  | node :: rest => value node :: valueList rest

end

/-- Members with the value of a key replaced. -/
def replace (key : String) (node : Node) (members : List (String × Node)) : List (String × Node) :=
  members.map fun m => if m.1 = key then (key, node) else m

/-- Changes the table at a path. Tables that are missing on the way are made; a path of a key with
dots enters no table that has a header, and a path that enters a list goes to its newest table. -/
def update? (dotted : Bool) (f : Node → Option Node) : List String → Node → Option Node
  | [], node => f node
  | key :: path, table origin members =>
    match members.lookup key with
    | none =>
      (update? dotted f path (table (if dotted then .dotted else .implied) [])).map fun child =>
        table origin (members ++ [(key, child)])
    | some (table inner ms) =>
      if dotted ∧ inner = .header then none
      else (update? dotted f path (table inner ms)).map fun child =>
        table origin (replace key child members)
    | some (tables (newest :: earlier)) =>
      (update? dotted f path newest).map fun child =>
        table origin (replace key (tables (child :: earlier)) members)
    | some _ => none
  | _ :: _, _ => none

/-- Adds a member to a table that has none of its name. -/
def add? (key : String) (v : Value) : Node → Option Node
  | table origin members =>
    if (members.lookup key).isNone then some (table origin (members ++ [(key, leaf v)])) else none
  | _ => none

/-- Whether a table was made by a key with dots. -/
def isDotted : Node → Bool
  | table .dotted _ => true
  | _ => false

/-- Gives a value to a key with dots; all its tables but the first are made by such keys. -/
def assign? (path : List String) (v : Value) (node : Node) : Option Node :=
  match path.getLast? with
  | none => none
  | some key =>
    let way := path.dropLast
    update? true (fun t => if t.isDotted = !way.isEmpty then t.add? key v else none) way node

/-- Makes a table for a header, or gives a header to one that is only implied. -/
def define? (key : String) : Node → Option Node
  | table origin members =>
    match members.lookup key with
    | none => some (table origin (members ++ [(key, table .header [])]))
    | some (table .implied inner) =>
      some (table origin (replace key (table .header inner) members))
    | some _ => none
  | _ => none

/-- Adds a table to the list of a key, which nothing but headers has made. -/
def append? (key : String) : Node → Option Node
  | table origin members =>
    match members.lookup key with
    | none => some (table origin (members ++ [(key, tables [table .header []])]))
    | some (tables items) =>
      some (table origin (replace key (tables (table .header [] :: items)) members))
    | some _ => none
  | _ => none

/-- Starts a table at the path of a header. -/
def openTable? (path : List String) (node : Node) : Option Node :=
  path.getLast?.bind fun key => update? false (define? key) path.dropLast node

/-- Starts a table in the list at the path of a header. -/
def openItem? (path : List String) (node : Node) : Option Node :=
  path.getLast?.bind fun key => update? false (append? key) path.dropLast node

/-- The table of an empty document. -/
def empty : Node := table .header []

end Node

end Wayfinding.Toml
