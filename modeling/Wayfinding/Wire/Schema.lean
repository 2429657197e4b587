import Wayfinding.Json.Value
import Wayfinding.Text.Utf8
import Wayfinding.Wire.Record

/-!
# Message schemas

A schema lists the fields of a message. Each field has a name, a tag and a presence: a plain field
is left out when it holds its blank value, an optional one is written whenever it is present, and a
repeated one is written once for each item. One schema gives the bytes of a message, its reader and
its JSON form.

Main definitions:
* `Scalar`: how a value without parts is carried.
* `Field.plain`, `Field.optional`, `Field.message`, `Field.repeated`: the presences of a field.
* `Schema.encode`, `Schema.decode?`, `Schema.json`: the three uses of a schema.

When a field occurs more than once, the last scalar wins, the occurrences of an optional message
are merged and those of a repeated message are collected. Records with unknown tags are skipped.
-/

namespace Wayfinding.Wire

/-- How a value without parts is carried in a payload. -/
structure Scalar (α : Type) where
  /-- The value of an absent plain field. -/
  blank : α
  /-- Whether a plain field with this value is left out. -/
  isBlank : α → Bool
  /-- The payload that carries a value. -/
  put : α → Payload
  /-- The value that a payload carries, if it has the right wire type. -/
  take? : Payload → Option α
  /-- The value in JSON. -/
  json : α → JsonValue

namespace Scalar

/-- Double-precision numbers are carried by their word; both zeros are blank. -/
def double : Scalar Binary64 where
  blank := 0
  isBlank x := decide (x.magnitude = 0)
  put x := .word64 x.bits
  take?
    | .word64 w => some ⟨w⟩
    | _ => none
  json := .real

/-- Single-precision numbers are carried by their word. -/
def single : Scalar Binary32 where
  blank := ⟨0⟩
  isBlank x := decide (x.bits.toNat % Binary32.signWord = 0)
  put x := .word32 x.bits
  take?
    | .word32 w => some ⟨w⟩
    | _ => none
  json x := .real x.widen

/-- Signed 32-bit integers are carried sign-extended to 64 bits and read from the lowest 32. -/
def int32 : Scalar Int32 where
  blank := 0
  isBlank n := decide (n = 0)
  put n := .varint n.toInt64.toUInt64
  take?
    | .varint v => some v.toUInt32.toInt32
    | _ => none
  json n := .integer n.toInt

/-- Enumerations are carried as signed 32-bit integers; undefined numbers are kept. -/
def enumeration : Scalar Int32 := int32

/-- Unsigned 32-bit integers are read from the lowest 32 bits. -/
def uint32 : Scalar UInt32 where
  blank := 0
  isBlank n := decide (n = 0)
  put n := .varint n.toUInt64
  take?
    | .varint v => some v.toUInt32
    | _ => none
  json n := .integer n.toNat

/-- Unsigned 64-bit integers. -/
def uint64 : Scalar UInt64 where
  blank := 0
  isBlank n := decide (n = 0)
  put n := .varint n
  take?
    | .varint v => some v
    | _ => none
  json n := .integer n.toNat

/-- Every number but zero is read as true. -/
def bool : Scalar Bool where
  blank := false
  isBlank b := !b
  put b := .varint (if b then 1 else 0)
  take?
    | .varint v => some (decide (v ≠ 0))
    | _ => none
  json := .bool

/-- Texts are carried in UTF-8. -/
def text : Scalar String where
  blank := ""
  isBlank s := decide (s = "")
  put s := .bytes (Utf8.encode s)
  take?
    | .bytes b => Utf8.decode? b
    | _ => none
  json := .text

end Scalar

/-- A field of the messages of type `M`. -/
structure Field (M : Type) where
  name : String
  tag : Nat
  /-- The payloads that a message has in this field. -/
  put : M → List Payload
  /-- Adds a payload to a message, inside which messages and groups may nest to a given depth. -/
  merge : Nat → Payload → M → Option M
  /-- The field in JSON. -/
  json : M → JsonValue

/-- The fields of the messages of type `M`, in the order of their tags. -/
structure Schema (M : Type) where
  /-- The message without any record. -/
  blank : M
  fields : List (Field M)

namespace Schema

variable {M : Type}

/-- The records of a message. -/
def records (s : Schema M) (m : M) : List Record :=
  s.fields.flatMap fun f => (f.put m).map fun p => ⟨f.tag, p⟩

/-- The bytes of a message. -/
def encode (s : Schema M) (m : M) : List UInt8 := Record.encodeAll (s.records m)

/-- Adds one record to a message. -/
def mergeRecord (s : Schema M) (depth : Nat) (m : M) (r : Record) : Option M :=
  match s.fields.find? (fun f => f.tag = r.tag) with
  | some f => f.merge depth r.payload m
  | none => some m

/-- Adds records to a message, in their order. -/
def mergeRecords (s : Schema M) (depth : Nat) (m : M) (rs : List Record) : Option M :=
  rs.foldlM (s.mergeRecord depth) m

/-- Adds the records of a byte string to a message. -/
def mergeBytes (s : Schema M) (depth : Nat) (m : M) (bytes : List UInt8) : Option M :=
  (Record.scan depth [] bytes).bind (s.mergeRecords depth m)

/-- How deep messages and groups may nest. -/
def nestingLimit : Nat := 100

/-- Reads a message. -/
def decode? (s : Schema M) (bytes : List UInt8) : Option M :=
  s.mergeBytes nestingLimit s.blank bytes

/-- A message in JSON, with every field. -/
def json (s : Schema M) (m : M) : JsonValue :=
  .record (s.fields.map fun f => (f.name, f.json m))

end Schema

namespace Field

variable {M α S : Type}

/-- A field that is left out when it holds its blank value. -/
def plain (name : String) (tag : Nat) (kind : Scalar α) (get : M → α) (set : α → M → M) :
    Field M where
  name := name
  tag := tag
  put m := if kind.isBlank (get m) then [] else [kind.put (get m)]
  merge _ p m := (kind.take? p).map fun a => set a m
  json m := kind.json (get m)

/-- A field that is written whenever it is present. -/
def optional (name : String) (tag : Nat) (kind : Scalar α) (get : M → Option α)
    (set : Option α → M → M) : Field M where
  name := name
  tag := tag
  put m := ((get m).map kind.put).toList
  merge _ p m := (kind.take? p).map fun a => set (some a) m
  json m := .ofOption ((get m).map kind.json)

/-- Adds the records of a nested message to a message of its schema. -/
def mergeNested (schema : Schema S) (depth : Nat) (start : S) : Payload → Option S
  | .bytes b => schema.mergeBytes (depth - 1) start b
  | _ => none

/-- A field that holds a message or nothing. -/
def message (name : String) (tag : Nat) (schema : Schema S) (get : M → Option S)
    (set : Option S → M → M) : Field M where
  name := name
  tag := tag
  put m := ((get m).map fun s => Payload.bytes (schema.encode s)).toList
  merge depth p m :=
    (mergeNested schema depth ((get m).getD schema.blank) p).map fun s => set (some s) m
  json m := .ofOption ((get m).map schema.json)

/-- A field that holds a list of messages. -/
def repeated (name : String) (tag : Nat) (schema : Schema S) (get : M → List S)
    (set : List S → M → M) : Field M where
  name := name
  tag := tag
  put m := (get m).map fun s => .bytes (schema.encode s)
  merge depth p m := (mergeNested schema depth schema.blank p).map fun s => set (get m ++ [s]) m
  json m := .list ((get m).map schema.json)

end Field

end Wayfinding.Wire
