import Wayfinding.Wire.Word

/-!
# Records of a message

A message on the wire is a sequence of records. A record has a tag and a payload in one of five
wire types; a group is bracketed by two keys of its tag and may hold further records.

Main definitions:
* `Varint.encode`, `Varint.decode?`: numbers in groups of seven bits, the lowest group first.
* `Record.encode`: the bytes of a record.
* `Record.scan`: the records of a byte string, with groups skipped as a whole.
-/

namespace Wayfinding.Wire

namespace Varint

/-- A number in groups of seven bits; every byte but the last has its highest bit set. -/
def encode (n : Nat) : List UInt8 :=
  if n < 128 then [UInt8.ofNat n] else UInt8.ofNat (128 + n % 128) :: encode (n / 128)
termination_by n
decreasing_by omega

/-- Reads a number of at most `count` bytes. -/
def decodeWithin : Nat → List UInt8 → Option (Nat × List UInt8)
  | 0, _ => none
  | _, [] => none
  | count + 1, b :: rest =>
    if b.toNat < 128 then some (b.toNat, rest)
    else (decodeWithin count rest).map fun r => (b.toNat % 128 + 128 * r.1, r.2)

/-- Reads a number of at most ten bytes that fits in 64 bits. -/
def decode? (bytes : List UInt8) : Option (Nat × List UInt8) :=
  (decodeWithin 10 bytes).filter fun r => r.1 < UInt64.size

theorem length_lt_of_decodeWithin {count : Nat} {bytes rest : List UInt8} {n : Nat}
    (h : decodeWithin count bytes = some (n, rest)) : rest.length < bytes.length := by
  induction count generalizing bytes n with
  | zero => simp [decodeWithin] at h
  | succ count ih =>
    cases bytes with
    | nil => simp [decodeWithin] at h
    | cons b bytes =>
      simp only [decodeWithin] at h
      split at h
      · simp_all
      · obtain ⟨r, hr, he⟩ := Option.map_eq_some_iff.1 h
        obtain ⟨m, tail⟩ := r
        simp only [Prod.mk.injEq] at he
        have := ih (he.2 ▸ hr)
        simp only [List.length_cons]
        omega

/-- Reading a number consumes at least one byte. -/
theorem length_lt_of_decode? {bytes rest : List UInt8} {n : Nat}
    (h : decode? bytes = some (n, rest)) : rest.length < bytes.length :=
  length_lt_of_decodeWithin (Option.eq_some_of_filter_eq_some h)

end Varint

/-- What a record carries. -/
inductive Payload where
  | varint (value : UInt64)
  | word64 (value : UInt64)
  | bytes (value : List UInt8)
  | group
  | word32 (value : UInt32)
deriving DecidableEq

namespace Payload

/-- The number of the wire type, which a key carries in its lowest three bits. -/
def wireType : Payload → Nat
  | varint _ => 0
  | word64 _ => 1
  | bytes _ => 2
  | group => 3
  | word32 _ => 5

/-- The bytes after the key. -/
def encode : Payload → List UInt8
  | varint v => Varint.encode v.toNat
  | word64 w => Word.littleEndian 8 w.toNat
  | bytes b => Varint.encode b.length ++ b
  | group => []
  | word32 w => Word.littleEndian 4 w.toNat

end Payload

/-- A tag with what it carries. -/
structure Record where
  tag : Nat
  payload : Payload
deriving DecidableEq

namespace Record

/-- The wire type that closes a group. -/
def closingType : Nat := 4

/-- The key of a record. -/
def key (tag wireType : Nat) : List UInt8 := Varint.encode (8 * tag + wireType)

/-- The bytes of a record; a group is written empty. -/
def encode (r : Record) : List UInt8 :=
  key r.tag r.payload.wireType ++ r.payload.encode ++
    if r.payload = .group then key r.tag closingType else []

/-- The bytes of a sequence of records. -/
def encodeAll (rs : List Record) : List UInt8 := rs.flatMap encode

end Record

/-- The parts that a byte string is read in. -/
inductive Token where
  | field (record : Record)
  | opening (tag : Nat)
  | closing (tag : Nat)
deriving DecidableEq

namespace Token

/-- The first `count` bytes, if there are that many, and the rest. -/
def takeExactly (count : Nat) (bytes : List UInt8) : Option (List UInt8 × List UInt8) :=
  if count ≤ bytes.length then some (bytes.take count, bytes.drop count) else none

/-- Reads what follows a key with the given tag and wire type. -/
def ofKey? (tag : Nat) (rest : List UInt8) : Nat → Option (Token × List UInt8)
  | 0 => (Varint.decode? rest).map fun r => (.field ⟨tag, .varint (UInt64.ofNat r.1)⟩, r.2)
  | 1 => (takeExactly 8 rest).map fun r =>
    (.field ⟨tag, .word64 (UInt64.ofNat (Word.ofLittleEndian r.1))⟩, r.2)
  | 2 => (Varint.decode? rest).bind fun r =>
    (takeExactly r.1 r.2).map fun s => (.field ⟨tag, .bytes s.1⟩, s.2)
  | 3 => some (.opening tag, rest)
  | 4 => some (.closing tag, rest)
  | 5 => (takeExactly 4 rest).map fun r =>
    (.field ⟨tag, .word32 (UInt32.ofNat (Word.ofLittleEndian r.1))⟩, r.2)
  | _ => none

/-- Reads a key of at most 32 bits with a tag above zero, and what follows it. -/
def take? (bytes : List UInt8) : Option (Token × List UInt8) :=
  (Varint.decode? bytes).bind fun r =>
    if r.1 < UInt32.size ∧ 8 ≤ r.1 then ofKey? (r.1 / 8) r.2 (r.1 % 8) else none

theorem length_le_of_takeExactly {count : Nat} {bytes : List UInt8} {r : List UInt8 × List UInt8}
    (h : takeExactly count bytes = some r) : r.2.length ≤ bytes.length := by
  simp only [takeExactly] at h
  split at h
  · simp only [Option.some.injEq] at h
    subst h
    simp
  · simp at h

theorem length_le_of_ofKey? {tag wireType : Nat} {rest : List UInt8} {r : Token × List UInt8}
    (h : ofKey? tag rest wireType = some r) : r.2.length ≤ rest.length := by
  unfold ofKey? at h
  split at h
  · obtain ⟨a, ha, rfl⟩ := Option.map_eq_some_iff.1 h
    exact Nat.le_of_lt (Varint.length_lt_of_decode? ha)
  · obtain ⟨a, ha, rfl⟩ := Option.map_eq_some_iff.1 h
    exact length_le_of_takeExactly ha
  · obtain ⟨a, ha, h⟩ := Option.bind_eq_some_iff.1 h
    obtain ⟨b, hb, rfl⟩ := Option.map_eq_some_iff.1 h
    have h1 := Varint.length_lt_of_decode? ha
    have h2 := length_le_of_takeExactly hb
    exact Nat.le_trans h2 (Nat.le_of_lt h1)
  · exact Option.some.inj h ▸ Nat.le_refl _
  · exact Option.some.inj h ▸ Nat.le_refl _
  · obtain ⟨a, ha, rfl⟩ := Option.map_eq_some_iff.1 h
    exact length_le_of_takeExactly ha
  · simp at h

/-- Reading a part consumes at least one byte. -/
theorem length_lt_of_take? {bytes : List UInt8} {r : Token × List UInt8}
    (h : take? bytes = some r) : r.2.length < bytes.length := by
  obtain ⟨a, ha, h⟩ := Option.bind_eq_some_iff.1 h
  split at h
  · exact Nat.lt_of_le_of_lt (length_le_of_ofKey? h) (Varint.length_lt_of_decode? ha)
  · simp at h

end Token

namespace Record

/-- The records of a byte string. Groups are matched by their tags, nest no deeper than `limit`
and are reported without what they hold; `opened` lists the tags of the groups that are still open,
the innermost first. -/
def scan (limit : Nat) (opened : List Nat) (bytes : List UInt8) : Option (List Record) :=
  if bytes = [] then if opened = [] then some [] else none
  else match _h : Token.take? bytes with
    | none => none
    | some (.field r, rest) =>
      if opened = [] then (scan limit opened rest).map (r :: ·)
      else if opened.length < limit then scan limit opened rest
      else none
    | some (.opening tag, rest) =>
      if opened = [] then (scan limit [tag] rest).map (⟨tag, .group⟩ :: ·)
      else if opened.length < limit then scan limit (tag :: opened) rest
      else none
    | some (.closing tag, rest) =>
      match opened with
      | [] => none
      | top :: opened => if top = tag then scan limit opened rest else none
termination_by bytes.length
decreasing_by all_goals exact Token.length_lt_of_take? ‹_›

end Record

end Wayfinding.Wire
