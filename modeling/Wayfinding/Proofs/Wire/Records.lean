import Mathlib.Tactic.Lemma
import Wayfinding.Wire.Record

/-!
# Records are read back

What is written as a number, as a record or as a sequence of records is read as that, whatever
follows it. The records are those that messages are made of: their tags fit into keys, and they are
no groups.

Main definition: `Record.Plain`.
Main lemmas: `Varint.decode?_encode`, `Token.take?_encode`, `Record.scan_encodeAll`.
-/

namespace Wayfinding.Wire

variable {n count tag : Nat}

namespace Varint

/-- A number below 128 takes one byte. -/
lemma encode_of_lt (h : n < 128) : encode n = [UInt8.ofNat n] := by
  rw [encode, if_pos h]

/-- A larger number begins with its lowest seven bits. -/
lemma encode_of_le (h : 128 ≤ n) :
    encode n = UInt8.ofNat (128 + n % 128) :: encode (n / 128) := by
  rw [encode, if_neg (Nat.not_lt.2 h)]

/-- A number that fits into some groups of seven bits is read back. -/
lemma decodeWithin_encode (h : n < Nat.pow 128 (count + 1)) (rest : List UInt8) :
    decodeWithin (count + 1) (encode n ++ rest) = some (n, rest) := by
  induction count generalizing n with
  | zero =>
    have hn : n < 128 := h
    have hbyte : (UInt8.ofNat n).toNat = n := by
      rw [UInt8.toNat_ofNat']
      omega
    simp only [encode_of_lt hn, List.singleton_append, decodeWithin, hbyte, if_pos hn]
  | succ count ih =>
    by_cases hn : n < 128
    · have hbyte : (UInt8.ofNat n).toNat = n := by
        rw [UInt8.toNat_ofNat']
        omega
      simp only [encode_of_lt hn, List.singleton_append, decodeWithin, hbyte, if_pos hn]
    · have hbyte : (UInt8.ofNat (128 + n % 128)).toNat = 128 + n % 128 := by
        rw [UInt8.toNat_ofNat']
        omega
      have hrest : n / 128 < Nat.pow 128 (count + 1) := by
        have hpow : n < Nat.pow 128 (count + 1) * 128 := h
        exact Nat.div_lt_of_lt_mul (by omega)
      have hge : ¬128 + n % 128 < 128 := by omega
      rw [encode_of_le (Nat.le_of_not_lt hn), List.cons_append, decodeWithin, hbyte, if_neg hge,
        ih hrest, Option.map_some]
      have hvalue : (128 + n % 128) % 128 + 128 * (n / 128) = n := by omega
      rw [hvalue]

/-- A number of 64 bits is read back. -/
lemma decode?_encode (h : n < UInt64.size) (rest : List UInt8) :
    decode? (encode n ++ rest) = some (n, rest) := by
  have hten : n < Nat.pow 128 (9 + 1) := Nat.lt_of_lt_of_le h (by decide)
  rw [decode?, decodeWithin_encode hten rest, Option.filter_some, if_pos (by simpa using h)]

end Varint

/-! ### One record -/

namespace Payload

variable {p : Payload}

/-- A payload whose length can be written. -/
def Sized (p : Payload) : Prop := p.encode.length < UInt64.size

/-- Bytes are not longer than their encoding. -/
lemma length_le_encode (b : List UInt8) : b.length ≤ (bytes b).encode.length := by
  rw [encode, List.length_append]
  exact Nat.le_add_left ..

/-- Bytes that can be sent have a length of 64 bits. -/
lemma Sized.bytes {b : List UInt8} (h : (Payload.bytes b).Sized) : b.length < UInt64.size :=
  Nat.lt_of_le_of_lt (length_le_encode b) h

/-- The wire type leaves room for the tag in a key. -/
lemma wireType_le (p : Payload) : p.wireType ≤ 5 := by
  cases p <;> simp [wireType]

end Payload

namespace Record

/-- A record that messages are made of: its tag fits into a key, its length can be written, and it
is no group. -/
structure Plain (r : Record) : Prop where
  tag_pos : 1 ≤ r.tag
  tag_lt : 8 * r.tag + 5 < UInt32.size
  ungrouped : r.payload ≠ .group
  sized : r.payload.Sized

/-- A record is written as its key and its payload. -/
lemma encode_of_ungrouped {r : Record} (h : r.payload ≠ .group) :
    r.encode = key r.tag r.payload.wireType ++ r.payload.encode := by
  rw [encode, if_neg h, List.append_nil]

end Record

namespace Token

/-- The first bytes are taken as they are. -/
lemma takeExactly_append {a : List UInt8} (h : a.length = n) (rest : List UInt8) :
    takeExactly n (a ++ rest) = some (a, rest) := by
  subst h
  simp [takeExactly]

/-- A payload is read back behind its key. -/
lemma ofKey?_encode {p : Payload} (hp : p ≠ .group) (hs : p.Sized) (rest : List UInt8) :
    ofKey? tag (p.encode ++ rest) p.wireType = some (.field ⟨tag, p⟩, rest) := by
  cases p with
  | varint v =>
    have hv := Varint.decode?_encode v.toNat_lt rest
    simp only [Payload.encode, Payload.wireType, ofKey?, hv, Option.map_some, UInt64.ofNat_toNat]
  | word64 w =>
    have hw := takeExactly_append (Word.length_littleEndian 8 w.toNat) rest
    have hback : Word.ofLittleEndian (Word.littleEndian 8 w.toNat) = w.toNat :=
      Word.ofLittleEndian_littleEndian w.toNat_lt
    simp only [Payload.encode, Payload.wireType, ofKey?, hw, Option.map_some, hback,
      UInt64.ofNat_toNat]
  | bytes b =>
    have hlength := Varint.decode?_encode hs.bytes (b ++ rest)
    have hb := takeExactly_append (a := b) rfl rest
    simp only [Payload.encode, Payload.wireType, ofKey?, List.append_assoc, hlength,
      Option.bind_some, hb, Option.map_some]
  | group => exact absurd rfl hp
  | word32 w =>
    have hw := takeExactly_append (Word.length_littleEndian 4 w.toNat) rest
    have hback : Word.ofLittleEndian (Word.littleEndian 4 w.toNat) = w.toNat :=
      Word.ofLittleEndian_littleEndian w.toNat_lt
    simp only [Payload.encode, Payload.wireType, ofKey?, hw, Option.map_some, hback,
      UInt32.ofNat_toNat]

/-- A record is read back. -/
lemma take?_encode {r : Record} (h : r.Plain) (rest : List UInt8) :
    take? (r.encode ++ rest) = some (.field r, rest) := by
  have hwire := r.payload.wireType_le
  have hlt := h.tag_lt
  have hpos := h.tag_pos
  have hkey32 : 8 * r.tag + r.payload.wireType < UInt32.size := by omega
  have hkey64 : 8 * r.tag + r.payload.wireType < UInt64.size :=
    Nat.lt_trans hkey32 (by decide)
  have hkey := Varint.decode?_encode hkey64 (r.payload.encode ++ rest)
  -- the lowest three bits of a key are its wire type
  have htag : (8 * r.tag + r.payload.wireType) / 8 = r.tag := by omega
  have htype : (8 * r.tag + r.payload.wireType) % 8 = r.payload.wireType := by omega
  rw [Record.encode_of_ungrouped h.ungrouped, List.append_assoc, take?, Record.key, hkey,
    Option.bind_some, if_pos ⟨hkey32, by omega⟩, htag, htype, ofKey?_encode h.ungrouped h.sized]

end Token

/-! ### Sequences of records -/

namespace Record

/-- A record that is read comes before the others. -/
lemma scan_of_field {limit : Nat} {bytes rest : List UInt8} {r : Record}
    (h : Token.take? bytes = some (.field r, rest)) :
    scan limit [] bytes = (scan limit [] rest).map (r :: ·) := by
  rw [scan]
  split
  · next hnil =>
    rw [hnil] at h
    cases h
  · split <;> simp_all

/-- Records are read back, however deep groups may nest. -/
lemma scan_encodeAll {limit : Nat} {rs : List Record} (h : ∀ r ∈ rs, r.Plain) :
    scan limit [] (encodeAll rs) = some rs := by
  induction rs with
  | nil =>
    rw [scan]
    rfl
  | cons r rs ih =>
    obtain ⟨hr, hrs⟩ := List.forall_mem_cons.1 h
    rw [encodeAll, List.flatMap_cons, scan_of_field (Token.take?_encode hr _)]
    rw [← encodeAll, ih hrs]
    rfl

/-- A payload is not longer than its record. -/
lemma length_payload_le (r : Record) : r.payload.encode.length ≤ r.encode.length := by
  simp only [encode, List.length_append]
  omega

/-- A record is not longer than all records. -/
lemma length_encode_le {r : Record} {rs : List Record} (h : r ∈ rs) :
    r.encode.length ≤ (encodeAll rs).length :=
  (List.sublist_flatten_of_mem (List.mem_map_of_mem h)).length_le

end Record

end Wayfinding.Wire
