/-!
# Text as bytes

Texts travel as UTF-8. `Utf8.encode` writes a text, `Utf8.decode?` accepts exactly the valid
encodings, and `Utf8.lossy` shows any bytes, with a replacement character for each part that is
not valid.
-/

namespace Wayfinding.Utf8

/-- The UTF-8 bytes of a text. -/
def encode (s : String) : List UInt8 := s.toUTF8.data.toList

/-- The text that the bytes encode, if they are valid UTF-8. -/
def decode? (bytes : List UInt8) : Option String := String.fromUTF8? ⟨bytes.toArray⟩

/-- Whether a byte continues a character. -/
def isContinuation (b : UInt8) : Bool := decide (0x80 ≤ b ∧ b ≤ 0xbf)

/-- For a leading byte: how many bytes continue the character, and the interval in which the first
of them lies. -/
def lead? (b : UInt8) : Option (Nat × UInt8 × UInt8) :=
  if b < 0x80 then some (0, 0, 0)
  else if b < 0xc2 then none
  else if b < 0xe0 then some (1, 0x80, 0xbf)
  else if b = 0xe0 then some (2, 0xa0, 0xbf)
  else if b = 0xed then some (2, 0x80, 0x9f)
  else if b < 0xf0 then some (2, 0x80, 0xbf)
  else if b = 0xf0 then some (3, 0x90, 0xbf)
  else if b < 0xf4 then some (3, 0x80, 0xbf)
  else if b = 0xf4 then some (3, 0x80, 0x8f)
  else none

/-- The character that a complete sequence of bytes encodes. -/
def assemble (b : UInt8) (continuation : List UInt8) : Char :=
  let leading := match continuation.length with
    | 0 => b.toNat
    | 1 => b.toNat % 0x20
    | 2 => b.toNat % 0x10
    | _ => b.toNat % 0x08
  Char.ofNat (continuation.foldl (fun n c => n * 0x40 + c.toNat % 0x40) leading)

/-- How many of the following bytes belong to the character that a leading byte starts. -/
def wellFormedLength (low high : UInt8) (need : Nat) (rest : List UInt8) : Nat :=
  match rest.take need with
  | [] => 0
  | first :: more =>
    if low ≤ first ∧ first ≤ high then 1 + (more.takeWhile isContinuation).length else 0

/-- Reads any bytes as text; each maximal part that starts a character without completing it, and
each byte that starts none, becomes one replacement character. -/
def lossy : List UInt8 → List Char
  | [] => []
  | b :: rest =>
    match lead? b with
    | none => '\ufffd' :: lossy rest
    | some (need, low, high) =>
      let found := wellFormedLength low high need rest
      let c := if found = need then assemble b (rest.take need) else '\ufffd'
      c :: lossy (rest.drop found)
termination_by bytes => bytes.length
decreasing_by all_goals simp only [List.length_cons, List.length_drop]; omega

end Wayfinding.Utf8
