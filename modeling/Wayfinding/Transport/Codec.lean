import Wayfinding.Transport.Multipart
import Wayfinding.Wire.Word

/-!
# Messages on a stream

On a stream a message is the count of its frames, and each frame its length and its bytes; count and
lengths take four bytes, the highest first.

Main definitions:
* `Codec.encode`: the bytes of a message.
* `Codec.decode`: the first message of the bytes that have arrived.
* `Codec.readAll`: the messages of a stream up to its end or to an error.
-/

namespace Wayfinding.Codec

/-- A count or a length as four bytes. -/
def word (n : Nat) : List UInt8 := Word.bigEndian 4 n

/-- The bytes of a frame. -/
def encodeFrame (f : Frame) : List UInt8 := word f.length ++ f

/-- The bytes of a message. -/
def encodeFrames (m : Multipart) : List UInt8 := word m.length ++ m.flatMap encodeFrame

/-- The bytes of a message, unless it has too many frames. -/
def encode (m : Multipart) : Except FrameError (List UInt8) :=
  if maxFrames < m.length then .error (.tooManyFrames m.length) else .ok (encodeFrames m)

/-- The first bytes of a stream and the rest, if there are as many. -/
def split? (count : Nat) (bytes : List UInt8) : Option (List UInt8 × List UInt8) :=
  let taken := bytes.take count
  if taken.length = count then some (taken, bytes.drop count) else none

/-- What the bytes that have arrived begin with. -/
inductive Decoded where
  /-- A whole message, and what follows it. -/
  | message (m : Multipart) (rest : List UInt8)
  /-- A message that is refused, and what follows the number that gives it away. -/
  | refused (e : FrameError) (rest : List UInt8)
  /-- A message that has not arrived as a whole; `counted` tells whether its count has. -/
  | partly (counted : Bool)
deriving DecidableEq

namespace Decoded

/-- The message with one more frame in front. -/
def prepend (f : Frame) : Decoded → Decoded
  | message m rest => message (f :: m) rest
  | d => d

end Decoded

/-- Reads some frames, none of them longer than a limit. -/
def decodeFrames (limit : Nat) : Nat → List UInt8 → Decoded
  | 0, bytes => .message [] bytes
  | count + 1, bytes =>
    match split? 4 bytes with
    | none => .partly true
    | some (header, bytes) =>
      let length := Word.ofBigEndian header
      if limit < length then .refused (.frameTooLarge length limit) bytes
      else match split? length bytes with
        | none => .partly true
        | some (f, bytes) => (decodeFrames limit count bytes).prepend f

/-- Reads the first message, in which no frame is longer than a limit. -/
def decode (limit : Nat) (bytes : List UInt8) : Decoded :=
  match split? 4 bytes with
  | none => .partly false
  | some (header, bytes) =>
    let count := Word.ofBigEndian header
    if maxFrames < count then .refused (.tooManyFrames count) bytes
    else decodeFrames limit count bytes

theorem length_split? {count : Nat} {bytes : List UInt8} {r : List UInt8 × List UInt8}
    (h : split? count bytes = some r) : bytes.length = count + r.2.length := by
  simp only [split?] at h
  split at h
  · next hc =>
    simp only [Option.some.injEq] at h
    subst h
    rw [List.length_take] at hc
    simp only [List.length_drop]
    omega
  · simp at h

theorem length_decodeFrames {limit count : Nat} {bytes rest : List UInt8} {m : Multipart}
    (h : decodeFrames limit count bytes = .message m rest) : rest.length ≤ bytes.length := by
  induction count generalizing bytes m with
  | zero =>
    simp only [decodeFrames, Decoded.message.injEq] at h
    exact h.2 ▸ Nat.le_refl _
  | succ count ih =>
    simp only [decodeFrames] at h
    split at h
    · simp at h
    · next header bytes' hs =>
      split at h
      · simp at h
      · split at h
        · simp at h
        · next f bytes'' hf =>
          cases hd : decodeFrames limit count bytes'' with
          | message m' rest' =>
            rw [hd] at h
            simp only [Decoded.prepend, Decoded.message.injEq] at h
            obtain ⟨-, rfl⟩ := h
            have h1 := length_split? hs
            have h2 := length_split? hf
            have h3 := ih hd
            simp only at h1 h2
            omega
          | refused => simp [hd, Decoded.prepend] at h
          | partly => simp [hd, Decoded.prepend] at h

/-- Reading a message consumes at least its count. -/
theorem length_decode_lt {limit : Nat} {bytes rest : List UInt8} {m : Multipart}
    (h : decode limit bytes = .message m rest) : rest.length < bytes.length := by
  simp only [decode] at h
  split at h
  · simp at h
  · next header bytes' hs =>
    split at h
    · simp at h
    · have h1 := length_split? hs
      have h2 := length_decodeFrames h
      simp only at h1
      omega

/-- How the reading of a stream ends. -/
inductive ReadEnd where
  /-- The peer closed the stream. -/
  | closed
  | failed (e : FrameError)
deriving DecidableEq

/-- The messages of a stream, how their reading ends, and what is left unread. A stream that ends
inside a count was closed, one that ends later in a message broke off; `broken` streams fail
instead of ending. -/
def readAll (limit : Nat) (broken : Bool) (bytes : List UInt8) :
    List Multipart × ReadEnd × List UInt8 :=
  match _h : decode limit bytes with
  | .message m rest =>
    let r := readAll limit broken rest
    (m :: r.1, r.2)
  | .refused e rest => ([], .failed e, rest)
  | .partly counted => ([], if counted || broken then .failed .broken else .closed, [])
termination_by bytes.length
decreasing_by exact length_decode_lt _h

end Wayfinding.Codec
