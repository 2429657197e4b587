import Mathlib.Tactic.Lemma
import Wayfinding.Transport.Connection

/-!
# Messages in pieces

What is written as a message is read as that message, whatever follows it, and bytes that were read
as some messages are those that these messages are written as. Hence it does not matter how a stream
is cut into pieces, as long as what was left of one piece is put before the next.

Main definition: `Codec.Sendable`.
Main lemmas: `decode_encodeFrames`, `eq_of_decode`, `takeMessages_append`, `takeMessages_encode`.
-/

namespace Wayfinding

namespace Codec

variable {limit n : Nat} {a b bytes more rest header : List UInt8} {m : Multipart}

/-- A message whose frames are within the limits. -/
structure Sendable (limit : Nat) (m : Multipart) : Prop where
  count : m.length ≤ maxFrames
  frames : ∀ f ∈ m, f.length ≤ limit ∧ f.length < UInt32.size

instance (limit : Nat) (m : Multipart) : Decidable (Sendable limit m) :=
  decidable_of_iff (m.length ≤ maxFrames ∧ ∀ f ∈ m, f.length ≤ limit ∧ f.length < UInt32.size)
    ⟨fun h => ⟨h.1, h.2⟩, fun h => ⟨h.count, h.frames⟩⟩

/-- The first bytes are split off. -/
lemma split?_append (h : a.length = n) : split? n (a ++ b) = some (a, b) := by
  subst h
  simp [split?]

/-- Bytes are put together again from what was split. -/
lemma eq_of_split? (h : split? n bytes = some (a, b)) : bytes = a ++ b ∧ a.length = n := by
  simp only [split?] at h
  split at h
  · next hl =>
    obtain ⟨rfl, rfl⟩ : bytes.take n = a ∧ bytes.drop n = b := by simpa using h
    exact ⟨(List.take_append_drop n bytes).symm, hl⟩
  · cases h

/-- A number that fits is read back from its four bytes. -/
lemma ofBigEndian_word (h : n < UInt32.size) : Word.ofBigEndian (word n) = n :=
  Word.ofBigEndian_bigEndian (Nat.lt_of_lt_of_eq h (by decide))

/-- Four bytes are written back from the number that they give. -/
lemma word_ofBigEndian (h : header.length = 4) : word (Word.ofBigEndian header) = header := by
  rw [word, ← h, Word.bigEndian_ofBigEndian]

/-- A word has four bytes. -/
@[simp] lemma length_word (n : Nat) : (word n).length = 4 := Word.length_bigEndian 4 n

/-! ### Whole messages -/

/-- Frames within the limits are read back. -/
lemma decodeFrames_flatMap (h : ∀ f ∈ m, f.length ≤ limit ∧ f.length < UInt32.size) :
    decodeFrames limit m.length (m.flatMap encodeFrame ++ rest) = .message m rest := by
  induction m with
  | nil => rfl
  | cons f m ih =>
    obtain ⟨⟨hlimit, hword⟩, hm⟩ := List.forall_mem_cons.1 h
    have hheader := split?_append (n := 4) (b := f ++ (m.flatMap encodeFrame ++ rest))
      (length_word f.length)
    have hbody := split?_append (a := f) (b := m.flatMap encodeFrame ++ rest) rfl
    simp only [List.flatMap_cons, encodeFrame, List.append_assoc, List.length_cons, decodeFrames,
      hheader, ofBigEndian_word hword, Nat.not_lt.2 hlimit, if_false, hbody]
    rw [ih hm]
    rfl

/-- A message within the limits is read back, and what follows it is left. -/
lemma decode_encodeFrames (h : Sendable limit m) :
    decode limit (encodeFrames m ++ rest) = .message m rest := by
  have hword : m.length < UInt32.size := Nat.lt_of_le_of_lt h.count (by decide)
  have hheader := split?_append (n := 4) (b := m.flatMap encodeFrame ++ rest) (length_word m.length)
  simp only [encodeFrames, List.append_assoc, decode, hheader, ofBigEndian_word hword,
    Nat.not_lt.2 h.count, if_false, decodeFrames_flatMap h.frames]

/-- Frames that were read are written as the bytes from which they were read. -/
lemma eq_of_decodeFrames (h : decodeFrames limit n bytes = .message m rest) :
    m.length = n ∧ bytes = m.flatMap encodeFrame ++ rest := by
  induction n generalizing bytes m with
  | zero =>
    cases h
    exact ⟨rfl, rfl⟩
  | succ n ih =>
    simp only [decodeFrames] at h
    split at h
    · cases h
    · next header bytes₁ hs =>
      split at h
      · cases h
      · split at h
        · cases h
        · next f bytes₂ hf =>
          cases hd : decodeFrames limit n bytes₂ with
          | message m' rest' =>
            rw [hd] at h
            cases h
            obtain ⟨hlen, rfl⟩ := ih hd
            obtain ⟨rfl, hheader⟩ := eq_of_split? hs
            obtain ⟨rfl, hbody⟩ := eq_of_split? hf
            refine ⟨by rw [List.length_cons, hlen], ?_⟩
            rw [List.flatMap_cons, encodeFrame, hbody, word_ofBigEndian hheader]
            simp
          | refused => simp [hd, Decoded.prepend] at h
          | partly => simp [hd, Decoded.prepend] at h

/-- A message that was read is written as the bytes from which it was read. -/
lemma eq_of_decode (h : decode limit bytes = .message m rest) :
    bytes = encodeFrames m ++ rest := by
  simp only [decode] at h
  split at h
  · cases h
  · next header bytes₁ hs =>
    split at h
    · cases h
    · obtain ⟨hlen, rfl⟩ := eq_of_decodeFrames h
      obtain ⟨rfl, hheader⟩ := eq_of_split? hs
      rw [encodeFrames, hlen, word_ofBigEndian hheader, List.append_assoc]

/-! ### Bytes that follow -/

/-- The same finding with more bytes behind it. -/
def Decoded.followed (d : Decoded) (more : List UInt8) : Decoded :=
  match d with
  | .message m rest => .message m (rest ++ more)
  | .refused e rest => .refused e (rest ++ more)
  | .partly counted => .partly counted

/-- More bytes do not change what is split off. -/
lemma split?_append_right (h : split? n bytes = some (a, b)) :
    split? n (bytes ++ more) = some (a, b ++ more) := by
  obtain ⟨rfl, hl⟩ := eq_of_split? h
  rw [List.append_assoc, split?_append hl]

/-- More bytes do not change frames that have arrived. -/
lemma decodeFrames_append (h : ∀ counted, decodeFrames limit n bytes ≠ .partly counted) :
    decodeFrames limit n (bytes ++ more) = (decodeFrames limit n bytes).followed more := by
  induction n generalizing bytes with
  | zero => rfl
  | succ n ih =>
    simp only [decodeFrames] at h ⊢
    cases hs : split? 4 bytes with
    | none => simp [hs] at h
    | some r =>
      simp only [hs, split?_append_right hs] at h ⊢
      split
      · rfl
      · next hlimit =>
        rw [if_neg hlimit] at h
        cases hf : split? (Word.ofBigEndian r.1) r.2 with
        | none => simp [hf] at h
        | some r' =>
          simp only [hf, split?_append_right hf] at h ⊢
          rw [ih fun counted hc => h counted (by rw [hc]; rfl)]
          cases decodeFrames limit n r'.2 <;> rfl

/-- More bytes do not change what was found, once it was more than a part of a message. -/
lemma decode_append (h : ∀ counted, decode limit bytes ≠ .partly counted) :
    decode limit (bytes ++ more) = (decode limit bytes).followed more := by
  simp only [decode] at h ⊢
  cases hs : split? 4 bytes with
  | none => simp [hs] at h
  | some r =>
    simp only [hs, split?_append_right hs] at h ⊢
    split
    · rfl
    · next hcount =>
      rw [if_neg hcount] at h
      exact decodeFrames_append h

end Codec

namespace Connection

variable {limit : Nat} {a b bytes rest unread : List UInt8} {m : Multipart} {ms : List Multipart}
  {e : FrameError} {counted : Bool}

/-- A message that has arrived is taken, and what follows it is read on. -/
lemma takeMessages_of_message (h : Codec.decode limit bytes = .message m rest) :
    takeMessages limit bytes = (m :: (takeMessages limit rest).1, (takeMessages limit rest).2) := by
  rw [takeMessages]
  split <;> simp_all

/-- A message that is refused closes the stream. -/
lemma takeMessages_of_refused (h : Codec.decode limit bytes = .refused e rest) :
    takeMessages limit bytes = ([], .closed) := by
  rw [takeMessages]
  split <;> simp_all

/-- Bytes of a message that is not complete are kept. -/
lemma takeMessages_of_partly (h : Codec.decode limit bytes = .partly counted) :
    takeMessages limit bytes = ([], .kept bytes) := by
  rw [takeMessages]
  split <;> simp_all

/-- Nothing is read from no bytes. -/
lemma takeMessages_nil (limit : Nat) : takeMessages limit [] = ([], .kept []) :=
  takeMessages_of_partly rfl

/-- What has been read of a stream when it is read in two pieces. -/
lemma takeMessages_append (limit : Nat) (a b : List UInt8) :
    takeMessages limit (a ++ b) =
      match (takeMessages limit a).2 with
      | .kept unread =>
        ((takeMessages limit a).1 ++ (takeMessages limit (unread ++ b)).1,
          (takeMessages limit (unread ++ b)).2)
      | .closed => takeMessages limit a := by
  -- along the messages that the first piece completes
  induction a using takeMessages.induct limit with
  | case1 a m rest h ih =>
    have hab : Codec.decode limit (a ++ b) = .message m (rest ++ b) := by
      rw [Codec.decode_append (by simp [h]), h]
      rfl
    rw [takeMessages_of_message h, takeMessages_of_message hab, ih]
    obtain ⟨ms, fate⟩ := takeMessages limit rest
    cases fate <;> rfl
  | case2 a e rest h =>
    have hab : Codec.decode limit (a ++ b) = .refused e (rest ++ b) := by
      rw [Codec.decode_append (by simp [h]), h]
      rfl
    rw [takeMessages_of_refused h, takeMessages_of_refused hab]
  | case3 a counted h =>
    rw [takeMessages_of_partly h]
    rfl

/-- What is kept is a part of one message. -/
lemma takeMessages_kept (h : (takeMessages limit bytes).2 = .kept unread) :
    takeMessages limit unread = ([], .kept unread) := by
  induction bytes using takeMessages.induct limit with
  | case1 bytes m rest hd ih =>
    rw [takeMessages_of_message hd] at h
    exact ih h
  | case2 bytes e rest hd =>
    rw [takeMessages_of_refused hd] at h
    cases h
  | case3 bytes counted hd =>
    have hsame := takeMessages_of_partly hd
    rw [hsame] at h
    cases h
    exact hsame

/-- Messages within the limits are all taken. -/
lemma takeMessages_encode (h : ∀ m ∈ ms, Codec.Sendable limit m) :
    takeMessages limit (ms.flatMap Codec.encodeFrames) = (ms, .kept []) := by
  induction ms with
  | nil => exact takeMessages_nil limit
  | cons m ms ih =>
    obtain ⟨hm, hms⟩ := List.forall_mem_cons.1 h
    rw [List.flatMap_cons, takeMessages_of_message (Codec.decode_encodeFrames hm), ih hms]

/-- Messages are taken from the bytes that they are written as; what is not kept closes the
connection. -/
lemma takeMessages_eq (limit : Nat) (bytes : List UInt8) :
    ∃ tail, bytes = (takeMessages limit bytes).1.flatMap Codec.encodeFrames ++ tail ∧
      match (takeMessages limit bytes).2 with
      | .kept unread => tail = unread
      | .closed => tail ≠ [] := by
  induction bytes using takeMessages.induct limit with
  | case1 bytes m rest h ih =>
    obtain ⟨tail, hrest, htail⟩ := ih
    rw [takeMessages_of_message h]
    refine ⟨tail, ?_, htail⟩
    rw [Codec.eq_of_decode h, List.flatMap_cons, List.append_assoc, ← hrest]
  | case2 bytes e rest h =>
    rw [takeMessages_of_refused h]
    refine ⟨bytes, rfl, ?_⟩
    rintro rfl
    cases h
  | case3 bytes counted h =>
    rw [takeMessages_of_partly h]
    exact ⟨bytes, rfl, rfl⟩

end Connection

end Wayfinding
