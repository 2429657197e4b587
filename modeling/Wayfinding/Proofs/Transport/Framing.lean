import Wayfinding.Proofs.Transport.Stream

/-!
# The frames of a stream

A stream and the messages on it determine each other: a reader finds a message exactly if the
stream begins with what that message is written as, and refuses a stream exactly if a number in it
announces more than the reader takes, without touching what follows that number.

Main definition: `Codec.Announces`.
Main statement: `Codec.decode_encode_exact`.
-/

namespace Wayfinding.Codec

variable {limit n k : Nat} {bytes rest header : List UInt8} {m : Multipart} {ms : List Multipart}
  {e : FrameError} {broken : Bool}

/-- A frame that a reader takes. -/
def Fits (limit : Nat) (f : Frame) : Prop := f.length ≤ limit ∧ f.length < UInt32.size

/-- A stream whose first message announces more than a reader takes: too many frames, or a frame
that is too long after some that are not. The last argument is what follows the number that gives
it away. -/
inductive Announces (limit : Nat) : List UInt8 → FrameError → List UInt8 → Prop where
  | tooManyFrames {n : Nat} {rest : List UInt8} :
    maxFrames < n →
    n < UInt32.size →
    Announces limit (word n ++ rest) (.tooManyFrames n) rest
  | frameTooLarge {n k : Nat} {m : Multipart} {rest : List UInt8} :
    n ≤ maxFrames →
    m.length < n →
    (∀ f ∈ m, Fits limit f) →
    limit < k →
    k < UInt32.size →
    Announces limit (word n ++ (m.flatMap encodeFrame ++ (word k ++ rest)))
      (.frameTooLarge k limit) rest

/-- Four bytes are a number of 32 bits. -/
lemma ofBigEndian_lt (h : header.length = 4) : Word.ofBigEndian header < UInt32.size := by
  have hlt := Word.ofLittleEndian_lt header.reverse
  rw [List.length_reverse, h] at hlt
  exact hlt

/-- What is split off as a number is written as that number. -/
lemma eq_word_of_split? (h : split? 4 bytes = some (header, rest)) :
    bytes = word (Word.ofBigEndian header) ++ rest ∧ Word.ofBigEndian header < UInt32.size := by
  obtain ⟨rfl, hlen⟩ := eq_of_split? h
  rw [word_ofBigEndian hlen]
  exact ⟨rfl, ofBigEndian_lt hlen⟩

/-! ### Messages that are read -/

/-- Frames that were read are within the limits. -/
lemma fits_of_decodeFrames (h : decodeFrames limit n bytes = .message m rest) :
    ∀ f ∈ m, Fits limit f := by
  -- along the frames that were announced; each number is checked before the frame is taken
  induction n generalizing bytes m with
  | zero =>
    cases h
    simp
  | succ n ih =>
    simp only [decodeFrames] at h
    split at h
    · cases h
    · next header bytes₁ hs =>
      split at h
      · cases h
      · next hlimit =>
        split at h
        · cases h
        · next f bytes₂ hf =>
          cases hd : decodeFrames limit n bytes₂ with
          | message m' rest' =>
            rw [hd] at h
            cases h
            obtain ⟨-, hlt⟩ := eq_word_of_split? hs
            obtain ⟨-, hlen⟩ := eq_of_split? hf
            refine List.forall_mem_cons.2 ⟨⟨?_, ?_⟩, ih hd⟩
            · rw [hlen]
              exact Nat.le_of_not_lt hlimit
            · rw [hlen]
              exact hlt
          | refused => simp [hd, Decoded.prepend] at h
          | partly => simp [hd, Decoded.prepend] at h

/-- What was read can be sent. -/
lemma sendable_of_decode (h : decode limit bytes = .message m rest) : Sendable limit m := by
  simp only [decode] at h
  split at h
  · cases h
  · split at h
    · cases h
    · next hcount =>
      obtain ⟨hlen, -⟩ := eq_of_decodeFrames h
      refine ⟨?_, fits_of_decodeFrames h⟩
      rw [hlen]
      exact Nat.le_of_not_lt hcount

/-- What can be sent is encoded. -/
lemma encode_of_sendable (h : Sendable limit m) : encode m = .ok (encodeFrames m) :=
  if_neg (Nat.not_lt.2 h.count)

/-- A reader finds a message exactly if the stream begins with what it is written as. -/
lemma decode_eq_message_iff :
    decode limit bytes = .message m rest ↔
      Sendable limit m ∧ bytes = encodeFrames m ++ rest := by
  constructor
  · intro h
    exact ⟨sendable_of_decode h, eq_of_decode h⟩
  · rintro ⟨hm, rfl⟩
    exact decode_encodeFrames hm

/-! ### Messages that are refused -/

/-- Among frames, one is refused exactly if it is too long and those before it are not. -/
lemma decodeFrames_eq_refused (h : decodeFrames limit n bytes = .refused e rest) :
    ∃ (m : Multipart) (k : Nat), m.length < n ∧ (∀ f ∈ m, Fits limit f) ∧ limit < k ∧
      k < UInt32.size ∧ e = .frameTooLarge k limit ∧
      bytes = m.flatMap encodeFrame ++ (word k ++ rest) := by
  induction n generalizing bytes with
  | zero => cases h
  | succ n ih =>
    simp only [decodeFrames] at h
    split at h
    · cases h
    · next header bytes₁ hs =>
      obtain ⟨rfl, hlt⟩ := eq_word_of_split? hs
      split at h
      · next hlimit =>
        -- this is the frame, and none came before it
        cases h
        exact ⟨[], _, Nat.succ_pos n, by simp, hlimit, hlt, rfl, rfl⟩
      · next hlimit =>
        split at h
        · cases h
        · next f bytes₂ hf =>
          cases hd : decodeFrames limit n bytes₂ with
          | message => simp [hd, Decoded.prepend] at h
          | refused e' rest' =>
            rw [hd] at h
            cases h
            obtain ⟨m, k, hm, hfits, hk, hword, he, rfl⟩ := ih hd
            obtain ⟨rfl, hlen⟩ := eq_of_split? hf
            refine ⟨f :: m, k, Nat.succ_lt_succ hm, ?_, hk, hword, he, ?_⟩
            · refine List.forall_mem_cons.2 ⟨⟨?_, ?_⟩, hfits⟩
              · rw [hlen]
                exact Nat.le_of_not_lt hlimit
              · rw [hlen]
                exact hlt
            · simp [encodeFrame, hlen]
          | partly => simp [hd, Decoded.prepend] at h

/-- A frame that is too long is refused behind frames that are not, whatever follows its length. -/
lemma decodeFrames_frameTooLarge (hm : m.length < n) (hfits : ∀ f ∈ m, Fits limit f)
    (hk : limit < k) (hword : k < UInt32.size) :
    decodeFrames limit n (m.flatMap encodeFrame ++ (word k ++ rest)) =
      .refused (.frameTooLarge k limit) rest := by
  induction m generalizing n with
  | nil =>
    obtain ⟨n, rfl⟩ := Nat.exists_eq_succ_of_ne_zero (Nat.ne_zero_of_lt hm)
    have hheader := split?_append (n := 4) (b := rest) (length_word k)
    simp only [List.flatMap_nil, List.nil_append, decodeFrames, hheader, ofBigEndian_word hword,
      if_pos hk]
  | cons f m ih =>
    obtain ⟨n, rfl⟩ := Nat.exists_eq_succ_of_ne_zero (Nat.ne_zero_of_lt hm)
    obtain ⟨⟨hlimit, hlt⟩, hrest⟩ := List.forall_mem_cons.1 hfits
    have hheader := split?_append (n := 4) (b := f ++ (m.flatMap encodeFrame ++ (word k ++ rest)))
      (length_word f.length)
    have hbody := split?_append (a := f) (b := m.flatMap encodeFrame ++ (word k ++ rest)) rfl
    simp only [List.flatMap_cons, encodeFrame, List.append_assoc, decodeFrames, hheader,
      ofBigEndian_word hlt, Nat.not_lt.2 hlimit, if_false, hbody]
    rw [ih (Nat.lt_of_succ_lt_succ hm) hrest]
    rfl

/-- A reader refuses a stream exactly if a number in it announces more than the reader takes. -/
lemma decode_eq_refused_iff :
    decode limit bytes = .refused e rest ↔ Announces limit bytes e rest := by
  constructor
  · intro h
    simp only [decode] at h
    split at h
    · cases h
    · next header bytes₁ hs =>
      obtain ⟨rfl, hlt⟩ := eq_word_of_split? hs
      split at h
      · next hcount =>
        cases h
        exact .tooManyFrames hcount hlt
      · next hcount =>
        obtain ⟨m, k, hm, hfits, hk, hword, rfl, rfl⟩ := decodeFrames_eq_refused h
        exact .frameTooLarge (Nat.le_of_not_lt hcount) hm hfits hk hword
  · intro h
    cases h with
    | @tooManyFrames n _ hcount hlt =>
      have hheader := split?_append (n := 4) (b := rest) (length_word n)
      simp only [decode, hheader, ofBigEndian_word hlt, if_pos hcount]
    | @frameTooLarge n k m rest hcount hm hfits hk hword =>
      have hlt : n < UInt32.size := Nat.lt_of_le_of_lt hcount (by decide)
      have hheader := split?_append (n := 4) (b := m.flatMap encodeFrame ++ (word k ++ rest))
        (length_word n)
      simp only [decode, hheader, ofBigEndian_word hlt, Nat.not_lt.2 hcount, if_false,
        decodeFrames_frameTooLarge hm hfits hk hword]

/-! ### Streams -/

/-- A message at the beginning of a stream is read first. -/
lemma readAll_of_message (h : decode limit bytes = .message m rest) :
    readAll limit broken bytes =
      (m :: (readAll limit broken rest).1, (readAll limit broken rest).2) := by
  rw [readAll]
  split <;> simp_all

/-- Messages within the limits are all read, and then the stream is read on. -/
lemma readAll_flatMap (h : ∀ m ∈ ms, Sendable limit m) :
    readAll limit broken (ms.flatMap encodeFrames ++ rest) =
      (ms ++ (readAll limit broken rest).1, (readAll limit broken rest).2) := by
  induction ms with
  | nil => rfl
  | cons m ms ih =>
    obtain ⟨hm, hms⟩ := List.forall_mem_cons.1 h
    have hd : decode limit ((m :: ms).flatMap encodeFrames ++ rest) =
        .message m (ms.flatMap encodeFrames ++ rest) := by
      rw [List.flatMap_cons, List.append_assoc, decode_encodeFrames hm]
    rw [readAll_of_message hd, ih hms]
    rfl

/-- Nothing is read from a stream that has ended. -/
lemma readAll_nil (limit : Nat) : readAll limit false [] = ([], .closed, []) := by
  rw [readAll]
  rfl

/-- What is written and what is read correspond exactly. A message within the limits can be written,
and is read from what it was written as, whatever follows; a message that is read is within the
limits and the bytes that it took are those that it is written as. Hence a stream of such messages
is read as these messages, up to its end. A stream is refused exactly if a number in it announces
more than is taken, and what follows that number is left unread. A message of too many frames cannot
be written, and nothing of it is. -/
theorem decode_encode_exact (limit : Nat) :
    (∀ m : Multipart, m.length ≤ maxFrames →
      (∀ f ∈ m, f.length ≤ min limit (UInt32.size - 1)) →
      encode m = .ok (encodeFrames m) ∧
        ∀ rest, decode limit (encodeFrames m ++ rest) = .message m rest) ∧
      (∀ bytes m rest, decode limit bytes = .message m rest →
        m.length ≤ maxFrames ∧ (∀ f ∈ m, f.length ≤ min limit (UInt32.size - 1)) ∧
          ∃ written, encode m = .ok written ∧ bytes = written ++ rest) ∧
      (∀ ms : List Multipart, (∀ m ∈ ms, Sendable limit m) →
        readAll limit false (ms.flatMap encodeFrames) = (ms, .closed, [])) ∧
      (∀ bytes e rest, decode limit bytes = .refused e rest ↔ Announces limit bytes e rest) ∧
      ∀ (m : Multipart) (c : Connection), maxFrames < m.length →
        encode m = .error (.tooManyFrames m.length) ∧ (c.takeReply m).1 = [] := by
  have hword : ∀ f : Frame,
      f.length ≤ min limit (UInt32.size - 1) ↔ f.length ≤ limit ∧ f.length < UInt32.size := by
    intro f
    rw [Nat.le_min, Nat.le_sub_one_iff_lt (by decide)]
  refine ⟨fun m hcount hm => ?_, fun bytes m rest h => ?_, fun ms hms => ?_, fun bytes e rest => ?_,
    fun m c hcount => ?_⟩
  · have hs : Sendable limit m := ⟨hcount, fun f hf => (hword f).1 (hm f hf)⟩
    exact ⟨encode_of_sendable hs, fun rest => decode_encodeFrames hs⟩
  · obtain ⟨hs, hbytes⟩ := decode_eq_message_iff.1 h
    exact ⟨hs.count, fun f hf => (hword f).2 (hs.frames f hf), _, encode_of_sendable hs, hbytes⟩
  · have h : readAll limit false (ms.flatMap encodeFrames ++ []) = _ := readAll_flatMap hms
    rwa [List.append_nil, readAll_nil, List.append_nil] at h
  · exact decode_eq_refused_iff
  · have he : encode m = .error (.tooManyFrames m.length) := if_pos hcount
    exact ⟨he, by rw [Connection.takeReply, he]⟩

/-- With frames of at most two bytes: a request and a blank message are read one after the other,
and a frame that is announced with three bytes is refused. -/
theorem decode_encode_exact_two :
    readAll 2 false ([[[], [7, 8]], []].flatMap encodeFrames) =
        ([[[], [7, 8]], []], .closed, []) ∧
      decode 2 [0, 0, 0, 2, 0, 0, 0, 0, 0, 0, 0, 3, 9] =
        .refused (.frameTooLarge 3 2) [9] := by
  obtain ⟨-, -, hall, hrefused, -⟩ := decode_encode_exact 2
  refine ⟨hall _ (by decide), (hrefused _ _ _).2 ?_⟩
  exact .frameTooLarge (n := 2) (k := 3) (m := [[]]) (by decide) (by decide)
    (by simp [Fits]) (by decide) (by decide)

end Wayfinding.Codec
