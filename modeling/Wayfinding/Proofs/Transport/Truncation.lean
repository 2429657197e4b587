import Mathlib.Data.List.Infix
import Wayfinding.Proofs.Transport.Framing

/-!
# Messages that are cut

A stream may end in the middle of a message. The reader reports this once the count of the frames
has arrived: wherever the message is cut behind its count, the stream counts as broken. But a stream
that ends inside a count is taken for one that was closed between two messages.

Main definition: `Codec.Cut`.
Main lemmas: `Codec.decode_of_cut`, `Codec.readAll_of_cut`, `Codec.readAll_eq_closed_iff`.
Main statement: `Codec.reported_iff_counted`.
-/

namespace Wayfinding.Codec

variable {limit n : Nat} {bytes p : List UInt8} {m : Multipart} {ms : List Multipart}
  {counted : Bool}

/-- The first bytes of a message, without the last ones. -/
def Cut (m : Multipart) (p : List UInt8) : Prop := p <+: encodeFrames m ∧ p ≠ encodeFrames m

instance (m : Multipart) (p : List UInt8) : Decidable (Cut m p) :=
  inferInstanceAs (Decidable (_ ∧ _))

/-! ### Parts of a message -/

/-- Bytes are missing when there are fewer than needed. -/
lemma split?_eq_none_iff : split? n bytes = none ↔ bytes.length < n := by
  simp only [split?, List.length_take]
  split
  · exact iff_of_false (Option.some_ne_none _) (by omega)
  · exact iff_of_true rfl (by omega)

/-- Frames are asked for when their count has arrived. -/
lemma counted_of_decodeFrames (h : decodeFrames limit n bytes = .partly counted) :
    counted = true := by
  induction n generalizing bytes with
  | zero => cases h
  | succ n ih =>
    simp only [decodeFrames] at h
    split at h
    · cases h
      rfl
    · split at h
      · cases h
      · split at h
        · cases h
          rfl
        · next f bytes₂ _ =>
          cases hd : decodeFrames limit n bytes₂ with
          | message m' rest' => simp [hd, Decoded.prepend] at h
          | refused e rest' => simp [hd, Decoded.prepend] at h
          | partly counted' =>
            rw [hd] at h
            cases h
            exact ih hd

/-- Whether the count of a part of a message has arrived can be told from the length of the part. -/
lemma counted_iff_of_decode (h : decode limit bytes = .partly counted) :
    counted = true ↔ 4 ≤ bytes.length := by
  simp only [decode] at h
  split at h
  · next hs =>
    cases h
    rw [split?_eq_none_iff] at hs
    exact iff_of_false Bool.false_ne_true (Nat.not_le.2 hs)
  · next header rest hs =>
    have hle : 4 ≤ bytes.length := by
      by_contra hlt
      rw [split?_eq_none_iff.2 (Nat.not_le.1 hlt)] at hs
      cases hs
    split at h
    · cases h
    · exact iff_of_true (counted_of_decodeFrames h) hle

/-- A message that is cut is neither read nor refused. -/
lemma decode_of_cut (hm : Sendable limit m) (hc : Cut m p) :
    decode limit p = .partly (decide (4 ≤ p.length)) := by
  obtain ⟨⟨missing, hmissing⟩, hne⟩ := hc
  have hwhole : decode limit (p ++ missing) = .message m [] := by
    have h : decode limit (encodeFrames m ++ []) = .message m [] := decode_encodeFrames hm
    rwa [List.append_nil, ← hmissing] at h
  -- what was found in the first bytes would be found in all of them
  have hpartly : ∃ counted, decode limit p = .partly counted := by
    by_contra hfound
    rw [decode_append (not_exists.1 hfound)] at hwhole
    cases hd : decode limit p with
    | message m' rest =>
      rw [hd] at hwhole
      obtain ⟨-, hnil⟩ : m' = m ∧ rest ++ missing = [] := by
        simpa [Decoded.followed] using hwhole
      obtain ⟨-, rfl⟩ := List.append_eq_nil_iff.1 hnil
      exact hne (by rw [← hmissing, List.append_nil])
    | refused e rest =>
      rw [hd] at hwhole
      cases hwhole
    | partly counted => exact hfound ⟨counted, hd⟩
  obtain ⟨counted, hd⟩ := hpartly
  rw [hd]
  exact congrArg Decoded.partly (Bool.eq_iff_iff.2 (by
    rw [counted_iff_of_decode hd, decide_eq_true_iff]))

/-! ### Streams that end -/

/-- A stream that ends within a message is broken if the frames were counted. -/
lemma readAll_of_partly (h : decode limit bytes = .partly counted) :
    readAll limit false bytes = ([], if counted then .failed .broken else .closed, []) := by
  rw [readAll]
  split <;> simp_all

/-- A message that is refused ends the reading. -/
lemma readAll_of_refused {e : FrameError} {rest : List UInt8}
    (h : decode limit bytes = .refused e rest) :
    readAll limit false bytes = ([], .failed e, rest) := by
  rw [readAll]
  split <;> simp_all

/-- The messages before a cut are read, and how the stream ends depends on whether the count of the
message that is cut has arrived. -/
lemma readAll_of_cut (hms : ∀ m ∈ ms, Sendable limit m) (hm : Sendable limit m) (hc : Cut m p) :
    readAll limit false (ms.flatMap encodeFrames ++ p) =
      (ms, if 4 ≤ p.length then .failed .broken else .closed, []) := by
  rw [readAll_flatMap hms, readAll_of_partly (decode_of_cut hm hc), List.append_nil]
  simp only [decide_eq_true_eq]

/-- A stream counts as closed when at most a part of a count follows its messages. -/
lemma readAll_eq_closed_iff : (readAll limit false bytes).2.1 = .closed ↔
    ∃ (ms : List Multipart) (p : List UInt8), (∀ m ∈ ms, Sendable limit m) ∧ p.length < 4 ∧
      bytes = ms.flatMap encodeFrames ++ p := by
  constructor
  · intro h
    -- along the messages that are read
    induction bytes using readAll.induct limit false with
    | case1 bytes m rest hd ih =>
      rw [readAll_of_message hd] at h
      obtain ⟨hm, rfl⟩ := decode_eq_message_iff.1 hd
      obtain ⟨ms, p, hms, hp, rfl⟩ := ih h
      refine ⟨m :: ms, p, List.forall_mem_cons.2 ⟨hm, hms⟩, hp, ?_⟩
      rw [List.flatMap_cons, List.append_assoc]
    | case2 bytes e rest hd =>
      rw [readAll_of_refused hd] at h
      cases h
    | case3 bytes counted hd =>
      rw [readAll_of_partly hd] at h
      refine ⟨[], bytes, List.forall_mem_nil _, ?_, rfl⟩
      rw [← Nat.not_le, ← counted_iff_of_decode hd]
      rintro rfl
      cases h
  · rintro ⟨ms, p, hms, hp, rfl⟩
    have hd : decode limit p = .partly false := by
      rw [decode, split?_eq_none_iff.2 hp]
    rw [readAll_flatMap hms, readAll_of_partly hd]
    rfl

/-- Wherever a stream ends in the middle of a message, the messages before it are read, and the end
is reported as an error if and only if the count of the message that is cut has arrived; otherwise
the stream counts as closed. Of all streams, those count as closed of which less than a count
follows the last message. -/
theorem reported_iff_counted (limit : Nat) :
    (∀ (m : Multipart) (p : List UInt8) (ms : List Multipart), Sendable limit m → Cut m p →
      (∀ m' ∈ ms, Sendable limit m') →
      ∃ ending, readAll limit false (ms.flatMap encodeFrames ++ p) = (ms, ending, []) ∧
        (ending = .failed .broken ↔ 4 ≤ p.length) ∧ (ending = .closed ↔ p.length < 4)) ∧
      ∀ bytes, (readAll limit false bytes).2.1 = .closed ↔
        ∃ (ms : List Multipart) (p : List UInt8), (∀ m ∈ ms, Sendable limit m) ∧ p.length < 4 ∧
          bytes = ms.flatMap encodeFrames ++ p := by
  refine ⟨fun m p ms hm hc hms => ⟨_, readAll_of_cut hms hm hc, ?_⟩,
    fun bytes => readAll_eq_closed_iff⟩
  split
  · next hle => exact ⟨iff_of_true rfl hle, iff_of_false nofun (Nat.not_lt.2 hle)⟩
  · next hlt => exact ⟨iff_of_false nofun hlt, iff_of_true rfl (Nat.not_le.1 hlt)⟩

/-- A request that is cut in its payload, behind another one, is reported. -/
theorem reported_request :
    Cut [[], [7, 8]] [0, 0, 0, 2, 0, 0, 0, 0, 0, 0, 0, 2, 7] ∧
      readAll 2 false
          ([[[], [7]]].flatMap encodeFrames ++ [0, 0, 0, 2, 0, 0, 0, 0, 0, 0, 0, 2, 7]) =
        ([[[], [7]]], .failed .broken, []) := by
  have hcut : Cut [[], [7, 8]] [0, 0, 0, 2, 0, 0, 0, 0, 0, 0, 0, 2, 7] := by decide
  obtain ⟨hreported, -⟩ := reported_iff_counted 2
  obtain ⟨ending, hread, hbroken, -⟩ := hreported _ _ [[[], [7]]] (by decide) hcut (by decide)
  obtain rfl := hbroken.2 (by decide)
  exact ⟨hcut, hread⟩

/-- A request of which three bytes of the count have arrived is not reported. -/
theorem not_reported_of_three_bytes :
    Sendable 2 [[], [7, 8]] ∧ Cut [[], [7, 8]] [0, 0, 0] ∧
      readAll 2 false [0, 0, 0] = ([], .closed, []) := by
  refine ⟨by decide, by decide, ?_⟩
  have hd : decode 2 [0, 0, 0] = .partly false := rfl
  exact readAll_of_partly hd

end Wayfinding.Codec
