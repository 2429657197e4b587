import Mathlib.Data.List.Flatten
import Wayfinding.Proofs.Transport.Address
import Wayfinding.Proofs.Transport.Stream

/-!
# Replies that interrupt a read

A reply that arrives while a part of a message has been read ends that read, and the part is lost:
what comes next is read as if it were the beginning of a message. As long as every reply arrives
between two messages, a connection reads exactly the messages that its client has written, however
they are cut into pieces. Otherwise it never does.

Main definitions: `Connection.serve`, `Connection.Undisturbed`.
Main statement: `Connection.serve_iff_undisturbed`.
-/

namespace Wayfinding

/-- What arrives at a connection. -/
inductive Arrival where
  /-- Some bytes from the client. -/
  | bytes (chunk : List UInt8)
  /-- A reply for the client. -/
  | reply (m : Multipart)

/-- The bytes among what arrives. -/
def written : List Arrival → List UInt8
  | [] => []
  | .bytes chunk :: as => chunk ++ written as
  | .reply _ :: as => written as

namespace Connection

variable {c c' : Connection} {chunk unread : List UInt8} {m : Multipart} {ms : List Multipart}
  {as : List Arrival}

/-- The requests that a connection passes on, and the connection if it stays open. -/
def serve (c : Connection) : List Arrival → List Multipart × Option Connection
  | [] => ([], some c)
  | .bytes chunk :: as =>
    match c.takeBytes chunk with
    | (requests, some c) => (requests ++ (c.serve as).1, (c.serve as).2)
    | (requests, none) => (requests, none)
  | .reply m :: as =>
    match (c.takeReply m).2 with
    | some c => c.serve as
    | none => ([], none)

/-- The messages that a connection reads, requests or not. -/
def messages (c : Connection) : List Arrival → List Multipart
  | [] => []
  | .bytes chunk :: as =>
    match takeMessages c.frameLimit (c.unread ++ chunk) with
    | (ms, .kept unread) => ms ++ messages { c with unread := unread } as
    | (ms, .closed) => ms
  | .reply m :: as =>
    match (c.takeReply m).2 with
    | some c => c.messages as
    | none => []

/-- Every reply arrives between two messages. -/
def Undisturbed (c : Connection) (as : List Arrival) : Prop :=
  ∀ before m after, as = before ++ .reply m :: after →
    ∃ c', (c.serve before).2 = some c' ∧ c'.unread = []

/-- The replies can be written. -/
def Writable (as : List Arrival) : Prop := ∀ m, .reply m ∈ as → m.length ≤ maxFrames

/-! ### Bytes and replies, one at a time -/

/-- What a connection passes on are the requests among the messages that it reads. -/
lemma takeBytes_eq (c : Connection) (chunk : List UInt8) :
    c.takeBytes chunk =
      ((payloads (takeMessages c.frameLimit (c.unread ++ chunk)).1).map c.addressed,
        match (takeMessages c.frameLimit (c.unread ++ chunk)).2 with
        | .kept unread => some { c with unread := unread }
        | .closed => none) := by
  unfold takeBytes
  obtain ⟨ms, fate⟩ := takeMessages c.frameLimit (c.unread ++ chunk)
  cases fate <;> rfl

/-- A reply that can be written leaves the connection without a part of a message. -/
lemma takeReply_snd (h : m.length ≤ maxFrames) :
    (c.takeReply m).2 = some { c with unread := [] } := by
  simp [takeReply, Codec.encode, Nat.not_lt.2 h]

/-- The requests among the messages that a connection reads are those that it passes on. -/
lemma serve_fst (c : Connection) (as : List Arrival) :
    (c.serve as).1 = (payloads (c.messages as)).map c.addressed := by
  induction as generalizing c with
  | nil => rfl
  | cons a as ih =>
    cases a with
    | bytes chunk =>
      simp only [serve, messages, takeBytes_eq]
      obtain ⟨ms, fate⟩ := takeMessages c.frameLimit (c.unread ++ chunk)
      cases fate with
      | kept unread => simp [ih, payloads, addressed]
      | closed => rfl
    | reply m =>
      simp only [serve, messages]
      cases hr : (c.takeReply m).2 with
      | none => rfl
      | some c' =>
        have hc : c'.addressed = c.addressed := by
          simp only [takeReply] at hr
          split at hr
          · cases hr
            rfl
          · cases hr
        simp only [ih, hc]

/-- Bytes disturb nothing. -/
lemma undisturbed_bytes {requests : List Multipart} (h : c.takeBytes chunk = (requests, some c')) :
    c.Undisturbed (.bytes chunk :: as) ↔ c'.Undisturbed as := by
  constructor
  · intro hu before m after heq
    have hb := hu (.bytes chunk :: before) m after (by rw [heq]; rfl)
    simpa only [serve, h] using hb
  · intro hu before m after heq
    cases before with
    | nil => cases heq
    | cons a before =>
      obtain ⟨rfl, rfl⟩ := List.cons.inj heq
      simpa only [serve, h] using hu before m after rfl

/-- A reply disturbs the connection when a part of a message has been read. -/
lemma undisturbed_reply (h : (c.takeReply m).2 = some c') :
    c.Undisturbed (.reply m :: as) ↔ c.unread = [] ∧ c'.Undisturbed as := by
  constructor
  · intro hu
    obtain ⟨c₀, hc₀, hempty⟩ := hu [] m as rfl
    cases hc₀
    refine ⟨hempty, fun before m' after heq => ?_⟩
    have hb := hu (.reply m :: before) m' after (by rw [heq]; rfl)
    simpa only [serve, h] using hb
  · rintro ⟨hempty, hu⟩ before m' after heq
    cases before with
    | nil => exact ⟨c, rfl, hempty⟩
    | cons a before =>
      obtain ⟨rfl, rfl⟩ := List.cons.inj heq
      simpa only [serve, h] using hu before m' after rfl

/-! ### Undisturbed connections -/

/-- An undisturbed connection reads and passes on what it would if all bytes came at once and no
reply. -/
lemma serve_of_undisturbed (hc : takeMessages c.frameLimit c.unread = ([], .kept c.unread))
    (hu : c.Undisturbed as) (hw : Writable as) :
    c.serve as = c.takeBytes (written as) ∧
      c.messages as = (takeMessages c.frameLimit (c.unread ++ written as)).1 := by
  induction as generalizing c with
  | nil => simp [serve, messages, written, takeBytes_eq, hc, payloads]
  | cons a as ih =>
    have hw' : Writable as := fun m hm => hw m (List.mem_cons_of_mem _ hm)
    cases a with
    | bytes chunk =>
      have hb := takeBytes_eq c chunk
      have happ := takeMessages_append c.frameLimit (c.unread ++ chunk) (written as)
      cases ht : takeMessages c.frameLimit (c.unread ++ chunk) with
      | mk ms fate =>
        rw [ht] at hb happ
        cases fate with
        | kept unread =>
          -- what is kept goes before the next bytes
          have hkept : takeMessages c.frameLimit unread = ([], .kept unread) :=
            takeMessages_kept (congrArg Prod.snd ht)
          obtain ⟨hs, hm⟩ := ih (c := { c with unread := unread }) hkept
            ((undisturbed_bytes hb).1 hu) hw'
          simp only [serve, messages, written, hb, ht, hs, hm, takeBytes_eq, ← List.append_assoc,
            happ]
          simp [payloads, addressed]
        | closed =>
          simp only [serve, messages, written, hb, ht, takeBytes_eq, ← List.append_assoc, happ]
          exact ⟨trivial, trivial⟩
    | reply m =>
      have hr := takeReply_snd (c := c) (hw m List.mem_cons_self)
      obtain ⟨hempty, hu'⟩ := (undisturbed_reply hr).1 hu
      have hsame : { c with unread := [] } = c := by rw [← hempty]
      rw [hsame] at hr hu'
      obtain ⟨hs, hm⟩ := ih hc hu' hw'
      simp only [serve, messages, written, hr]
      exact ⟨hs, hm⟩

/-! ### Lost bytes -/

/-- A connection reads no more than was written to it; if it reads all, it was undisturbed. -/
lemma length_messages (hw : Writable as) :
    ((c.messages as).flatMap Codec.encodeFrames).length ≤ c.unread.length + (written as).length ∧
      (((c.messages as).flatMap Codec.encodeFrames).length =
          c.unread.length + (written as).length →
        c.Undisturbed as) := by
  induction as generalizing c with
  | nil =>
    refine ⟨by simp [messages], fun _ before m after heq => ?_⟩
    cases before <;> cases heq
  | cons a as ih =>
    have hw' : Writable as := fun m hm => hw m (List.mem_cons_of_mem _ hm)
    cases a with
    | bytes chunk =>
      obtain ⟨tail, heq, htail⟩ := takeMessages_eq c.frameLimit (c.unread ++ chunk)
      have hlen := congrArg List.length heq
      have hb := takeBytes_eq c chunk
      cases ht : takeMessages c.frameLimit (c.unread ++ chunk) with
      | mk ms fate =>
        rw [ht] at htail hlen hb
        simp only [messages, written, ht]
        simp only [List.length_append] at hlen
        cases fate with
        | kept unread =>
          obtain rfl : tail = unread := htail
          obtain ⟨hle, hall⟩ := ih (c := { c with unread := tail }) hw'
          simp only [List.flatMap_append, List.length_append] at hle hall ⊢
          refine ⟨by omega, fun htotal => ?_⟩
          exact (undisturbed_bytes hb).2 (hall (by omega))
        | closed =>
          -- what closed the connection is not read as a message
          have hpos : 0 < tail.length := List.length_pos_iff.2 htail
          simp only [List.length_append]
          exact ⟨by omega, fun htotal => by omega⟩
    | reply m =>
      -- what was kept before the reply is missing afterwards, unless it was nothing
      have hr := takeReply_snd (c := c) (hw m List.mem_cons_self)
      obtain ⟨hle, hall⟩ := ih (c := { c with unread := [] }) hw'
      simp only [messages, written, hr]
      simp only [List.length_nil, Nat.zero_add] at hle hall
      refine ⟨by omega, fun htotal => (undisturbed_reply hr).2 ⟨?_, hall (by omega)⟩⟩
      exact List.length_eq_zero_iff.1 (by omega)

/-- The requests among some messages are found among them in the form in which they were written. -/
lemma map_payloads_sublist (ms : List Multipart) :
    ((payloads ms).map ClientMessage.frames).Sublist ms := by
  induction ms with
  | nil => exact .slnil
  | cons m ms ih =>
    simp only [payloads, List.filterMap_cons] at ih ⊢
    cases hp : ClientMessage.parse m with
    | error => exact ih.cons m
    | ok payload =>
      obtain rfl : m = ClientMessage.frames payload := by
        unfold ClientMessage.parse at hp
        split at hp
        · cases hp
          rfl
        · cases hp
      exact ih.cons_cons _

/-- Messages that are all requests are found again from their payloads. -/
lemma map_payloads (h : ∀ m ∈ ms, ∃ payload, m = ClientMessage.frames payload) :
    (payloads ms).map ClientMessage.frames = ms := by
  induction ms with
  | nil => rfl
  | cons m ms ih =>
    obtain ⟨⟨payload, rfl⟩, hms⟩ := List.forall_mem_cons.1 h
    have hrest := ih hms
    simp only [payloads, List.filterMap_cons, ClientMessage.parse_frames, Except.toOption,
      List.map_cons] at hrest ⊢
    rw [hrest]

/-- Requests on a connection are told apart by their payloads. -/
lemma addressed_injective (c : Connection) : Function.Injective c.addressed := by
  intro p p' h
  exact congrArg Envelope.payload (Envelope.frames_injective h)

/-- A connection on which messages within the limits are written, cut into any pieces, and to which
replies arrive at any moments, reads exactly these messages if and only if no reply arrives while a
part of one has been read. Then it passes on exactly the requests among them, in order, and stays
as it was. When all of them are requests, it passes on exactly these in no other case. -/
theorem serve_iff_undisturbed (hc : c.unread = [])
    (hms : ∀ m ∈ ms, Codec.Sendable c.frameLimit m)
    (hwritten : written as = ms.flatMap Codec.encodeFrames) (hw : Writable as) :
    (c.messages as = ms ↔ c.Undisturbed as) ∧
      (c.Undisturbed as → c.serve as = ((payloads ms).map c.addressed, some c)) ∧
      ((∀ m ∈ ms, ∃ payload, m = ClientMessage.frames payload) →
        ((c.serve as).1 = (payloads ms).map c.addressed ↔ c.Undisturbed as)) := by
  have hempty : takeMessages c.frameLimit c.unread = ([], .kept c.unread) := by
    rw [hc]
    exact takeMessages_nil c.frameLimit
  have hall : takeMessages c.frameLimit (c.unread ++ written as) = (ms, .kept []) := by
    rw [hc, hwritten]
    exact takeMessages_encode hms
  have hsame : { c with unread := [] } = c := by rw [← hc]
  have hgood : c.Undisturbed as →
      c.serve as = ((payloads ms).map c.addressed, some c) ∧ c.messages as = ms := by
    intro hu
    obtain ⟨hs, hm⟩ := serve_of_undisturbed hempty hu hw
    rw [hs, hm, takeBytes_eq, hall]
    exact ⟨Prod.ext rfl (congrArg some hsame), rfl⟩
  obtain ⟨hle, htotal⟩ := length_messages (c := c) hw
  rw [hc, hwritten, List.length_nil, Nat.zero_add] at hle htotal
  refine ⟨⟨fun hm => htotal (by rw [hm]), fun hu => (hgood hu).2⟩, fun hu => (hgood hu).1,
    fun hreq => ⟨fun hs => htotal ?_, fun hu => congrArg Prod.fst (hgood hu).1⟩⟩
  -- all that was written is found among what was read
  rw [serve_fst] at hs
  have hpay := (List.map_inj_right fun _ _ h => c.addressed_injective h).1 hs
  have hsub := map_payloads_sublist (c.messages as)
  rw [hpay, map_payloads hreq] at hsub
  exact Nat.le_antisymm hle (hsub.flatMap Codec.encodeFrames).length_le

/-- A connection that has just been opened. -/
def newcomer : Connection := { client := ⟨1⟩, frameLimit := 8 }

/-- Two requests in three pieces, and a reply between them. -/
def between : List Arrival :=
  [.bytes [0, 0, 0, 2, 0, 0, 0, 0], .bytes [0, 0, 0, 1, 7], .reply [[], [8]],
    .bytes [0, 0, 0, 2, 0, 0, 0, 0, 0, 0, 0, 1, 9]]

/-- The same requests, of which the second has begun to arrive before the reply. -/
def within : List Arrival :=
  [.bytes [0, 0, 0, 2, 0, 0, 0, 0, 0, 0, 0, 1, 7, 0, 0, 0, 2], .reply [[], [8]],
    .bytes [0, 0, 0, 0, 0, 0, 0, 1, 9]]

/-- Both requests are passed on when the reply arrives between them. -/
theorem serve_between :
    written between = [[[], [7]], [[], [9]]].flatMap Codec.encodeFrames ∧
      newcomer.Undisturbed between ∧
      newcomer.serve between = ([[7], [9]].map newcomer.addressed, some newcomer) := by
  have hw : Writable between := by
    intro m hm
    obtain rfl : m = [[], [8]] := by simpa [between] using hm
    decide
  have hms : ∀ m ∈ [[[], [7]], [[], [9]]], Codec.Sendable newcomer.frameLimit m := by decide
  obtain ⟨hiff, hgood, -⟩ := serve_iff_undisturbed rfl hms (by decide) hw
  have hu := hiff.1 (by decide +kernel)
  exact ⟨by decide, hu, hgood hu⟩

/-- The second request is lost when the reply arrives within it. -/
theorem serve_within :
    written within = [[[], [7]], [[], [9]]].flatMap Codec.encodeFrames ∧
      (∀ m ∈ [[[], [7]], [[], [9]]], Codec.Sendable newcomer.frameLimit m) ∧ Writable within ∧
      (newcomer.serve within).1 = [newcomer.addressed [7]] ∧
      (newcomer.serve within).1 ≠ (payloads [[[], [7]], [[], [9]]]).map newcomer.addressed := by
  refine ⟨by decide, by decide, ?_, by decide +kernel, by decide +kernel⟩
  intro m hm
  obtain rfl : m = [[], [8]] := by simpa [within] using hm
  decide

end Connection

end Wayfinding
