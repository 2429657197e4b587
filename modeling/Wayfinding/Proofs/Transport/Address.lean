import Wayfinding.Proofs.Lookup
import Wayfinding.Transport.Client

/-!
# Addresses and mailboxes

Addressed messages and the addresses of clients are told apart by what they carry. Each operation of
the registry changes the mailbox of one client, and a reply reaches only the mailbox of the client
that it is for.

Main definition: `Registry.pop`.
Main lemmas: `ClientId.frame_injective`, `mailbox?_deliver`, `deliver_of_notMem`, `drain_eq_self`.
-/

namespace Wayfinding

/-- The frames of an envelope determine it. -/
lemma Envelope.frames_injective : Function.Injective Envelope.frames := by
  rintro ⟨c, p⟩ ⟨c', p'⟩ h
  simp only [Envelope.frames, List.cons.injEq, and_true, true_and] at h
  rw [h.1, h.2]

/-- The address of a client is not blank. -/
lemma ClientId.frame_ne_nil (c : ClientId) : c.frame ≠ [] :=
  List.ne_nil_of_length_pos (by simp)

/-- Clients with one address are the same. -/
lemma ClientId.frame_injective : Function.Injective ClientId.frame := by
  intro c c' h
  have hc := ofFrame?_frame c
  rw [h, ofFrame?_frame] at hc
  exact (Option.some.inj hc).symm

namespace Registry

variable {r : Registry} {c c' : ClientId} {m : Multipart}

/-- Takes the oldest reply from the mailbox of a client. -/
def pop (r : Registry) (c : ClientId) : Registry :=
  { r with mailboxes := r.mailboxes.map fun box => if box.1 = c then (c, box.2.tail) else box }

/-- A client that connects has an empty mailbox. -/
lemma mailbox?_register_self (r : Registry) (c : ClientId) :
    (r.register c).mailbox? c = some [] := by
  have hnone : (r.others c).find? (fun box => box.1 = c) = none := find?_filter_self r.mailboxes c
  simp [mailbox?, register, List.find?_append, hnone]

/-- The mailboxes of others are left when a client is registered. -/
lemma mailbox?_register_of_ne (h : c' ≠ c) : (r.register c).mailbox? c' = r.mailbox? c' := by
  have hsame : (r.others c).find? (fun box => box.1 = c') =
      r.mailboxes.find? fun box => box.1 = c' := find?_filter_of_ne r.mailboxes h
  simp [mailbox?, register, List.find?_append, hsame, h.symm]

/-- A mailbox that was given up is gone. -/
lemma mailbox?_hangUp_self (r : Registry) (c : ClientId) : (r.hangUp c).mailbox? c = none :=
  Option.map_eq_none_iff.2 (find?_filter_self r.mailboxes c)

/-- The mailboxes of the others are left when a client hangs up. -/
lemma mailbox?_hangUp_of_ne (h : c' ≠ c) : (r.hangUp c).mailbox? c' = r.mailbox? c' :=
  congrArg _ (find?_filter_of_ne r.mailboxes h)

/-- A reply for a connected client is put at the end of its mailbox, and into no other. -/
lemma mailbox?_deliver (hc : c ∈ r.connected) :
    (r.deliver c m).mailbox? c' =
      if c' = c then (r.mailbox? c').map (· ++ [m]) else r.mailbox? c' := by
  simp only [deliver, hc, if_true]
  exact lookup_update r.mailboxes (· ++ [m]) c c'

/-- Taking a reply from a mailbox changes no other. -/
lemma mailbox?_pop :
    (r.pop c).mailbox? c' = if c' = c then (r.mailbox? c').map List.tail else r.mailbox? c' :=
  lookup_update r.mailboxes List.tail c c'

/-- A reply for a client that is not connected is dropped. -/
lemma deliver_of_notMem (hc : c ∉ r.connected) : r.deliver c m = r := by
  simp only [deliver, hc, if_false]

/-- A delivery connects nobody. -/
@[simp] lemma connected_deliver : (r.deliver c m).connected = r.connected := by
  unfold deliver
  split <;> rfl

/-- A client that is registered is connected, and the others are as before. -/
lemma mem_connected_register : c' ∈ (r.register c).connected ↔ c' = c ∨ c' ∈ r.connected := by
  simp only [register]
  split
  · next h =>
    constructor
    · exact .inr
    · rintro (rfl | h')
      · exact h
      · exact h'
  · simp [or_comm]

/-- A client that is removed is not connected, and the others are as before. -/
lemma mem_connected_remove : c' ∈ (r.remove c).connected ↔ c' ∈ r.connected ∧ c' ≠ c := by
  simp [remove]

/-! ### Several changes -/

/-- Changing mailboxes leaves the clients that have one. -/
lemma keys_map (r : Registry) (c : ClientId) (f : List Multipart → List Multipart) :
    (r.mailboxes.map fun box => if box.1 = c then (c, f box.2) else box).map (·.1) =
      r.mailboxes.map (·.1) := by
  rw [List.map_map]
  refine List.map_congr_left fun box _ => ?_
  by_cases hb : box.1 = c <;> simp [hb]

/-- What becomes of the mailbox of a client does not matter for the others. -/
lemma filter_map (r : Registry) (c : ClientId) (f : List Multipart → List Multipart) :
    (r.mailboxes.map fun box => if box.1 = c then (c, f box.2) else box).filter (·.1 ≠ c) =
      r.others c := by
  rw [others]
  induction r.mailboxes with
  | nil => rfl
  | cons box boxes ih => by_cases hb : box.1 = c <;> simpa [hb] using ih

/-- A client that leaves leaves nothing of its mailbox. -/
lemma leave_drain (r : Registry) (c : ClientId) :
    ((r.drain c).remove c).hangUp c = (r.remove c).hangUp c :=
  congrArg (Registry.mk _) (filter_map r c fun _ => [])

/-- Taking a reply from a mailbox that is emptied then makes no difference. -/
lemma drain_pop (r : Registry) (c : ClientId) : (r.pop c).drain c = r.drain c := by
  simp only [drain, pop, List.map_map, mk.injEq, true_and]
  refine List.map_congr_left fun box _ => ?_
  by_cases hb : box.1 = c <;> simp [hb]

/-- An empty mailbox is emptied by doing nothing. -/
lemma drain_eq_self (hn : (r.mailboxes.map (·.1)).Nodup) (he : (r.mailbox? c).getD [] = []) :
    r.drain c = r := by
  have hsame : (r.mailboxes.map fun box => if box.1 = c then (c, []) else box) = r.mailboxes := by
    refine (List.map_congr_left fun box hbox => ?_).trans (List.map_id _)
    by_cases hb : box.1 = c
    · -- the first mailbox of the client, which is empty, is the only one
      cases hf : r.mailboxes.find? fun box => box.1 = c with
      | none => exact absurd hb (by simpa using List.find?_eq_none.1 hf box hbox)
      | some first =>
        have hc : first.1 = c := by simpa using List.find?_some hf
        obtain rfl :=
          List.inj_on_of_nodup_map hn (List.mem_of_find?_eq_some hf) hbox (hc.trans hb.symm)
        have hnil : first.2 = [] := by simpa [mailbox?, hf] using he
        rw [if_pos hb, ← hb, ← hnil, id]
    · rw [if_neg hb, id]
  rw [drain, hsame]

/-- A delivery gives nobody a mailbox. -/
lemma keys_deliver (r : Registry) (c : ClientId) (m : Multipart) :
    (r.deliver c m).mailboxes.map (·.1) = r.mailboxes.map (·.1) := by
  unfold deliver
  split
  · exact keys_map r c (· ++ [m])
  · rfl

end Registry

end Wayfinding
