/-!
# Multipart messages

A message is a list of frames. Inside the service a request or a reply is addressed to a client, as
`[client, blank, payload]`; clients themselves write and read `[blank, payload]`.

Main definitions:
* `Envelope.parse`, `Envelope.frames`: addressed messages.
* `ClientMessage.parse`, `ClientMessage.frames`: messages of clients.
* `FrameError`: what is wrong with a message or with the stream that carries it.
-/

namespace Wayfinding

/-- A byte string. -/
abbrev Frame := List UInt8

/-- An ordered list of frames. -/
abbrev Multipart := List Frame

/-- How a message differs from its expected shape. -/
inductive Malformation where
  /-- The frame before the payload is not blank. -/
  | delimiter
  /-- The address is blank. -/
  | address
  /-- There are not the three frames of an addressed message. -/
  | envelope
  /-- There are not the two frames of a client's message. -/
  | clientMessage
deriving DecidableEq, Repr

namespace Malformation

/-- What is told about a malformed message. -/
def message : Malformation → String
  | delimiter => "delimiter frame is not empty"
  | address => "empty client address"
  | envelope => "expected [client, empty, payload]"
  | clientMessage => "expected [empty, payload]"

end Malformation

/-- The largest number of frames in a message. -/
def maxFrames : Nat := 16

/-- What is wrong with a message, or with the stream that carries it. -/
inductive FrameError where
  /-- The stream broke off. -/
  | broken
  | tooManyFrames (count : Nat)
  | frameTooLarge (length limit : Nat)
  | malformed (what : Malformation)
deriving DecidableEq, Repr

namespace FrameError

/-- What is told about an error. -/
def message : FrameError → String
  | broken => "i/o error"
  | tooManyFrames count => s!"message has {count} frames, at most {maxFrames} allowed"
  | frameTooLarge length limit => s!"frame of {length} bytes exceeds the {limit} byte limit"
  | malformed what => "malformed envelope: " ++ what.message

/-- Whether the stream can still be read after the error. -/
def isRecoverable : FrameError → Bool
  | malformed _ => true
  | _ => false

end FrameError

/-- A request or a reply with the address of its client. -/
structure Envelope where
  client : Frame
  payload : Frame
deriving DecidableEq, Repr, Inhabited

namespace Envelope

/-- Reads an addressed message. -/
def parse : Multipart → Except FrameError Envelope
  | [client, delimiter, payload] =>
    if delimiter ≠ [] then .error (.malformed .delimiter)
    else if client = [] then .error (.malformed .address)
    else .ok ⟨client, payload⟩
  | _ => .error (.malformed .envelope)

/-- The frames of an addressed message. -/
def frames (e : Envelope) : Multipart := [e.client, [], e.payload]

/-- An addressed message with an address is read back. -/
theorem parse_frames {e : Envelope} (h : e.client ≠ []) : parse e.frames = .ok e := by
  simp [parse, frames, h]

/-- Only the frames of an envelope with an address are read. -/
theorem eq_frames_of_parse {m : Multipart} {e : Envelope} (h : parse m = .ok e) :
    m = e.frames ∧ e.client ≠ [] := by
  unfold parse at h
  split at h
  · next client delimiter payload =>
    split at h
    · simp at h
    · next hd =>
      split at h
      · simp at h
      · next hc =>
        obtain rfl : Envelope.mk client payload = e := by simpa using h
        exact ⟨by simp_all [frames], hc⟩
  · simp at h

end Envelope

namespace ClientMessage

/-- The payload of a client's message. -/
def parse : Multipart → Except FrameError Frame
  | [[], payload] => .ok payload
  | _ => .error (.malformed .clientMessage)

/-- The frames of a client's message. -/
def frames (payload : Frame) : Multipart := [[], payload]

@[simp] theorem parse_frames (payload : Frame) : parse (frames payload) = .ok payload := rfl

end ClientMessage

end Wayfinding
