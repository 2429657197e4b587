import Wayfinding.Text.Utf8
import Wayfinding.Transport.Multipart

/-!
# Ready workers

Workers wait for requests in the order in which they became ready. A worker that was given a request
is busy until it becomes ready again.

Main definitions:
* `WorkerId`: the identity of a worker.
* `ReadyQueue.markReady`, `ReadyQueue.next?`, `ReadyQueue.remove`: the operations of the queue.
-/

namespace Wayfinding

/-- The identity of a worker, which is the first frame of its messages. -/
structure WorkerId where
  frame : Frame
deriving DecidableEq, Repr, Inhabited

namespace WorkerId

/-- The identity with a given name. -/
def ofName (name : String) : WorkerId := ⟨Utf8.encode name⟩

/-- The identity of the worker at an index of the pool. -/
def numbered (index : Nat) : WorkerId := ofName s!"worker-{index}"

/-- The identity as text. -/
def name (w : WorkerId) : String := String.ofList (Utf8.lossy w.frame)

end WorkerId

/-- What a known worker is doing. -/
inductive WorkerState where
  /-- It waits for a request. -/
  | idle
  /-- It was given a request. -/
  | busy
deriving DecidableEq, Repr

/-- The idle workers in the order in which they became ready, and the state of every known one. -/
structure ReadyQueue where
  queue : List WorkerId := []
  states : List (WorkerId × WorkerState) := []
deriving DecidableEq, Inhabited

namespace ReadyQueue

/-- What a worker is doing, if it is known. -/
def state? (q : ReadyQueue) (w : WorkerId) : Option WorkerState :=
  (q.states.find? fun e => e.1 = w).map (·.2)

/-- The states of all other workers. -/
def others (q : ReadyQueue) (w : WorkerId) : List (WorkerId × WorkerState) :=
  q.states.filter fun e => e.1 ≠ w

/-- The states when a worker has changed its own. -/
def setState (q : ReadyQueue) (w : WorkerId) (s : WorkerState) : List (WorkerId × WorkerState) :=
  (w, s) :: q.others w

/-- Queues a worker as ready, and tells whether it was not idle already. -/
def markReady (q : ReadyQueue) (w : WorkerId) : Bool × ReadyQueue :=
  match q.state? w with
  | some .idle => (false, q)
  | _ => (true, ⟨q.queue ++ [w], q.setState w .idle⟩)

/-- Takes the worker that has been waiting longest. -/
def next? (q : ReadyQueue) : Option (WorkerId × ReadyQueue) :=
  match q.queue with
  | [] => none
  | w :: rest => some (w, ⟨rest, q.setState w .busy⟩)

/-- Forgets a worker. -/
def remove (q : ReadyQueue) (w : WorkerId) : ReadyQueue :=
  ⟨q.queue.filter (· ≠ w), q.others w⟩

/-- How many workers are idle. -/
def idle (q : ReadyQueue) : Nat := q.queue.length

/-- How many workers are known. -/
def known (q : ReadyQueue) : Nat := q.states.length

theorem length_queue_of_next? {q : ReadyQueue} {r : WorkerId × ReadyQueue}
    (h : q.next? = some r) : q.queue.length = r.2.queue.length + 1 := by
  unfold next? at h
  split at h
  · simp at h
  · next w rest hq =>
    simp only [Option.some.injEq] at h
    subst h
    simp [hq]

theorem length_queue_remove_le (q : ReadyQueue) (w : WorkerId) :
    (q.remove w).queue.length ≤ q.queue.length :=
  List.length_filter_le _ _

end ReadyQueue

end Wayfinding
