import Mathlib.Data.List.Induction
import Mathlib.Data.List.Nodup
import Wayfinding.Proofs.Service.Conduct

/-!
# Whatever the service is told

The service is started and then takes inputs of its peers and of the operator. After any of them it
stands where a run of the hub stands, so that what holds in every run of the hub holds of the
service. In particular the service never ends with an error, and its supervisor never crashes, as
long as it has been given workers and its pauses are sound.

Main definitions: `Service.Input`, `Service.Shown`.
Main statements: `Service.shown_after`, `Service.unbroken_after`, `Service.ending_after`.
-/

namespace Wayfinding

/-- Texts are told apart by their bytes. -/
lemma Utf8.encode_injective : Function.Injective encode := by
  intro s t h
  refine String.toByteArray_inj.1 (ByteArray.ext ?_)
  exact Array.toList_inj.1 h

/-- Workers are told apart by their indices. -/
lemma WorkerId.numbered_injective : Function.Injective numbered := by
  intro i j h
  simp only [numbered, ofName, mk.injEq] at h
  have hname := Utf8.encode_injective h
  have hrepr : i.repr = j.repr := (String.append_right_inj _).1 hname
  have hdigits : Nat.toDigits 10 i = Nat.toDigits 10 j := by
    have hlist := congrArg String.toList hrepr
    rwa [Nat.toList_repr, Nat.toList_repr] at hlist
  rw [← Nat.ofDigitChars_ten_toDigits (n := i), hdigits, Nat.ofDigitChars_ten_toDigits]

/-- The steps of a hub lead from one state of a run to another. -/
lemma Hub.Reachable.run {workers : List Worker} {maxPending : Nat} {shared : Shared}
    {capacity : Option Nat} {frameLimit : Nat} {h h' : Hub}
    (hr : Reachable workers maxPending shared capacity frameLimit h) (run : Run h h') :
    Reachable workers maxPending shared capacity frameLimit h' := by
  induction run with
  | refl => exact hr
  | tail _ st ih => exact ih.step st

namespace Service

/-- What peers and the operator can do, and the course of time. -/
inductive Input where
  | connect (key : Nat)
  | write (key : Nat) (bytes : List UInt8)
  | finish (key : Nat)
  | read (key : Nat)
  | readRest (key : Nat)
  | forget (key : Nat)
  | interrupt
  | stop
  | pass (milliseconds : Nat)

/-- The service after an input. -/
def take (s : Service) : Input → Service
  | .connect key => s.connect key
  | .write key bytes => s.write key bytes
  | .finish key => s.finish key
  | .read key => (s.read key).2
  | .readRest key => (s.readRest key).2
  | .forget key => s.forget key
  | .interrupt => s.interrupt
  | .stop => s.stop
  | .pass milliseconds => s.pass milliseconds

/-- The workers of some handlers. -/
def crew (handlers : List Handler) : List Worker := handlers.mapIdx fun i h => ⟨.numbered i, h⟩

/-- The workers of a service are told apart. -/
lemma nodup_crew (handlers : List Handler) : ((crew handlers).map (·.id)).Nodup := by
  have hids : (crew handlers).map (·.id) = (List.range handlers.length).map .numbered := by
    apply List.ext_getElem
    · simp [crew]
    · intro i hi hi'
      simp [crew]
  rw [hids]
  exact List.nodup_range.map WorkerId.numbered_injective

/-- A service that stands where a run of the hub stands. -/
def Shown (workers : List Worker) (maxPending : Nat) (shared : Shared) (frameLimit : Nat)
    (s : Service) : Prop :=
  ∃ h place, Hub.Reachable workers maxPending shared none frameLimit h ∧ h.Mirrors s place

namespace Shown

variable {workers : List Worker} {maxPending : Nat} {shared : Shared} {frameLimit : Nat}
  {s s' : Service} {p : Peer}

/-- What the service does is shown by what the hub does. -/
lemma follow (hs : s.Shown workers maxPending shared frameLimit)
    (hf : ∀ {h place}, h.Mirrors s place → ∃ h' place', Hub.Run h h' ∧ h'.Mirrors s' place') :
    s'.Shown workers maxPending shared frameLimit := by
  obtain ⟨h, place, hr, hm⟩ := hs
  obtain ⟨h', place', hrun, hm'⟩ := hf hm
  exact ⟨h', place', hr.run hrun, hm'⟩

/-- What the service does with its peers is shown if it moves no connections. -/
lemma stay (hs : s.Shown workers maxPending shared frameLimit)
    (hf : ∀ {h : Hub} {place}, h.Mirrors s place → h.Mirrors s' place) :
    s'.Shown workers maxPending shared frameLimit :=
  hs.follow fun hm => ⟨_, _, .refl, hf hm⟩

/-- The service does everything that can be done. -/
lemma settle (hs : s.Shown workers maxPending shared frameLimit)
    (hn : (workers.map (·.id)).Nodup) : s.settle.Shown workers maxPending shared frameLimit := by
  obtain ⟨h, place, hr, hm⟩ := hs
  obtain ⟨h', hrun, hm'⟩ := hm.settle (hr.pool.manned_of hn fun _ _ => trivial)
  exact ⟨h', place, hr.run hrun, hm'⟩

/-- The service serves peers that have waited. -/
lemma acceptWaiting (hs : s.Shown workers maxPending shared frameLimit)
    (hn : (workers.map (·.id)).Nodup) (count : Nat) :
    (s.acceptWaiting count).Shown workers maxPending shared frameLimit := by
  induction count generalizing s with
  | zero => exact hs
  | succ count ih =>
    unfold Service.acceptWaiting
    split
    · next p hp =>
      split
      · apply ih
        apply Shown.settle _ hn
        exact hs.follow fun hm => hm.accept (List.mem_of_find?_eq_some hp)
      · exact hs
    · exact hs

/-- The service settles and serves peers that have waited. -/
lemma progress (hs : s.Shown workers maxPending shared frameLimit)
    (hn : (workers.map (·.id)).Nodup) : s.progress.Shown workers maxPending shared frameLimit :=
  (hs.settle hn).acceptWaiting hn _

/-- The service replaces a peer that it does not serve anew. -/
lemma setPeer (hs : s.Shown workers maxPending shared frameLimit) {key : Nat} {q : Peer}
    (hq : s.peer? key = some q) (hk : p.key = q.key)
    (hserved : ∀ c, p.state = .served c → q.state = .served c) :
    (s.setPeer p).Shown workers maxPending shared frameLimit :=
  hs.stay fun hm => hm.setPeer (peer?_eq_some hq).1 hk hserved

/-- A peer connects. -/
lemma connect (hs : s.Shown workers maxPending shared frameLimit)
    (hn : (workers.map (·.id)).Nodup) (key : Nat) :
    (s.connect key).Shown workers maxPending shared frameLimit := by
  unfold Service.connect
  split
  · exact hs
  · next hk => exact progress (hs.stay fun hm => hm.join hk) hn

/-- The service takes bytes from a peer. -/
lemma takeFrom (hs : s.Shown workers maxPending shared frameLimit) {key : Nat} {q : Peer}
    {c : Connection} (hq : s.peer? key = some q) (hc : q.state = .served c) (hk : p.key = q.key)
    (bytes : List UInt8) : (s.takeFrom p c bytes).Shown workers maxPending shared frameLimit := by
  apply hs.follow
  intro h place hm
  obtain ⟨h', hrun, hm'⟩ := hm.takeFrom (peer?_eq_some hq).1 hc hk bytes
  exact ⟨h', place, hrun, hm'⟩

/-- The operator interrupts the broker or announces the shutdown. -/
lemma operate {f : Exchange → Exchange} (hs : s.Shown workers maxPending shared frameLimit)
    (ho : ∀ e, Hub.Operates e (f e)) (hf : ∀ e, (f e).frontend = e.frontend) :
    (s.withExchange f).Shown workers maxPending shared frameLimit := by
  apply hs.follow
  intro h place hm
  obtain ⟨h', hrun, hm'⟩ := hm.operate ho hf
  exact ⟨h', place, hrun, hm'⟩

/-- Some time passes. -/
lemma pass (hs : s.Shown workers maxPending shared frameLimit) (milliseconds : Nat) :
    Shown workers maxPending shared frameLimit
      { s with supervision := s.supervision.pass milliseconds } := by
  apply hs.follow
  intro h place hm
  obtain ⟨h', hrun, hm'⟩ := hm.pass milliseconds
  exact ⟨h', place, hrun, hm'⟩

/-- A peer writes bytes. -/
lemma write (hs : s.Shown workers maxPending shared frameLimit)
    (hn : (workers.map (·.id)).Nodup) (key : Nat) (bytes : List UInt8) :
    (s.write key bytes).Shown workers maxPending shared frameLimit := by
  have hc := hs.connect hn key
  unfold Service.write
  dsimp only
  split
  · exact hc
  · next p hp =>
    split
    · next c hserved => exact (hc.takeFrom hp hserved rfl bytes).progress hn
    · -- a peer that waits is not served by what it writes
      exact hc.setPeer hp rfl fun c hserved => hserved
    · exact hc

/-- A peer writes no more. -/
lemma finish (hs : s.Shown workers maxPending shared frameLimit)
    (hn : (workers.map (·.id)).Nodup) (key : Nat) :
    (s.finish key).Shown workers maxPending shared frameLimit := by
  have hc := hs.connect hn key
  unfold Service.finish
  dsimp only
  split
  · exact hc
  · next p hp =>
    split
    · next c hserved =>
      exact (hc.takeFrom (p := { p with finished := true }) hp hserved rfl []).progress hn
    · exact hc.setPeer hp rfl fun c hserved => hserved

/-- A peer reads a message. -/
lemma read (hs : s.Shown workers maxPending shared frameLimit)
    (hn : (workers.map (·.id)).Nodup) (key : Nat) :
    (s.read key).2.Shown workers maxPending shared frameLimit := by
  have hc := hs.connect hn key
  unfold Service.read
  dsimp only
  split
  · exact hc
  · next p hp =>
    split
    · exact hc.setPeer hp rfl fun c hserved => hserved
    · exact hc.setPeer hp rfl fun c hserved => hserved
    · split
      · exact hc
      · split <;> exact hc

/-- A peer reads whatever is left. -/
lemma readRest (hs : s.Shown workers maxPending shared frameLimit) (key : Nat) :
    (s.readRest key).2.Shown workers maxPending shared frameLimit := by
  unfold Service.readRest
  split
  · exact hs
  · next p hp => exact hs.setPeer hp rfl fun c hserved => hserved

/-- The service takes an input. -/
lemma take (hs : s.Shown workers maxPending shared frameLimit) (hn : (workers.map (·.id)).Nodup)
    (input : Input) : (s.take input).Shown workers maxPending shared frameLimit := by
  cases input with
  | connect key => exact hs.connect hn key
  | write key bytes => exact hs.write hn key bytes
  | finish key => exact hs.finish hn key
  | read key => exact hs.read hn key
  | readRest key => exact hs.readRest key
  | forget key => exact hs.stay fun hm => hm.forget key
  | interrupt =>
    have hi := hs.operate (f := fun e => { e with interrupted := true })
      (fun _ => ⟨⟨rfl, rfl, rfl⟩, rfl, rfl⟩) fun _ => rfl
    exact hi.progress hn
  | stop =>
    have hi := hs.operate (f := fun e => { e with stopping := true })
      (fun _ => ⟨⟨rfl, rfl, rfl⟩, rfl, rfl⟩) fun _ => rfl
    exact hi.progress hn
  | pass milliseconds => exact (hs.pass milliseconds).progress hn

end Shown

variable {handlers : List Handler} {caches : Caches} {pacing : Pacing}
  {maxPending maxConnections frameLimit : Nat}

/-- The service is shown when it has been started. -/
lemma shown_start (hh : handlers ≠ []) (hp : pacing.Sound) :
    (start handlers caches pacing maxPending maxConnections frameLimit).Shown (crew handlers)
      maxPending { caches := caches } frameLimit := by
  have hne : crew handlers ≠ [] := by simpa [crew] using hh
  let pool := (Hub.start (crew handlers) maxPending { caches := caches } none frameLimit).pool
  have ht : pool.threads = ([] : List Worker).map (⟨·, .listening⟩) ++
      (crew handlers).map (⟨·, .starting⟩) := rfl
  have hopen : pool.exchange.backend.senderOpen = true := by
    simpa [pool, Hub.start, Pool.start, Pool.withExchange] using hne
  -- the threads have announced themselves before anything else happens
  obtain ⟨p, hrun, hloop, hthreads, hshared⟩ := Pool.Run.announce ht rfl hopen rfl
  apply Shown.progress _ (nodup_crew handlers)
  refine ⟨_, id, Hub.Reachable.start.run (.inside hrun), ?_⟩
  refine ⟨⟨?_, ?_, hthreads, hshared, ?_, hne, hp, ?_⟩, rfl, rfl, .nil, ?_, ?_⟩
  · rw [Pool.exchange, hloop]
    rfl
  · rw [hloop]
    rfl
  · exact ⟨rfl, rfl, rfl, .nil⟩
  · exact id
  · intro q hq
    cases hq
  · intro q hq
    cases hq

/-- After any inputs of the peers and the operator, the service stands where a run of the hub
stands. -/
theorem shown_after (hh : handlers ≠ []) (hp : pacing.Sound) (inputs : List Input) :
    (inputs.foldl take (start handlers caches pacing maxPending maxConnections frameLimit)).Shown
      (crew handlers) maxPending { caches := caches } frameLimit := by
  induction inputs using List.reverseRecOn with
  | nil => exact shown_start hh hp
  | append_singleton inputs input ih =>
    rw [List.foldl_append]
    exact ih.take (nodup_crew handlers) input

/-- A broker that has workers is given up neither by an error nor by a crash of its supervisor,
whatever the service is told and however much time passes. -/
theorem unbroken_after (hh : handlers ≠ []) (hp : pacing.Sound) (inputs : List Input) :
    ¬ (inputs.foldl take
      (start handlers caches pacing maxPending maxConnections frameLimit)).supervision.state.Broken
    := by
  obtain ⟨h, place, -, hm⟩ : Shown (crew handlers) maxPending { caches := caches } frameLimit
      (inputs.foldl take (start handlers caches pacing maxPending maxConnections frameLimit)) :=
    shown_after hh hp inputs
  exact hm.pool.unbroken

/-- A service that has workers never ends with an error. -/
theorem ending_after (hh : handlers ≠ []) (hp : pacing.Sound) (inputs : List Input)
    (error : BrokerError) :
    (inputs.foldl take (start handlers caches pacing maxPending maxConnections frameLimit)).ending ≠
      some (.error error) := by
  have hb : ¬ (inputs.foldl take (start handlers caches pacing maxPending maxConnections
      frameLimit)).supervision.state.Broken :=
    unbroken_after hh hp inputs
  unfold ending
  split
  · nofun
  · next e hs =>
    rw [hs] at hb
    exact absurd trivial hb
  · nofun

end Service

end Wayfinding
