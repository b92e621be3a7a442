import ShinQlx.Loop
import ShinQlx.StatsListener

/-! # Stopping the stats listener

`_poll_zmq` runs in a thread of its own: it connects to the socket and then, cycle after
cycle, polls for a message and handles what it receives.  `stop` sets the flag `done`, from
another thread and so at any moment of a cycle.

`PollCycle` is what the outside does during a cycle: the outcome of the poll and of the
receive, what handling the message finds, and the moments at which `stop` is called.  No
step of the cycle looks at the flag, so a run ends only if there is no socket, and a
message that arrives is handled (`stopsWhenTold_iff`).
-/
namespace ShinQlx

/-- The value of a cvar, as a string and as an integer. -/
structure CVarValue where
  string : String
  integer : Int

/-- A stats listener. -/
structure StatsListener where
  done : Bool
  address : String
  password : String
  deriving DecidableEq

/-- The moments of a cycle: before the poll, before the receive, and before what was
received is handled. -/
inductive PollMoment where
  | poll
  | receive
  | handle
  deriving DecidableEq

/-- What the outside does during a cycle. -/
structure PollCycle where
  polled : Except String Nat
  received : Except String String
  env : ZmqEnv
  stops : PollMoment → Bool

/-- What a cycle changes: the listener, the messages that were handled, and what handling
them left. -/
structure Polling (P : Type) where
  listener : StatsListener
  handled : List String
  zmq : ZmqState P

/-- The thread: what `_poll_zmq` ended with, if it did, where an exception is its message;
and what it has come to. -/
structure PollThread (P : Type) where
  ended : Option (Except String Unit)
  state : Polling P

namespace StatsListener
variable {P : Type}

/-- `StatsListener::py_new`. -/
def pyNew (mainEngine : Option (String → Option CVarValue)) : PyResult StatsListener :=
  match mainEngine with
  | none => .error (.environmentError "main quake live engine not set")
  | some findCvar =>
    if (findCvar "zmq_stats_enable").all (·.integer = 0) then .ok ⟨true, "", ""⟩
    else
      let string (name : String) := (findCvar name).map (·.string)
      let host := ((string "zmq_stats_ip").filter (· ≠ "")).getD "127.0.0.1"
      let port := (string "zmq_stats_port").getD ((string "net_port").getD "")
      .ok ⟨false, s!"tcp://{host}:{port}", (string "zmq_stats_password").getD ""⟩

/-- `StatsListenerMethods::stop`. -/
def stop (l : StatsListener) : StatsListener := { l with done := true }

/-- `PollEvents::POLL_IN`. -/
def pollIn : Nat := 1

/-- `stop` is called at a moment, or not. -/
def passMoment (c : PollCycle) (m : PollMoment) (s : Polling P) : Polling P :=
  if c.stops m then { s with listener := s.listener.stop } else s

/-- Is there something to receive? -/
def isPolled (c : PollCycle) : Bool :=
  match c.polled with
  | .ok value => value = pollIn
  | .error _ => false

/-- The body of the loop of `_poll_zmq`. -/
def pollCycle (codec : JsonCodec P) (toLowercase : String → String) (c : PollCycle)
    (s : Polling P) : Loop.Control (Polling P) (Except String Unit) :=
  let s := passMoment c .poll s
  if !isPolled c then .next s
  else
    let s := passMoment c .receive s
    match c.received with
    | .error _ => .next s
    | .ok zmqMsg =>
      let s := passMoment c .handle s
      .next { s with
        handled := s.handled ++ [zmqMsg]
        zmq := (handleZmqMsg codec toLowercase s.zmq (c.env, zmqMsg)).2 }

/-- `_poll_zmq` after a number of cycles. -/
def pollZmq (codec : JsonCodec P) (toLowercase : String → String)
    (getZmqSocket : String → String → Except String Unit) (l : StatsListener)
    (cycles : Nat → PollCycle) : Nat → PollThread P
  | 0 =>
    match getZmqSocket l.address l.password with
    | .error err => ⟨some (.error s!"zmq error: {err}"), l, [], start⟩
    | .ok () => ⟨none, l, [], start⟩
  | n + 1 =>
    let thread := pollZmq codec toLowercase getZmqSocket l cycles n
    match thread.ended with
    | some _ => thread
    | none =>
      match pollCycle codec toLowercase (cycles n) thread.state with
      | .next s => ⟨none, s⟩
      | .ret result => ⟨some result, thread.state⟩

/-- The message that is received in a cycle. -/
def message (c : PollCycle) : Option String :=
  if isPolled c then c.received.toOption else none

/-- The first cycle that begins after a moment of the `n`-th. -/
def nextCycle (n : Nat) : PollMoment → Nat
  | .poll => n
  | .receive | .handle => n + 1

/-- A call of `stop` stops the run: no message is handled in a cycle that begins after it,
and there is a last cycle.  A listener that is done handles no message. -/
structure StopsWhenTold (l : StatsListener) (cycles : Nat → PollCycle)
    (thread : Nat → PollThread P) : Prop where
  silent : ∀ n m, (cycles n).stops m = true → ∀ k, nextCycle n m ≤ k →
    (thread k).state.handled = (thread (nextCycle n m)).state.handled
  ends : ∀ n m, (cycles n).stops m = true → ∃ k, (thread k).ended.isSome = true
  done : l.done = true → ∀ k, (thread k).state.handled = []

section runs
variable {codec : JsonCodec P} {toLowercase : String → String}
  {getZmqSocket : String → String → Except String Unit} {l : StatsListener}

@[simp] theorem passMoment_handled (c : PollCycle) (m : PollMoment) (s : Polling P) :
    (passMoment c m s).handled = s.handled := by
  unfold passMoment
  split <;> rfl

/-- A cycle never leaves the loop, and handles the message it receives. -/
theorem pollCycle_next (codec : JsonCodec P) (toLowercase : String → String) (c : PollCycle)
    (s : Polling P) :
    ∃ s', pollCycle codec toLowercase c s = .next s' ∧
      s'.handled = s.handled ++ (message c).toList := by
  unfold pollCycle message
  cases hpolled : isPolled c with
  | false => exact ⟨_, rfl, by simp⟩
  | true =>
    cases hreceived : c.received with
    | error err => exact ⟨_, rfl, by simp [Except.toOption]⟩
    | ok zmqMsg => exact ⟨_, rfl, by simp [Except.toOption]⟩

/-- Without a socket there is no cycle. -/
theorem pollZmq_error {err : String} (h : getZmqSocket l.address l.password = .error err)
    (cycles : Nat → PollCycle) (n : Nat) :
    pollZmq codec toLowercase getZmqSocket l cycles n =
      ⟨some (.error s!"zmq error: {err}"), l, [], start⟩ := by
  induction n with
  | zero => rw [pollZmq, h]
  | succ n ih => rw [pollZmq, ih]

/-- With a socket the loop goes on, and every message that was received is handled. -/
theorem pollZmq_ok (h : getZmqSocket l.address l.password = .ok ()) (cycles : Nat → PollCycle)
    (n : Nat) :
    (pollZmq codec toLowercase getZmqSocket l cycles n).ended = none ∧
      (pollZmq codec toLowercase getZmqSocket l cycles n).state.handled =
        (List.range n).filterMap fun k => message (cycles k) := by
  induction n with
  | zero => simp [pollZmq, h]
  | succ n ih =>
    obtain ⟨hended, hhandled⟩ := ih
    obtain ⟨s', hnext, hs'⟩ := pollCycle_next codec toLowercase (cycles n)
      (pollZmq codec toLowercase getZmqSocket l cycles n).state
    simp only [pollZmq, hended, hnext, hs', hhandled, List.range_succ, List.filterMap_append]
    cases hmessage : message (cycles n) <;> simp [hmessage]

/-- A listener that is done when it is made has no address. -/
theorem address_of_done {mainEngine : Option (String → Option CVarValue)}
    (h : pyNew mainEngine = .ok l) (hdone : l.done = true) : l.address = "" ∧ l.password = "" := by
  cases mainEngine with
  | none => cases h
  | some findCvar =>
    simp only [pyNew] at h
    split at h
    · cases h
      exact ⟨rfl, rfl⟩
    · cases h
      cases hdone

/-- Where nothing can be connected to no address, a listener made for disabled stats
handles no message. -/
theorem handled_of_done {mainEngine : Option (String → Option CVarValue)}
    (h : pyNew mainEngine = .ok l) (hdone : l.done = true) {err : String}
    (hsocket : getZmqSocket "" "" = .error err) (cycles : Nat → PollCycle) (n : Nat) :
    (pollZmq codec toLowercase getZmqSocket l cycles n).state.handled = [] := by
  obtain ⟨haddress, hpassword⟩ := address_of_done h hdone
  have hnone : getZmqSocket l.address l.password = .error err := by
    rw [haddress, hpassword, hsocket]
  rw [pollZmq_error hnone]

/-- **Stopping the listener** stops a run exactly where there is no socket to poll, or
`stop` is never called, and a listener that is done receives nothing. -/
theorem stopsWhenTold_iff (codec : JsonCodec P) (toLowercase : String → String)
    (getZmqSocket : String → String → Except String Unit) (l : StatsListener)
    (cycles : Nat → PollCycle) :
    StopsWhenTold l cycles (pollZmq codec toLowercase getZmqSocket l cycles) ↔
      (∃ err, getZmqSocket l.address l.password = .error err) ∨
        (∀ n m, (cycles n).stops m = false) ∧
          (l.done = true → ∀ n, message (cycles n) = none) := by
  cases hsocket : getZmqSocket l.address l.password with
  | error err =>
    have hthread : ∀ n, pollZmq codec toLowercase getZmqSocket l cycles n =
        ⟨some (.error s!"zmq error: {err}"), l, [], start⟩ := pollZmq_error hsocket cycles
    refine iff_of_true ⟨?_, ?_, ?_⟩ (.inl ⟨err, rfl⟩)
    · intro n m _ k _
      rw [hthread, hthread]
    · intro n m _
      exact ⟨0, by rw [hthread]; rfl⟩
    · intro _ k
      rw [hthread]
  | ok u =>
    have hended : ∀ n, (pollZmq codec toLowercase getZmqSocket l cycles n).ended = none :=
      fun n => (pollZmq_ok hsocket cycles n).1
    have hhandled : ∀ n, (pollZmq codec toLowercase getZmqSocket l cycles n).state.handled =
        (List.range n).filterMap fun k => message (cycles k) :=
      fun n => (pollZmq_ok hsocket cycles n).2
    constructor
    · intro h
      refine .inr ⟨fun n m => ?_, fun hdone n => ?_⟩
      · -- the loop of a listener that is stopped would have to end
        refine Bool.eq_false_iff.mpr fun hstop => ?_
        obtain ⟨k, hk⟩ := h.ends n m hstop
        rw [hended] at hk
        cases hk
      · have hnone := h.done hdone (n + 1)
        rw [hhandled, List.filterMap_eq_nil_iff] at hnone
        exact hnone n (by simp)
    · rintro (⟨err, herr⟩ | ⟨hstop, hdone⟩)
      · cases herr
      · refine ⟨fun n m h => ?_, fun n m h => ?_, fun hl k => ?_⟩
        · exact absurd h (by simp [hstop])
        · exact absurd h (by simp [hstop])
        · rw [hhandled, List.filterMap_eq_nil_iff]
          exact fun n _ => hdone hl n

end runs

/-- A cycle in which a message arrives. -/
def arriving (msg : String) (stops : PollMoment → Bool) : PollCycle :=
  ⟨.ok pollIn, .ok msg, emptyServer, stops⟩

/-- `stop` is called before the first cycle, and the listener goes on to handle what
arrives. -/
theorem not_stopsWhenTold_arriving :
    ¬ StopsWhenTold ⟨false, "tcp://127.0.0.1:27960", ""⟩
      (fun n => arriving (dataless "MATCH_STARTED") fun m => n = 0 ∧ m = .poll)
      (pollZmq datalessCodec id (fun _ _ => .ok ()) ⟨false, "tcp://127.0.0.1:27960", ""⟩
        fun n => arriving (dataless "MATCH_STARTED") fun m => n = 0 ∧ m = .poll) := by
  intro h
  have hsilent := h.silent 0 .poll (by decide) 1 (by decide)
  exact absurd hsilent (by decide +kernel)

end StatsListener
end ShinQlx
