import Mathlib.Data.List.Range
import ShinQlx.FrameTasks

/-! # What is put off in a run of frames

Code that runs between frames, the handlers of the frame event and the tasks themselves do
deeds, and each deed asks for some tasks.  A log has the deeds of a run in the order in which
they were done, each with the frame that it came in.

`Logged` says that a log has every deed of the code between frames and of the handlers, and every
deed of each execution, as often as it was done and in the order of the code that did it, and that
the tasks on the queue are those that the deeds in the log asked for, in that order.
-/
namespace ShinQlx
namespace FrameTasks
variable {T A D : Type} [LinearOrder T] [AddZeroClass T]

/-- What an execution of a task does, as deeds. -/
structure Deeds (D : Type) where
  deeds : List D
  raised : Option PyErr

/-- What happens to the queues: a deed between two frames, or a frame with the deeds of its
handlers. -/
inductive DeedCall (D : Type) where
  | deed (d : D)
  | frame (deeds : List D) (result : PyResult Unit)

/-- The tasks of requests that `next_frame` puts off. -/
def nextFrames (rs : List (TaskRequest T A)) : List A :=
  rs.filterMap fun
    | .nextFrame func => some func
    | .delay _ _ => none

/-- The deeds of a call. -/
def DeedCall.deeds : DeedCall D → List D
  | .deed d => [d]
  | .frame ds _ => ds

section
variable (asks : D → List (TaskRequest T A))

/-- The calls that a deed, or a frame, comes to. -/
def DeedCall.calls : DeedCall D → List (Call T A)
  | .deed d => (asks d).map .request
  | .frame ds result => [.frame ⟨ds.flatMap asks, result⟩]

/-- An execution with the requests of its deeds. -/
def Deeds.execution (x : Deeds D) : Execution T A := ⟨x.deeds.flatMap asks, x.raised⟩

/-- The deeds of the executions so far. -/
def executionDeeds (execution : Nat → Deeds D) (executions : Nat) : List D :=
  (List.range executions).flatMap fun n => (execution n).deeds

/-- **The log of a run**, of which `made` are the deeds of the calls. -/
structure Logged (execution : Nat → Deeds D) (made : List D) (s : FrameTasks T A)
    (log : List (Nat × D)) : Prop where
  enqueued : s.enqueued = log.flatMap fun x => (nextFrames (asks x.2)).map (x.1, ·)
  ofCalls : made.Sublist (log.map Prod.snd)
  ofExecutions : (executionDeeds execution s.executions).Sublist (log.map Prod.snd)
  perm : (log.map Prod.snd).Perm (made ++ executionDeeds execution s.executions)

variable {asks} {clock : Clock T} {execution : Nat → Deeds D} {made : List D}

omit [LinearOrder T] [AddZeroClass T] in
theorem nextFrames_append (rs rs' : List (TaskRequest T A)) :
    nextFrames (rs ++ rs') = nextFrames rs ++ nextFrames rs' :=
  List.filterMap_append

theorem request_enqueued (clock : Clock T) (s : FrameTasks T A) (r : TaskRequest T A) :
    (s.request clock r).enqueued = s.enqueued ++ (nextFrames [r]).map (s.frame, ·) := by
  cases r with
  | nextFrame func => rfl
  | delay time func => exact (List.append_nil _).symm

theorem requests_enqueued (clock : Clock T) (s : FrameTasks T A) (rs : List (TaskRequest T A)) :
    (s.requests clock rs).enqueued = s.enqueued ++ (nextFrames rs).map (s.frame, ·) := by
  induction rs generalizing s with
  | nil => exact (List.append_nil _).symm
  | cons r rs ih =>
    rw [show s.requests clock (r :: rs) = (s.request clock r).requests clock rs from rfl, ih,
      request_enqueued, (request_frame clock s r).1, List.append_assoc, ← List.map_append,
      ← nextFrames_append]
    rfl

theorem executionDeeds_succ (execution : Nat → Deeds D) (n : Nat) :
    executionDeeds execution (n + 1) = executionDeeds execution n ++ (execution n).deeds := by
  rw [executionDeeds, List.range_succ, List.flatMap_append, executionDeeds]
  exact congrArg _ (List.append_nil _)

/-- The log with some deeds of a frame behind it. -/
def logged (log : List (Nat × D)) (frame : Nat) (ds : List D) : List (Nat × D) :=
  log ++ ds.map (frame, ·)

theorem logged_map_snd (log : List (Nat × D)) (frame : Nat) (ds : List D) :
    (logged log frame ds).map Prod.snd = log.map Prod.snd ++ ds := by
  rw [logged, List.map_append, List.map_map]
  exact congrArg _ (List.map_id _)

omit [LinearOrder T] [AddZeroClass T] in
theorem logged_puts (asks : D → List (TaskRequest T A)) (log : List (Nat × D)) (frame : Nat)
    (ds : List D) :
    ((logged log frame ds).flatMap fun x => (nextFrames (asks x.2)).map (x.1, ·)) =
      (log.flatMap fun x => (nextFrames (asks x.2)).map (x.1, ·)) ++
        (nextFrames (ds.flatMap asks)).map (frame, ·) := by
  rw [logged, List.flatMap_append]
  refine congrArg _ ?_
  induction ds with
  | nil => rfl
  | cons d ds ih =>
    rw [List.map_cons, List.flatMap_cons, ih, List.flatMap_cons, nextFrames_append,
      List.map_append]

/-! ## What a step adds to the log -/

variable (clock) in
/-- Deeds of a call. -/
theorem Logged.madeDeeds {s : FrameTasks T A} {log : List (Nat × D)}
    (h : Logged asks execution made s log) (ds : List D) :
    Logged asks execution (made ++ ds) (s.requests clock (ds.flatMap asks))
      (logged log s.frame ds) := by
  have hexecutions : (s.requests clock (ds.flatMap asks)).executions = s.executions :=
    requests_executions s (ds.flatMap asks)
  constructor
  case enqueued => rw [requests_enqueued, h.enqueued, logged_puts]
  case ofCalls =>
    rw [logged_map_snd]
    exact h.ofCalls.append (List.Sublist.refl ds)
  case ofExecutions =>
    rw [logged_map_snd, hexecutions]
    exact h.ofExecutions.trans (List.sublist_append_left _ ds)
  case perm =>
    rw [logged_map_snd, hexecutions]
    refine (h.perm.append_right ds).trans ?_
    rw [List.append_assoc, List.append_assoc]
    exact List.perm_append_comm.append_left made

/-- Deeds of an execution. -/
theorem Logged.turn {s s' : FrameTasks T A} {log : List (Nat × D)}
    (h : Logged asks execution made s log) {t : Turn}
    (hturn : s.turn clock (fun n => (execution n).execution asks) = (t, s')) :
    ∃ log', Logged asks execution made s' log' := by
  rw [FrameTasks.turn] at hturn
  cases hdue : s.frameTasks.due (clock.read s.reads) with
  | none =>
    rw [hdue] at hturn
    cases hturn
    exact ⟨log, h.enqueued, h.ofCalls, h.ofExecutions, h.perm⟩
  | some taken =>
    obtain ⟨task, frameTasks⟩ := taken
    rw [hdue] at hturn
    cases hturn
    let ds := (execution s.executions).deeds
    have hexecutions : ((s.begin task frameTasks).requests clock (ds.flatMap asks)).executions =
        (s.begin task frameTasks).executions :=
      requests_executions _ (ds.flatMap asks)
    have hdeeds := executionDeeds_succ execution s.executions
    refine ⟨logged log s.frame ds, ?_⟩
    show Logged asks execution made
      ((s.begin task frameTasks).requests clock (ds.flatMap asks)) (logged log s.frame ds)
    constructor
    case enqueued =>
      rw [requests_enqueued, logged_puts, ← h.enqueued]
      rfl
    case ofCalls =>
      rw [logged_map_snd]
      exact h.ofCalls.trans (List.sublist_append_left _ ds)
    case ofExecutions =>
      rw [logged_map_snd, hexecutions]
      show (executionDeeds execution (s.executions + 1)).Sublist _
      rw [hdeeds]
      exact h.ofExecutions.append (List.Sublist.refl ds)
    case perm =>
      rw [logged_map_snd, hexecutions]
      show (_ ++ ds).Perm (made ++ executionDeeds execution (s.executions + 1))
      rw [hdeeds, ← List.append_assoc]
      exact h.perm.append_right ds

theorem Logged.tryRunFrameTasks {fuel : Nat} {s s' : FrameTasks T A} {log : List (Nat × D)}
    (h : Logged asks execution made s log) {result : PyResult Unit}
    (hrun : s.tryRunFrameTasks clock (fun n => (execution n).execution asks) fuel =
      some (result, s')) :
    ∃ log', Logged asks execution made s' log' := by
  induction fuel generalizing s log with
  | zero => cases hrun
  | succ fuel ih =>
    rw [FrameTasks.tryRunFrameTasks] at hrun
    rcases hturn : s.turn clock (fun n => (execution n).execution asks) with ⟨t, middle⟩
    obtain ⟨log', hmiddle⟩ := h.turn hturn
    rw [hturn] at hrun
    obtain _ | _ | e := t
    · cases hrun
      exact ⟨log', hmiddle⟩
    · exact ih hmiddle hrun
    · cases hrun
      exact ⟨log', hmiddle⟩

theorem Logged.runFrameTasks {fuel n : Nat} {s s' : FrameTasks T A} {log : List (Nat × D)}
    (h : Logged asks execution made s log) {errors : List PyErr}
    (hrun : s.runFrameTasks clock (fun n => (execution n).execution asks) fuel n =
      some (errors, s')) :
    ∃ log', Logged asks execution made s' log' := by
  induction n generalizing s log errors with
  | zero => cases hrun
  | succ n ih =>
    rw [FrameTasks.runFrameTasks] at hrun
    split at hrun
    · cases hrun
    · rename_i hok
      cases hrun
      exact h.tryRunFrameTasks hok
    · rename_i middle herror
      obtain ⟨⟨errors', s''⟩, hagain, heq⟩ := Option.map_eq_some_iff.mp hrun
      cases heq
      obtain ⟨log', hmiddle⟩ := h.tryRunFrameTasks herror
      exact ih hmiddle hagain

/-- The transfer puts nothing on the queue and executes nothing. -/
theorem nextFrameTasksRunner_enqueued (clock : Clock T) (tasks : List (FrameTask A))
    (s : FrameTasks T A) :
    (nextFrameTasksRunner clock tasks s).enqueued = s.enqueued ∧
      (nextFrameTasksRunner clock tasks s).executions = s.executions := by
  induction tasks generalizing s with
  | nil => exact ⟨rfl, rfl⟩
  | cons task tasks ih => exact ih _

theorem Logged.handleFrame {fuel : Nat} {s s' : FrameTasks T A} {log : List (Nat × D)}
    (h : Logged asks execution made s log) {ds : List D} {result : PyResult Unit}
    {reply : Option Bool × List PyErr}
    (hframe : s.handleFrame clock (fun n => (execution n).execution asks) fuel
      ⟨ds.flatMap asks, result⟩ = some (reply, s')) :
    ∃ log', Logged asks execution (made ++ ds) s' log' := by
  obtain ⟨⟨errors, ran⟩, hrun, heq⟩ := Option.map_eq_some_iff.mp hframe
  cases heq
  obtain ⟨log', hran⟩ := h.runFrameTasks hrun
  have hmade := hran.madeDeeds clock ds
  obtain ⟨henqueued, hexecutions⟩ := nextFrameTasksRunner_enqueued clock
    (ran.requests clock (ds.flatMap asks)).nextFrameTasks
    { ran.requests clock (ds.flatMap asks) with
      frame := (ran.requests clock (ds.flatMap asks)).frame + 1 }
  refine ⟨_, ?_, hmade.ofCalls, ?_, ?_⟩
  · exact henqueued.trans hmade.enqueued
  · rw [transferNextFrameTasks, hexecutions]
    exact hmade.ofExecutions
  · rw [transferNextFrameTasks, hexecutions]
    exact hmade.perm

/-- Requests that are made one by one. -/
theorem run_requests (clock : Clock T) (execution : Nat → Execution T A) (fuel : Nat)
    (rs : List (TaskRequest T A)) (calls : List (Call T A)) (s : FrameTasks T A) :
    s.run clock execution fuel (rs.map .request ++ calls) =
      (s.requests clock rs).run clock execution fuel calls := by
  induction rs generalizing s with
  | nil => rfl
  | cons r rs ih => exact ih (s.request clock r)

/-- **A run has a log.** -/
theorem Logged.run {fuel : Nat} {calls : List (DeedCall D)} {s s' : FrameTasks T A}
    {log : List (Nat × D)} (h : Logged asks execution made s log)
    (hrun : s.run clock (fun n => (execution n).execution asks) fuel
      (calls.flatMap (DeedCall.calls asks)) = some s') :
    ∃ log', Logged asks execution (made ++ calls.flatMap DeedCall.deeds) s' log' := by
  induction calls generalizing s made log with
  | nil =>
    cases hrun
    rw [List.flatMap_nil, List.append_nil]
    exact ⟨log, h⟩
  | cons call calls ih =>
    rw [List.flatMap_cons] at hrun
    rw [List.flatMap_cons, ← List.append_assoc]
    cases call with
    | deed d =>
      have hmade := h.madeDeeds clock [d]
      rw [DeedCall.calls, run_requests] at hrun
      rw [List.flatMap_singleton] at hmade
      exact ih hmade hrun
    | frame ds result =>
      obtain ⟨⟨reply, middle⟩, hframe, hrest⟩ := Option.bind_eq_some_iff.mp hrun
      obtain ⟨log', hmiddle⟩ := h.handleFrame hframe
      exact ih hmiddle hrest

omit [LinearOrder T] [AddZeroClass T] in
theorem logged_start (asks : D → List (TaskRequest T A)) (execution : Nat → Deeds D) :
    Logged asks execution [] (start : FrameTasks T A) [] :=
  ⟨rfl, List.Sublist.refl _, List.Sublist.refl _, List.Perm.refl _⟩

end
end FrameTasks
end ShinQlx
