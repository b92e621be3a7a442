import Mathlib.Algebra.Group.Nat.Defs
import Mathlib.Order.Monotone.Defs
import ShinQlx.Python
import ShinQlx.Scheduler

/-! # Tasks that are put off to a later frame

`next_frame` and the channels put tasks on the queue `next_frame_tasks`.  A frame first
runs the scheduler `frame_tasks` without blocking, again and again until nothing raises;
then it dispatches the frame event; at its end it moves what is on the queue to the
scheduler, to be run at once by the frame after it.  `delay` enters tasks in the scheduler
directly.

`handleFrame` follows `handle_frame`.  What a task does when it is executed is the choice
of an arbitrary list of executions, and the readings of the clock are those of an
arbitrary clock that does not go back.  The state keeps, beside the two queues, what was
enqueued and what was executed, with the number of the frame.  `Orderly` says how these
fit together, at every point of a frame.
-/
namespace ShinQlx

/-- How a task got to the scheduler: by `next_frame_tasks`, where it was put before the
transfer of a frame, or by `delay`. -/
inductive TaskOrigin where
  | nextFrame (frame : Nat)
  | delay
  deriving DecidableEq

/-- A function with its arguments, as the queues hold it. -/
structure FrameTask (A : Type) where
  origin : TaskOrigin
  func : A
  deriving DecidableEq

/-- A task that came by `next_frame_tasks`. -/
def FrameTask.isNextFrame {A : Type} (task : FrameTask A) : Bool :=
  match task.origin with
  | .nextFrame _ => true
  | .delay => false

/-- What code that runs asks for: a call of a function wrapped by `next_frame`, or a
reply to a channel, and a call of one wrapped by `delay(time)`. -/
inductive TaskRequest (T A : Type) where
  | nextFrame (func : A)
  | delay (time : T) (func : A)

/-- Readings of a clock that does not go back. -/
structure Clock (T : Type) [LinearOrder T] where
  read : Nat → T
  monotone : Monotone read

/-- What an execution of a task does: its requests, and the exception it ends with. -/
structure Execution (T A : Type) where
  requests : List (TaskRequest T A)
  raised : Option PyErr

/-- What the dispatch of the frame event does: the requests of the handlers, and whether
it could be dispatched. -/
structure FrameEvent (T A : Type) where
  requests : List (TaskRequest T A)
  result : PyResult Unit

/-- The queue and the scheduler, how often the clock was read and a task executed, how
many frames have made their transfer, what was put on the queue, each with the frame
whose transfer was to come, and what was executed, each with the frame that ran it. -/
structure FrameTasks (T A : Type) where
  nextFrameTasks : List (FrameTask A)
  frameTasks : Scheduler.Queue T (FrameTask A)
  reads : Nat
  executions : Nat
  frame : Nat
  enqueued : List (Nat × A)
  executed : List (Nat × FrameTask A)

namespace FrameTasks
variable {T A : Type} [LinearOrder T] [AddZeroClass T]

/-- Nothing enqueued and nothing executed. -/
def start : FrameTasks T A := ⟨[], .empty, 0, 0, 0, [], []⟩

variable (clock : Clock T) (execution : Nat → Execution T A)

/-- `frame_tasks.enter(time, 1, func, args, kwargs)`. -/
def enter (s : FrameTasks T A) (time : T) (task : FrameTask A) : FrameTasks T A :=
  { s with frameTasks := s.frameTasks.enter (clock.read s.reads + time) 1 task
           reads := s.reads + 1 }

/-- The functions that `next_frame` and `delay` wrap around another. -/
def request (s : FrameTasks T A) : TaskRequest T A → FrameTasks T A
  | .nextFrame func =>
    { s with nextFrameTasks := s.nextFrameTasks ++ [⟨.nextFrame s.frame, func⟩]
             enqueued := s.enqueued ++ [(s.frame, func)] }
  | .delay time func => s.enter clock time ⟨.delay, func⟩

/-- The requests of code that runs, in order. -/
def requests (s : FrameTasks T A) (rs : List (TaskRequest T A)) : FrameTasks T A :=
  rs.foldl (request clock) s

/-- What one turn of `frame_tasks.run(blocking=False)` comes to. -/
inductive Turn where
  | idle
  | ran (raised : Option PyErr)

/-- A task has been taken off the scheduler, and its execution begins. -/
def begin (s : FrameTasks T A) (task : FrameTask A) (frameTasks : Scheduler.Queue T (FrameTask A)) :
    FrameTasks T A :=
  { s with frameTasks := frameTasks
           reads := s.reads + 1
           executions := s.executions + 1
           executed := s.executed ++ [(s.frame, task)] }

/-- One turn of `frame_tasks.run(blocking=False)`: it takes the first event off the queue
and executes it, if its time has come. -/
def turn (s : FrameTasks T A) : Turn × FrameTasks T A :=
  match s.frameTasks.due (clock.read s.reads) with
  | none => (.idle, { s with reads := s.reads + 1 })
  | some (task, frameTasks) =>
    let ran := execution s.executions
    (.ran ran.raised, (s.begin task frameTasks).requests clock ran.requests)

/-- `try_run_frame_tasks`: turns until nothing is due, or an execution raises. -/
def tryRunFrameTasks : Nat → FrameTasks T A → Option (PyResult Unit × FrameTasks T A)
  | 0, _ => none
  | fuel + 1, s =>
    match s.turn clock execution with
    | (.idle, s) => some (.ok (), s)
    | (.ran (some e), s) => some (.error e, s)
    | (.ran none, s) => tryRunFrameTasks fuel s

/-- `while try_run_frame_tasks(py).is_err() {}`, with what it logs. -/
def runFrameTasks (fuel : Nat) : Nat → FrameTasks T A → Option (List PyErr × FrameTasks T A)
  | 0, _ => none
  | n + 1, s =>
    match s.tryRunFrameTasks clock execution fuel with
    | none => none
    | some (.ok (), s) => some ([], s)
    | some (.error e, s) => (runFrameTasks fuel n s).map fun (logged, s) => (e :: logged, s)

/-- The loop of `next_frame_tasks_runner`, over what is on the queue. -/
def nextFrameTasksRunner : List (FrameTask A) → FrameTasks T A → FrameTasks T A
  | [], s => s
  | task :: tasks, s =>
    nextFrameTasksRunner tasks ({ s with nextFrameTasks := tasks }.enter clock 0 task)

/-- `transfer_next_frame_tasks`. -/
def transferNextFrameTasks (s : FrameTasks T A) : FrameTasks T A :=
  nextFrameTasksRunner clock s.nextFrameTasks { s with frame := s.frame + 1 }

/-- `handle_frame`, with what it returns and what it logs.  It returns `none` if it
is given too little fuel. -/
def handleFrame (fuel : Nat) (event : FrameEvent T A) (s : FrameTasks T A) :
    Option ((Option Bool × List PyErr) × FrameTasks T A) :=
  (s.runFrameTasks clock execution fuel fuel).map fun (logged, s) =>
    let s := s.requests clock event.requests
    let reply :=
      match event.result with
      | .ok () => (none, logged)
      | .error e => (some true, logged ++ [e])
    (reply, s.transferNextFrameTasks clock)

/-- What happens to the queues: a request made between two frames, or a frame. -/
inductive Call (T A : Type) where
  | request (r : TaskRequest T A)
  | frame (event : FrameEvent T A)

/-- A run of requests and frames. -/
def run (fuel : Nat) : List (Call T A) → FrameTasks T A → Option (FrameTasks T A)
  | [], s => some s
  | .request r :: calls, s => run fuel calls (s.request clock r)
  | .frame event :: calls, s =>
    (s.handleFrame clock execution fuel event).bind fun (_, s) => run fuel calls s

/-! ## What the queues hold -/

/-- The tasks that came by `next_frame_tasks` and wait in the scheduler. -/
def scheduled (s : FrameTasks T A) : List (FrameTask A) :=
  s.frameTasks.selected FrameTask.isNextFrame

/-- The tasks that came by `next_frame_tasks` and were executed, with their frames. -/
def executedTasks (s : FrameTasks T A) : List (Nat × FrameTask A) :=
  s.executed.filter (·.2.isNextFrame)

/-- The tasks that were put on `next_frame_tasks`. -/
def enqueuedTasks (s : FrameTasks T A) : List (FrameTask A) :=
  s.enqueued.map fun (frame, func) => ⟨.nextFrame frame, func⟩

/-- **The invariant of the two queues.**  What was put on `next_frame_tasks` was executed,
in the frame after the one that moved it, or waits in the scheduler for this frame, or is
still on the queue, for the transfer of frame `queuedIn`; in this order. -/
structure Orderly (clock : Clock T) (queuedIn : Nat) (s : FrameTasks T A) : Prop where
  valid : s.frameTasks.Valid
  punctual : s.frameTasks.Punctual FrameTask.isNextFrame 1 (clock.read s.reads)
  history : s.enqueuedTasks = s.executedTasks.map Prod.snd ++ s.scheduled ++ s.nextFrameTasks
  executed : ∀ ran ∈ s.executedTasks, ∃ frame, ran.2.origin = .nextFrame frame ∧ ran.1 = frame + 1
  scheduled : ∀ task ∈ s.scheduled, ∃ frame, task.origin = .nextFrame frame ∧ frame + 1 = s.frame
  queued : ∀ task ∈ s.nextFrameTasks, task.origin = .nextFrame queuedIn

variable {clock execution}

theorem request_scheduled (clock : Clock T) (s : FrameTasks T A) (r : TaskRequest T A) :
    (s.request clock r).scheduled = s.scheduled := by
  cases r with
  | nextFrame func => rfl
  | delay time func => exact Scheduler.Queue.selected_enter_of_not _ _ rfl

theorem requests_scheduled (clock : Clock T) (s : FrameTasks T A) (rs : List (TaskRequest T A)) :
    (s.requests clock rs).scheduled = s.scheduled := by
  induction rs generalizing s with
  | nil => rfl
  | cons r rs ih => exact (ih (s.request clock r)).trans (request_scheduled clock s r)

theorem Orderly.request {s : FrameTasks T A} (h : s.Orderly clock s.frame)
    (r : TaskRequest T A) : (s.request clock r).Orderly clock s.frame := by
  cases r with
  | nextFrame func =>
    refine ⟨h.valid, h.punctual, ?_, h.executed, h.scheduled, ?_⟩
    · show (s.enqueued ++ [(s.frame, func)]).map _ = _ ++ (s.nextFrameTasks ++ [_])
      rw [List.map_append, ← List.append_assoc]
      exact congrArg (· ++ _) h.history
    · intro task htask
      rcases List.mem_append.mp htask with htask | htask
      · exact h.queued task htask
      · rw [List.mem_singleton.mp htask]
  | delay time func =>
    have hscheduled := request_scheduled clock s (.delay time func)
    refine ⟨h.valid.enter _ _ _, ?_, ?_, h.executed, ?_, h.queued⟩
    · refine Scheduler.Queue.Punctual.enter (h.punctual.mono (clock.monotone s.reads.le_succ)) ?_
      rintro ⟨⟩
    · rw [hscheduled]
      exact h.history
    · rw [hscheduled]
      exact h.scheduled

theorem request_frame (clock : Clock T) (s : FrameTasks T A) (r : TaskRequest T A) :
    (s.request clock r).frame = s.frame ∧ (s.request clock r).executed = s.executed := by
  cases r <;> exact ⟨rfl, rfl⟩

theorem requests_frame (clock : Clock T) (s : FrameTasks T A) (rs : List (TaskRequest T A)) :
    (s.requests clock rs).frame = s.frame ∧ (s.requests clock rs).executed = s.executed := by
  induction rs generalizing s with
  | nil => exact ⟨rfl, rfl⟩
  | cons r rs ih =>
    obtain ⟨hframe, hexecuted⟩ := ih (s.request clock r)
    obtain ⟨hframe', hexecuted'⟩ := request_frame clock s r
    exact ⟨hframe.trans hframe', hexecuted.trans hexecuted'⟩

theorem Orderly.requests {s : FrameTasks T A} (h : s.Orderly clock s.frame)
    (rs : List (TaskRequest T A)) : (s.requests clock rs).Orderly clock s.frame := by
  induction rs generalizing s with
  | nil => exact h
  | cons r rs ih =>
    have hr := h.request r
    rw [← (request_frame clock s r).1] at hr ⊢
    exact ih hr

/-! ## One turn of the scheduler -/

omit [AddZeroClass T] in
/-- A task that is taken off the scheduler moves from those that wait to those that ran. -/
theorem Orderly.begin {s : FrameTasks T A} (h : s.Orderly clock s.frame) {task : FrameTask A}
    {frameTasks : Scheduler.Queue T (FrameTask A)}
    (hdue : s.frameTasks.due (clock.read s.reads) = some (task, frameTasks)) :
    (s.begin task frameTasks).Orderly clock s.frame := by
  have hpunctual := (h.punctual.mono (clock.monotone s.reads.le_succ)).due hdue
  have hselected : s.scheduled =
      if task.isNextFrame then task :: (s.begin task frameTasks).scheduled
      else (s.begin task frameTasks).scheduled :=
    Scheduler.Queue.selected_due hdue
  have hexecuted : (s.begin task frameTasks).executedTasks =
      s.executedTasks ++ [(s.frame, task)].filter (·.2.isNextFrame) :=
    List.filter_append s.executed [(s.frame, task)]
  cases hnext : task.isNextFrame with
  | true =>
    rw [hnext, if_pos rfl] at hselected
    simp only [List.filter_cons, hnext, if_true, List.filter_nil] at hexecuted
    refine ⟨h.valid.due hdue, hpunctual, ?_, ?_, ?_, h.queued⟩
    · rw [hexecuted, List.map_append, List.append_assoc _ _ (FrameTasks.scheduled _)]
      have hhistory := h.history
      rw [hselected] at hhistory
      exact hhistory
    · rw [hexecuted]
      intro ran hran
      rcases List.mem_append.mp hran with hran | hran
      · exact h.executed ran hran
      · rw [List.mem_singleton.mp hran]
        obtain ⟨frame, horigin, hframe⟩ := h.scheduled task (hselected ▸ List.mem_cons_self ..)
        exact ⟨frame, horigin, hframe.symm⟩
    · intro task' htask'
      exact h.scheduled task' (hselected ▸ List.mem_cons_of_mem _ htask')
  | false =>
    rw [hnext, if_neg (by simp)] at hselected
    simp only [List.filter_cons, hnext, Bool.false_eq_true, if_false, List.filter_nil,
      List.append_nil] at hexecuted
    refine ⟨h.valid.due hdue, hpunctual, ?_, ?_, ?_, h.queued⟩
    · rw [hexecuted]
      have hhistory := h.history
      rw [hselected] at hhistory
      exact hhistory
    · rw [hexecuted]
      exact h.executed
    · intro task' htask'
      exact h.scheduled task' (hselected ▸ htask')

/-- What was executed up to a state was executed before, or in this frame. -/
def ExecutedSince (s s' : FrameTasks T A) : Prop :=
  s'.frame = s.frame ∧ ∀ ran ∈ s'.executed, ran ∈ s.executed ∨ ran.1 = s.frame

omit [LinearOrder T] [AddZeroClass T] in
theorem ExecutedSince.refl (s : FrameTasks T A) : s.ExecutedSince s :=
  ⟨rfl, fun _ => .inl⟩

omit [LinearOrder T] [AddZeroClass T] in
theorem ExecutedSince.trans {s s' s'' : FrameTasks T A} (h : s.ExecutedSince s')
    (h' : s'.ExecutedSince s'') : s.ExecutedSince s'' := by
  refine ⟨h'.1.trans h.1, fun ran hran => ?_⟩
  rcases h'.2 ran hran with hran | hran
  · exact h.2 ran hran
  · exact .inr (hran.trans h.1)

theorem executedSince_requests (clock : Clock T) (s : FrameTasks T A)
    (rs : List (TaskRequest T A)) : s.ExecutedSince (s.requests clock rs) := by
  obtain ⟨hframe, hexecuted⟩ := requests_frame clock s rs
  exact ⟨hframe, fun ran hran => .inl (hexecuted ▸ hran)⟩

/-- **One turn** keeps the queues orderly, and what it executes it executes in this frame. -/
theorem Orderly.turn {s s' : FrameTasks T A} (h : s.Orderly clock s.frame) {t : Turn}
    (hturn : s.turn clock execution = (t, s')) :
    s'.Orderly clock s'.frame ∧ s.ExecutedSince s' ∧ (t = .idle → s'.scheduled = []) := by
  unfold FrameTasks.turn at hturn
  cases hdue : s.frameTasks.due (clock.read s.reads) with
  | none =>
    rw [hdue] at hturn
    cases hturn
    refine ⟨⟨h.valid, h.punctual.mono (clock.monotone s.reads.le_succ), h.history, h.executed,
      h.scheduled, h.queued⟩, ExecutedSince.refl _, fun _ => ?_⟩
    exact Scheduler.Queue.selected_of_due_none h.valid h.punctual hdue
  | some taken =>
    obtain ⟨task, frameTasks⟩ := taken
    rw [hdue] at hturn
    cases hturn
    have hbegin := h.begin hdue
    have hsince : s.ExecutedSince (s.begin task frameTasks) := by
      refine ⟨rfl, fun ran hran => ?_⟩
      rcases List.mem_append.mp hran with hran | hran
      · exact .inl hran
      · exact .inr (congrArg Prod.fst (List.mem_singleton.mp hran))
    have hrequests := executedSince_requests clock (s.begin task frameTasks)
      (execution s.executions).requests
    refine ⟨?_, hsince.trans hrequests, by rintro ⟨⟩⟩
    rw [hrequests.1]
    exact hbegin.requests _

/-! ## The frame -/

theorem Orderly.tryRunFrameTasks {fuel : Nat} {s s' : FrameTasks T A}
    (h : s.Orderly clock s.frame) {result : PyResult Unit}
    (hrun : s.tryRunFrameTasks clock execution fuel = some (result, s')) :
    s'.Orderly clock s'.frame ∧ s.ExecutedSince s' ∧ (result = .ok () → s'.scheduled = []) := by
  induction fuel generalizing s with
  | zero => cases hrun
  | succ fuel ih =>
    rw [FrameTasks.tryRunFrameTasks] at hrun
    rcases hturn : s.turn clock execution with ⟨t, middle⟩
    obtain ⟨hmiddle, hsince, hidle⟩ := h.turn hturn
    rw [hturn] at hrun
    match t, hrun with
    | .idle, hrun =>
      cases hrun
      exact ⟨hmiddle, hsince, fun _ => hidle rfl⟩
    | .ran (some e), hrun =>
      cases hrun
      exact ⟨hmiddle, hsince, by rintro ⟨⟩⟩
    | .ran none, hrun =>
      obtain ⟨hs', hsince', hok⟩ := ih hmiddle hrun
      exact ⟨hs', hsince.trans hsince', hok⟩

/-- When the retry loop ends, nothing that came by `next_frame_tasks` is left in the
scheduler. -/
theorem Orderly.runFrameTasks {fuel n : Nat} {s s' : FrameTasks T A}
    (h : s.Orderly clock s.frame) {logged : List PyErr}
    (hrun : s.runFrameTasks clock execution fuel n = some (logged, s')) :
    s'.Orderly clock s'.frame ∧ s.ExecutedSince s' ∧ s'.scheduled = [] := by
  induction n generalizing s logged with
  | zero => cases hrun
  | succ n ih =>
    rw [FrameTasks.runFrameTasks] at hrun
    split at hrun
    · cases hrun
    · rename_i hok
      cases hrun
      obtain ⟨hs', hsince, hnone⟩ := h.tryRunFrameTasks hok
      exact ⟨hs', hsince, hnone rfl⟩
    · rename_i middle herror
      obtain ⟨⟨logged', s''⟩, hagain, heq⟩ := Option.map_eq_some_iff.mp hrun
      cases heq
      obtain ⟨hmiddle, hsince, -⟩ := h.tryRunFrameTasks herror
      obtain ⟨hs', hsince', hnone⟩ := ih hmiddle hagain
      exact ⟨hs', hsince.trans hsince', hnone⟩

/-- Moving a task from the queue to the scheduler. -/
theorem Orderly.move {s : FrameTasks T A} {frame : Nat} (h : s.Orderly clock frame)
    (hframe : s.frame = frame + 1) {task : FrameTask A} {tasks : List (FrameTask A)}
    (htasks : s.nextFrameTasks = task :: tasks) :
    ({ s with nextFrameTasks := tasks }.enter clock 0 task).Orderly clock frame := by
  have horigin := h.queued task (htasks ▸ List.mem_cons_self ..)
  have hnext : task.isNextFrame = true := by
    rw [FrameTask.isNextFrame, horigin]
  -- the clock has not gone back since the other tasks were entered
  have hscheduled : ({ s with nextFrameTasks := tasks }.enter clock 0 task).scheduled =
      s.scheduled ++ [task] := by
    refine Scheduler.Queue.selected_enter h.valid ?_ hnext
    rw [add_zero]
    exact h.punctual
  refine ⟨h.valid.enter _ _ _, ?_, ?_, h.executed, ?_, ?_⟩
  · refine Scheduler.Queue.Punctual.enter (h.punctual.mono (clock.monotone s.reads.le_succ))
      (fun _ => ⟨?_, rfl⟩)
    rw [add_zero]
    exact clock.monotone s.reads.le_succ
  · rw [hscheduled]
    have hhistory := h.history
    rw [htasks] at hhistory
    rw [← List.append_assoc, List.append_assoc]
    exact hhistory
  · rw [hscheduled]
    intro task' htask'
    rcases List.mem_append.mp htask' with htask' | htask'
    · exact h.scheduled task' htask'
    · rw [List.mem_singleton.mp htask']
      exact ⟨frame, horigin, hframe.symm⟩
  · intro task' htask'
    exact h.queued task' (htasks ▸ List.mem_cons_of_mem _ htask')

theorem Orderly.nextFrameTasksRunner {s : FrameTasks T A} {frame : Nat}
    (h : s.Orderly clock frame) (hframe : s.frame = frame + 1) {tasks : List (FrameTask A)}
    (htasks : s.nextFrameTasks = tasks) :
    (nextFrameTasksRunner clock tasks s).Orderly clock s.frame ∧
      (nextFrameTasksRunner clock tasks s).frame = s.frame ∧
      (nextFrameTasksRunner clock tasks s).executed = s.executed := by
  induction tasks generalizing s with
  | nil =>
    refine ⟨⟨h.valid, h.punctual, h.history, h.executed, h.scheduled, ?_⟩, rfl, rfl⟩
    intro task htask
    rw [FrameTasks.nextFrameTasksRunner, htasks] at htask
    cases htask
  | cons task tasks ih => exact ih (h.move hframe htasks) hframe rfl

/-- The queues between two frames: what was executed was executed in a frame that is over. -/
structure Settled (clock : Clock T) (s : FrameTasks T A) : Prop where
  orderly : s.Orderly clock s.frame
  finished : ∀ ran ∈ s.executed, ran.1 < s.frame

omit [AddZeroClass T] in
theorem settled_start (clock : Clock T) : (start : FrameTasks T A).Settled clock where
  orderly :=
    { valid := Scheduler.Queue.valid_empty
      punctual := by simp [Scheduler.Queue.Punctual, start, Scheduler.Queue.empty]
      history := rfl
      executed := by simp [executedTasks, start]
      scheduled := by simp [FrameTasks.scheduled, Scheduler.Queue.selected, start,
        Scheduler.Queue.empty]
      queued := by simp [start] }
  finished := by simp [start]

theorem Settled.request {s : FrameTasks T A} (h : s.Settled clock) (r : TaskRequest T A) :
    (s.request clock r).Settled clock := by
  obtain ⟨hframe, hexecuted⟩ := request_frame clock s r
  refine ⟨?_, ?_⟩
  · rw [hframe]
    exact h.orderly.request r
  · rw [hframe, hexecuted]
    exact h.finished

/-- **One frame** leaves the queues settled. -/
theorem Settled.handleFrame {s s' : FrameTasks T A} (h : s.Settled clock) {fuel : Nat}
    {event : FrameEvent T A} {reply : Option Bool × List PyErr}
    (hframe : s.handleFrame clock execution fuel event = some (reply, s')) :
    s'.Settled clock := by
  obtain ⟨⟨logged, ran⟩, hrun, heq⟩ := Option.map_eq_some_iff.mp hframe
  cases heq
  obtain ⟨hran, hsince, hnone⟩ := h.orderly.runFrameTasks hrun
  have hrequests := executedSince_requests clock ran event.requests
  have hdispatched := hran.requests event.requests
  have hempty := (requests_scheduled clock ran event.requests).trans hnone
  have hsince' := hsince.trans hrequests
  rw [← hrequests.1] at hdispatched
  generalize ran.requests clock event.requests = s' at hdispatched hempty hsince' ⊢
  -- nothing that the transfer of an earlier frame moved is left
  have hnext : ({ s' with frame := s'.frame + 1 } : FrameTasks T A).Orderly clock s'.frame :=
    { valid := hdispatched.valid
      punctual := hdispatched.punctual
      history := hdispatched.history
      executed := hdispatched.executed
      scheduled := by
        intro task htask
        have htask' : task ∈ s'.scheduled := htask
        rw [hempty] at htask'
        cases htask'
      queued := hdispatched.queued }
  obtain ⟨hmoved, hmovedFrame, hmovedExecuted⟩ := hnext.nextFrameTasksRunner rfl rfl
  rw [← hmovedFrame] at hmoved
  refine ⟨hmoved, fun ran hran => ?_⟩
  rw [transferNextFrameTasks, hmovedExecuted] at hran
  rw [transferNextFrameTasks, hmovedFrame]
  have hs' : s'.frame = s.frame := hsince'.1
  show ran.1 < s'.frame + 1
  rcases hsince'.2 ran hran with hbefore | hnow
  · have := h.finished ran hbefore
    omega
  · omega

theorem Settled.run {fuel : Nat} {calls : List (Call T A)} {s s' : FrameTasks T A}
    (h : s.Settled clock) (hrun : s.run clock execution fuel calls = some s') :
    s'.Settled clock := by
  induction calls generalizing s with
  | nil =>
    cases hrun
    exact h
  | cons call calls ih =>
    cases call with
    | request r => exact ih (h.request r) hrun
    | frame event =>
      obtain ⟨⟨reply, middle⟩, hframe, hrest⟩ := Option.bind_eq_some_iff.mp hrun
      exact ih (h.handleFrame hframe) hrest

/-- The frame that runs a task which came by `next_frame_tasks`, beside the task. -/
def inFrame (task : FrameTask A) : Nat × FrameTask A :=
  match task.origin with
  | .nextFrame frame => (frame + 1, task)
  | .delay => (0, task)

omit [AddZeroClass T] in
/-- Between two frames, the tasks executed are those whose frame is over. -/
theorem Settled.executedTasks {s : FrameTasks T A} (h : s.Settled clock) :
    s.executedTasks = (s.enqueued.filter fun (frame, _) => frame + 1 < s.frame).map
      fun (frame, func) => (frame + 1, ⟨.nextFrame frame, func⟩) := by
  have hran : s.executedTasks = (s.executedTasks.map Prod.snd).map inFrame := by
    rw [List.map_map]
    refine (List.map_id s.executedTasks).symm.trans (List.map_congr_left fun ran hran => ?_)
    obtain ⟨frame, horigin, hframe⟩ := h.orderly.executed ran hran
    rw [Function.comp, inFrame, horigin]
    exact Prod.ext hframe rfl
  -- what was enqueued falls into what ran, what is scheduled and what is queued
  obtain ⟨before, queued, hsplit, hbefore, hqueued⟩ := List.map_eq_append_iff.mp h.orderly.history
  obtain ⟨ran, scheduled, rfl, hran', hscheduled⟩ := List.map_eq_append_iff.mp hbefore
  have hkeep : ran.filter (fun (frame, _) => frame + 1 < s.frame) = ran := by
    refine List.filter_eq_self.mpr fun (frame, func) hmem => decide_eq_true ?_
    obtain ⟨done, hdone, heq⟩ := List.mem_map.mp (hran' ▸ List.mem_map_of_mem hmem)
    obtain ⟨frame', horigin, hframe⟩ := h.orderly.executed done hdone
    rw [heq] at horigin
    cases horigin
    rw [← hframe]
    exact h.finished done (List.mem_of_mem_filter hdone)
  have hnotScheduled : scheduled.filter (fun (frame, _) => frame + 1 < s.frame) = [] := by
    refine List.filter_eq_nil_iff.mpr fun (frame, func) hmem => ?_
    obtain ⟨frame', horigin, hframe⟩ :=
      h.orderly.scheduled _ (hscheduled ▸ List.mem_map_of_mem hmem)
    cases horigin
    simp [hframe]
  have hnotQueued : queued.filter (fun (frame, _) => frame + 1 < s.frame) = [] := by
    refine List.filter_eq_nil_iff.mpr fun (frame, func) hmem => ?_
    have horigin := h.orderly.queued _ (hqueued ▸ List.mem_map_of_mem hmem)
    cases horigin
    simp
  rw [hran, ← hran', hsplit, List.filter_append, List.filter_append, hkeep, hnotScheduled,
    hnotQueued, List.append_nil, List.append_nil, List.map_map]
  rfl

/-! ## The retry loop ends -/

/-- The scheduler is idle after at most so many executions. -/
inductive Idles (clock : Clock T) (execution : Nat → Execution T A) :
    Nat → FrameTasks T A → Prop where
  | idle {n : Nat} {s s' : FrameTasks T A} (h : s.turn clock execution = (.idle, s')) :
    Idles clock execution n s
  | ran {n : Nat} {s s' : FrameTasks T A} {raised : Option PyErr}
    (h : s.turn clock execution = (.ran raised, s')) (rest : Idles clock execution n s') :
    Idles clock execution (n + 1) s

theorem requests_executions (s : FrameTasks T A) (rs : List (TaskRequest T A)) :
    (s.requests clock rs).executions = s.executions := by
  induction rs generalizing s with
  | nil => rfl
  | cons r rs ih =>
    refine (ih (s.request clock r)).trans ?_
    cases r <;> rfl

theorem Idles.tryRunFrameTasks {turns : Nat} {s : FrameTasks T A}
    (h : Idles clock execution turns s) {fuel : Nat} (hfuel : turns < fuel) :
    ∃ result s', s.tryRunFrameTasks clock execution fuel = some (result, s') ∧
      ∀ e, result = .error e → ∃ fewer, fewer < turns ∧ Idles clock execution fewer s' := by
  obtain ⟨fuel, rfl⟩ := Nat.exists_eq_add_one_of_ne_zero (Nat.ne_of_gt (Nat.zero_lt_of_lt hfuel))
  induction h generalizing fuel with
  | idle hturn =>
    refine ⟨.ok (), _, by rw [FrameTasks.tryRunFrameTasks, hturn], by rintro e ⟨⟩⟩
  | @ran turns s s' raised hturn rest ih =>
    cases raised with
    | some e =>
      exact ⟨.error e, s', by rw [FrameTasks.tryRunFrameTasks, hturn],
        fun _ _ => ⟨turns, Nat.lt_succ_self _, rest⟩⟩
    | none =>
      obtain ⟨fuel, rfl⟩ := Nat.exists_eq_add_one_of_ne_zero
        (Nat.ne_of_gt (Nat.zero_lt_of_lt (Nat.lt_of_succ_lt_succ hfuel)))
      obtain ⟨result, s'', hrun, herror⟩ := ih fuel (Nat.lt_of_succ_lt_succ hfuel)
      refine ⟨result, s'', by rw [FrameTasks.tryRunFrameTasks, hturn]; exact hrun, fun e he => ?_⟩
      obtain ⟨fewer, hlt, hidles⟩ := herror e he
      exact ⟨fewer, Nat.lt_succ_of_lt hlt, hidles⟩

/-- **The retry loop ends**: every attempt that raises has taken a task off the
scheduler. -/
theorem Idles.runFrameTasks {turns : Nat} {s : FrameTasks T A}
    (h : Idles clock execution turns s) {fuel n : Nat} (hfuel : turns < fuel) (hn : turns < n) :
    ∃ logged s', s.runFrameTasks clock execution fuel n = some (logged, s') := by
  induction n generalizing s turns with
  | zero => cases hn
  | succ n ih =>
    obtain ⟨result, s', hrun, herror⟩ := h.tryRunFrameTasks hfuel
    cases result with
    | ok u => exact ⟨[], s', by rw [FrameTasks.runFrameTasks, hrun]⟩
    | error e =>
      obtain ⟨fewer, hlt, hidles⟩ := herror e rfl
      obtain ⟨logged, s'', hagain⟩ := ih hidles (by omega) (by omega)
      exact ⟨e :: logged, s'', by rw [FrameTasks.runFrameTasks, hrun]; simp [hagain]⟩

/-! ## More fuel changes nothing -/

/-- A clock that ticks at every reading. -/
def ticking : Clock Nat := ⟨id, monotone_id⟩

end FrameTasks
end ShinQlx
