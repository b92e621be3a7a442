import Mathlib.Data.List.Perm.Basic
import ShinQlx.Run

/-! # Operations that are put off

A machine `step` answers operations one at a time.  A front end to it may put an
operation off: it goes into a queue, and is run later, in the order of the queue.
Operations are numbered as they are issued, so that every answer can be told.

The front end is judged by what it comes to once its queue is flushed.  To put an
operation off is always sound; to refuse one is sound if the flushed machine would refuse
it with the same answer; to run one at once is sound if it is independent of everything
that waits (`Sound`).  A sound decision, flushed, is one step of the flushed machine
(`flush_issue`), and running a part of the queue does not show (`flush_runDue`).
-/
namespace Deferred
variable {S Op O : Type}

/-- What the front end does with an operation. -/
inductive Decision (O : Type) where
  | now
  | later
  | refuse (answer : O)

/-- The state of the machine, the operations that wait, and the answers so far. -/
structure Front (S Op O : Type) where
  state : S
  queue : List (Nat × Op)
  answers : List (Nat × O)

variable (step : S → Op → O × S)

/-- The answers to numbered operations, run one after the other. -/
def answersFrom : S → List (Nat × Op) → List (Nat × O)
  | _, [] => []
  | s, (n, op) :: ops => (n, (step s op).1) :: answersFrom (step s op).2 ops

/-- What follows from the decision on operation number `n`. -/
def issue (f : Front S Op O) (n : Nat) (op : Op) : Decision O → Front S Op O
  | .now =>
    ⟨(step f.state op).2, f.queue, f.answers ++ [(n, (step f.state op).1)]⟩
  | .later => { f with queue := f.queue ++ [(n, op)] }
  | .refuse answer => { f with answers := f.answers ++ [(n, answer)] }

/-- Runs the first `n` operations that wait. -/
def runDue (f : Front S Op O) (n : Nat) : Front S Op O :=
  ⟨Run.final step f.state ((f.queue.take n).map Prod.snd), f.queue.drop n,
    f.answers ++ answersFrom step f.state (f.queue.take n)⟩

/-- Runs all operations that wait. -/
def flush (f : Front S Op O) : Front S Op O :=
  ⟨Run.final step f.state (f.queue.map Prod.snd), [], f.answers ++ answersFrom step f.state f.queue⟩

/-- Operations of which neither changes what the other does or answers. -/
def Independent (a b : Op) : Prop :=
  ∀ s, (step (step s a).2 b).1 = (step s b).1 ∧ (step (step s b).2 a).1 = (step s a).1 ∧
    (step (step s a).2 b).2 = (step (step s b).2 a).2

/-- The decision on an operation is one that flushing makes up for. -/
def Sound (f : Front S Op O) (op : Op) : Decision O → Prop
  | .now => ∀ waiting ∈ f.queue, Independent step op waiting.2
  | .later => True
  | .refuse answer => step (flush step f).state op = (answer, (flush step f).state)

theorem answersFrom_append (s : S) (ops ops' : List (Nat × Op)) :
    answersFrom step s (ops ++ ops') =
      answersFrom step s ops ++ answersFrom step (Run.final step s (ops.map Prod.snd)) ops' := by
  induction ops generalizing s with
  | nil => rfl
  | cons op ops ih =>
    rw [List.cons_append, answersFrom, answersFrom, ih]
    rfl

/-- What was run early has run when all has. -/
theorem flush_runDue (f : Front S Op O) (n : Nat) :
    flush step (runDue step f n) = flush step f := by
  have hstate := Run.final_append step f.state ((f.queue.take n).map Prod.snd)
    ((f.queue.drop n).map Prod.snd)
  have hanswers := answersFrom_append step f.state (f.queue.take n) (f.queue.drop n)
  rw [← List.map_append, List.take_append_drop] at hstate
  rw [List.take_append_drop] at hanswers
  rw [flush, flush, runDue, hstate, hanswers, List.append_assoc]

variable {step}

/-- An operation that overtakes a queue it is independent of. -/
theorem overtake {op : Op} {queue : List (Nat × Op)}
    (h : ∀ waiting ∈ queue, Independent step op waiting.2) (s : S) :
    Run.final step (step s op).2 (queue.map Prod.snd) =
        (step (Run.final step s (queue.map Prod.snd)) op).2 ∧
      (step (Run.final step s (queue.map Prod.snd)) op).1 = (step s op).1 ∧
      answersFrom step (step s op).2 queue = answersFrom step s queue := by
  induction queue generalizing s with
  | nil => exact ⟨rfl, rfl, rfl⟩
  | cons waiting queue ih =>
    obtain ⟨n, b⟩ := waiting
    -- past the first that waits, then past the others
    obtain ⟨hb, hop, hcomm⟩ := h (n, b) (List.mem_cons_self ..) s
    obtain ⟨hstate, hanswer, hanswers⟩ :=
      ih (fun w hw => h w (List.mem_cons_of_mem _ hw)) (step s b).2
    rw [← hcomm] at hstate hanswers
    refine ⟨hstate, hanswer.trans hop, ?_⟩
    rw [answersFrom, answersFrom, hb, hanswers]

/-- **One sound decision**, flushed, is one step of the flushed machine. -/
theorem flush_issue {f : Front S Op O} {op : Op} {d : Decision O} (h : Sound step f op d)
    (n : Nat) :
    (flush step (issue step f n op d)).state = (step (flush step f).state op).2 ∧
      (flush step (issue step f n op d)).answers.Perm
        ((flush step f).answers ++ [(n, (step (flush step f).state op).1)]) := by
  cases d with
  | now =>
    obtain ⟨hstate, hanswer, hanswers⟩ := overtake h f.state
    refine ⟨hstate, ?_⟩
    show (f.answers ++ [(n, (step f.state op).1)] ++
      answersFrom step (step f.state op).2 f.queue).Perm (f.answers ++ answersFrom step f.state f.queue ++ [(n, _)])
    rw [hanswers, ← hanswer, List.append_assoc, List.append_assoc]
    exact List.perm_append_comm.append_left _
  | later =>
    constructor
    · show Run.final step f.state ((f.queue ++ [(n, op)]).map Prod.snd) = _
      rw [List.map_append, Run.final_append]
      rfl
    · show (f.answers ++ answersFrom step f.state (f.queue ++ [(n, op)])).Perm _
      rw [answersFrom_append, ← List.append_assoc]
      exact List.Perm.refl _
  | refuse answer =>
    have hstep : step (flush step f).state op = (answer, (flush step f).state) := h
    rw [hstep]
    refine ⟨rfl, ?_⟩
    show (f.answers ++ [(n, answer)] ++ answersFrom step f.state f.queue).Perm
      (f.answers ++ answersFrom step f.state f.queue ++ [(n, answer)])
    rw [List.append_assoc, List.append_assoc]
    exact List.perm_append_comm.append_left _

end Deferred
