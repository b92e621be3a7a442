import Mathlib.Data.List.Sort
import Mathlib.Data.Prod.Lex

/-! # Event schedulers

A scheduler keeps events in the order in which they are due: by time, then by
priority, then in the order they were entered.  A run that does not block looks at
the clock before each event, takes the event off the queue if its time has come, and
stops otherwise (`due`).

Of the events, some are of interest (`p`); the others come between.  As long as those of
interest are entered with times that do not decrease and with one priority, they come
off the queue in the order they went in (`selected_enter`, `selected_due`), and a run
that stops has left none of them whose time has come (`selected_of_due_none`).
-/
namespace Scheduler

/-- An action with the time and the priority it was entered with, and its number. -/
structure Event (T A : Type) where
  time : T
  priority : Int
  sequence : Nat
  action : A

/-- The events that wait, and the number of the next one. -/
structure Queue (T A : Type) where
  events : List (Event T A)
  next : Nat

variable {T A : Type} [LinearOrder T]

/-- What events are ordered by. -/
def Event.key (e : Event T A) : T ×ₗ Int ×ₗ Nat := toLex (e.time, toLex (e.priority, e.sequence))

namespace Queue

/-- A queue with no event. -/
def empty : Queue T A := ⟨[], 0⟩

/-- Enters an action for a time. -/
def enter (q : Queue T A) (time : T) (priority : Int) (action : A) : Queue T A :=
  ⟨q.events.orderedInsert (fun a b => a.key ≤ b.key) ⟨time, priority, q.next, action⟩, q.next + 1⟩

/-- The first action, if its time has come, and the queue without it. -/
def due (q : Queue T A) (now : T) : Option (A × Queue T A) :=
  match q.events with
  | [] => none
  | e :: events => if now < e.time then none else some (e.action, { q with events := events })

/-- The actions of interest, in the order they come off the queue. -/
def selected (p : A → Bool) (q : Queue T A) : List A :=
  (q.events.map Event.action).filter p

/-- The events are in order, and their numbers are used up. -/
structure Valid (q : Queue T A) : Prop where
  sorted : q.events.Pairwise fun a b => a.key ≤ b.key
  numbered : ∀ e ∈ q.events, e.sequence < q.next

/-- The events of interest have one priority and come no later than `now`. -/
def Punctual (p : A → Bool) (priority : Int) (now : T) (q : Queue T A) : Prop :=
  ∀ e ∈ q.events, p e.action = true → e.time ≤ now ∧ e.priority = priority

theorem valid_empty : (empty : Queue T A).Valid where
  sorted := List.Pairwise.nil
  numbered := by simp [empty]

theorem mem_enter {q : Queue T A} {time : T} {priority : Int} {action : A} {e : Event T A} :
    e ∈ (q.enter time priority action).events ↔
      e = ⟨time, priority, q.next, action⟩ ∨ e ∈ q.events := by
  rw [enter, List.mem_orderedInsert]

theorem due_eq_some {q q' : Queue T A} {now : T} {action : A} :
    q.due now = some (action, q') ↔
      ∃ e, q.events = e :: q'.events ∧ q'.next = q.next ∧ e.action = action ∧ e.time ≤ now := by
  obtain ⟨events, next⟩ := q
  obtain ⟨events', next'⟩ := q'
  cases events with
  | nil => simp [due]
  | cons e events =>
    simp only [due]
    split
    · rename_i hlater
      simp only [false_iff, reduceCtorEq]
      rintro ⟨e', he, -, -, htime⟩
      cases he
      exact absurd htime (not_le.mpr hlater)
    · rename_i hdue
      simp only [Option.some.injEq, Prod.mk.injEq, Queue.mk.injEq, List.cons.injEq]
      constructor
      · rintro ⟨rfl, rfl, rfl⟩
        exact ⟨e, ⟨rfl, rfl⟩, rfl, rfl, not_lt.mp hdue⟩
      · rintro ⟨e', ⟨rfl, rfl⟩, rfl, rfl, -⟩
        exact ⟨rfl, rfl, rfl⟩

theorem Valid.enter {q : Queue T A} (h : q.Valid) (time : T) (priority : Int) (action : A) :
    (q.enter time priority action).Valid where
  sorted := h.sorted.orderedInsert _ _
  numbered := by
    intro e he
    rcases mem_enter.mp he with rfl | he
    · exact Nat.lt_succ_self _
    · exact Nat.lt_succ_of_lt (h.numbered e he)

theorem Valid.due {q q' : Queue T A} (h : q.Valid) {now : T} {action : A}
    (hdue : q.due now = some (action, q')) : q'.Valid := by
  obtain ⟨e, hevents, hnext, -, -⟩ := due_eq_some.mp hdue
  have hsorted := h.sorted
  have hnumbered := h.numbered
  rw [hevents] at hsorted hnumbered
  refine ⟨(List.pairwise_cons.mp hsorted).2, fun e' he' => ?_⟩
  rw [hnext]
  exact hnumbered e' (List.mem_cons_of_mem _ he')

section Selected
variable {p : A → Bool} {priority : Int} {now : T}

theorem Punctual.mono {q : Queue T A} (h : Punctual p priority now q) {now' : T}
    (hle : now ≤ now') : Punctual p priority now' q :=
  fun e he hp => ⟨(h e he hp).1.trans hle, (h e he hp).2⟩

theorem Punctual.enter {q : Queue T A} (h : Punctual p priority now q) {time : T}
    {priority' : Int} {action : A} (hnew : p action = true → time ≤ now ∧ priority' = priority) :
    Punctual p priority now (q.enter time priority' action) := by
  intro e he hp
  rcases mem_enter.mp he with rfl | he
  · exact hnew hp
  · exact h e he hp

theorem Punctual.due {q q' : Queue T A} (h : Punctual p priority now q) {now' : T} {action : A}
    (hdue : q.due now' = some (action, q')) : Punctual p priority now q' := by
  obtain ⟨e, hevents, -, -, -⟩ := due_eq_some.mp hdue
  intro e' he' hp
  exact h e' (hevents ▸ List.mem_cons_of_mem _ he') hp

theorem selected_enter_of_not {q : Queue T A} (time : T) (priority : Int) {action : A}
    (h : p action = false) : selected p (q.enter time priority action) = selected p q := by
  obtain ⟨events, next⟩ := q
  show ((events.orderedInsert _ _).map Event.action).filter p = (events.map Event.action).filter p
  induction events with
  | nil => simp [h]
  | cons e events ih =>
    rw [List.orderedInsert_cons]
    split
    · simp [h]
    · simp only [List.map_cons, List.filter_cons, ih]

/-- **An event of interest goes in last**, if no other one comes later. -/
theorem selected_enter {q : Queue T A} (hvalid : q.Valid) {time : T}
    (hp : Punctual p priority time q) {action : A} (h : p action = true) :
    selected p (q.enter time priority action) = selected p q ++ [action] := by
  obtain ⟨events, next⟩ := q
  obtain ⟨hsorted, hnumbered⟩ := hvalid
  show ((events.orderedInsert _ _).map Event.action).filter p =
    (events.map Event.action).filter p ++ [action]
  induction events with
  | nil => simp [h]
  | cons e events ih =>
    rw [List.pairwise_cons] at hsorted
    rw [List.orderedInsert_cons]
    split
    · -- all events from here on come after the new one, so none of them is of interest
      rename_i hle
      have hnone : ((e :: events).map Event.action).filter p = [] := by
        simp only [List.filter_eq_nil_iff, List.mem_map]
        rintro _ ⟨e', he', rfl⟩ hpe
        have hafter : (⟨time, priority, next, action⟩ : Event T A).key ≤ e'.key := by
          rcases List.mem_cons.mp he' with rfl | hmem
          · exact hle
          · exact hle.trans (hsorted.1 e' hmem)
        obtain ⟨htime, hpriority⟩ := hp e' he' hpe
        have hnumber := hnumbered e' he'
        simp only [Event.key, Prod.Lex.toLex_le_toLex] at hafter
        rcases hafter with hlt | ⟨-, hlt | ⟨-, hnum⟩⟩
        · exact absurd htime (not_le.mpr hlt)
        · exact absurd hpriority (ne_of_gt hlt)
        · exact absurd hnumber (not_lt.mpr hnum)
      rw [List.map_cons, List.filter_cons_of_pos h, hnone]
      rfl
    · have htail := ih (fun e' he' => hp e' (List.mem_cons_of_mem _ he')) hsorted.2
        (fun e' he' => hnumbered e' (List.mem_cons_of_mem _ he'))
      simp only [List.map_cons, List.filter_cons, htail]
      split <;> rfl

/-- **The events of interest come off in order.** -/
theorem selected_due {q q' : Queue T A} {now : T} {action : A}
    (hdue : q.due now = some (action, q')) :
    selected p q = if p action then action :: selected p q' else selected p q' := by
  obtain ⟨e, hevents, -, rfl, -⟩ := due_eq_some.mp hdue
  rw [selected, hevents, List.map_cons, List.filter_cons]
  rfl

/-- A run that stops has left no event of interest whose time has come. -/
theorem selected_of_due_none {q : Queue T A} (hvalid : q.Valid)
    (hp : Punctual p priority now q) (hdue : q.due now = none) : selected p q = [] := by
  obtain ⟨events, next⟩ := q
  cases events with
  | nil => rfl
  | cons e events =>
    have hlater : now < e.time := by
      by_contra hle
      simp [due, hle] at hdue
    simp only [selected, List.filter_eq_nil_iff, List.mem_map]
    rintro _ ⟨e', he', rfl⟩ hpe
    refine absurd (hp e' he' hpe).1 (not_le.mpr (hlater.trans_le ?_))
    rcases List.mem_cons.mp he' with rfl | hmem
    · exact le_rfl
    · have hkey := (List.pairwise_cons.mp hvalid.sorted).1 e' hmem
      simp only [Event.key, Prod.Lex.toLex_le_toLex] at hkey
      rcases hkey with hlt | ⟨heq, -⟩
      · exact hlt.le
      · exact heq.le

end Selected
end Queue
end Scheduler
