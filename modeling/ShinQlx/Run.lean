import Mathlib.Data.List.Basic

/-! # Runs of a machine that answers calls

A machine is a function `step` from a state and a call to a result and a new
state.  A run is a list of calls; its steps are recorded one by one, with the
state each call found and the state it left.  The developments over it need a
few rules: an invariant that every step keeps holds all along a run
(`Run.invariant`); a property of steps that is equivalent, under the invariant,
to a condition on the state and the call holds at every step of a run exactly
when every step meets the condition (`Run.forall_steps_iff`); and two machines
that answer alike from related states answer alike in every run
(`Run.simulation`).
-/
namespace Run

/-- One step of a run: the state the call found, the call, its result and the
state it left. -/
structure Step (S C R : Type) where
  before : S
  call : C
  result : R
  after : S

variable {S C R : Type} (step : S → C → R × S)

/-- The step that `c` makes in state `s`. -/
def take (s : S) (c : C) : Step S C R := ⟨s, c, (step s c).1, (step s c).2⟩

/-- The state the calls `cs` lead to from `s`. -/
def final : S → List C → S
  | s, [] => s
  | s, c :: cs => final (step s c).2 cs

/-- The steps of the run of `cs` from `s`, in order. -/
def steps : S → List C → List (Step S C R)
  | _, [] => []
  | s, c :: cs => take step s c :: steps (step s c).2 cs

@[simp] theorem final_nil (s : S) : final step s [] = s := rfl

@[simp] theorem final_cons (s : S) (c : C) (cs : List C) :
    final step s (c :: cs) = final step (step s c).2 cs := rfl

@[simp] theorem steps_nil (s : S) : steps step s [] = [] := rfl

@[simp] theorem steps_cons (s : S) (c : C) (cs : List C) :
    steps step s (c :: cs) = take step s c :: steps step (step s c).2 cs := rfl

theorem final_append (s : S) (cs ds : List C) :
    final step s (cs ++ ds) = final step (final step s cs) ds := by
  induction cs generalizing s with
  | nil => rfl
  | cons c cs ih => exact ih (step s c).2

theorem steps_append (s : S) (cs ds : List C) :
    steps step s (cs ++ ds) = steps step s cs ++ steps step (final step s cs) ds := by
  induction cs generalizing s with
  | nil => rfl
  | cons c cs ih => rw [List.cons_append, steps_cons, ih, steps_cons, List.cons_append, final_cons]

variable {step}

/-- **The invariant rule.**  What every step keeps holds at the end of a run. -/
theorem invariant (Inv : S → Prop) (hstep : ∀ s c, Inv s → Inv (step s c).2) {s : S} (hs : Inv s)
    (cs : List C) : Inv (final step s cs) := by
  induction cs generalizing s with
  | nil => exact hs
  | cons c cs ih => exact ih (hstep s c hs)

/-- An invariant that good steps keep holds at the end of a run of good steps. -/
theorem invariant_of_good (Inv : S → Prop) {Good : Step S C R → Prop}
    (hstep : ∀ s c, Inv s → Good (take step s c) → Inv (step s c).2) {s : S} (hs : Inv s)
    (cs : List C) (hgood : ∀ st ∈ steps step s cs, Good st) : Inv (final step s cs) := by
  induction cs generalizing s with
  | nil => exact hs
  | cons c cs ih =>
    rw [steps_cons, List.forall_mem_cons] at hgood
    exact ih (hstep s c hs hgood.1) hgood.2

/-- What follows from an invariant that every step keeps holds of every step. -/
theorem forall_steps (Inv : S → Prop) (hstep : ∀ s c, Inv s → Inv (step s c).2)
    {Spec : Step S C R → Prop} (hspec : ∀ s c, Inv s → Spec (take step s c)) {s : S} (hs : Inv s)
    (cs : List C) : ∀ st ∈ steps step s cs, Spec st := by
  induction cs generalizing s with
  | nil => simp
  | cons c cs ih => exact List.forall_mem_cons.mpr ⟨hspec s c hs, ih (hstep s c hs)⟩

/-- A preorder that every step goes up in orders the states of a run. -/
theorem rel_final (Rel : S → S → Prop) (hrefl : ∀ s, Rel s s)
    (htrans : ∀ {s t u}, Rel s t → Rel t u → Rel s u) (hstep : ∀ s c, Rel s (step s c).2) (s : S)
    (cs : List C) : Rel s (final step s cs) := by
  induction cs generalizing s with
  | nil => exact hrefl s
  | cons c cs ih => exact htrans (hstep s c) (ih (step s c).2)

theorem rel_steps (Rel : S → S → Prop) (hrefl : ∀ s, Rel s s)
    (htrans : ∀ {s t u}, Rel s t → Rel t u → Rel s u) (hstep : ∀ s c, Rel s (step s c).2) (s : S)
    (cs : List C) :
    ∀ st ∈ steps step s cs, Rel s st.after ∧ Rel st.after (final step s cs) := by
  induction cs generalizing s with
  | nil => simp
  | cons c cs ih =>
    rw [steps_cons, List.forall_mem_cons]
    refine ⟨⟨hstep s c, rel_final Rel hrefl htrans hstep _ cs⟩, fun st hst => ?_⟩
    obtain ⟨hafter, hfinal⟩ := ih (step s c).2 st hst
    exact ⟨htrans (hstep s c) hafter, hfinal⟩

/-- **The step rule.**  Where a condition on state and call is equivalent to a
property of the step, under an invariant that good steps keep, every step of a
run has the property iff every step meets the condition. -/
theorem forall_steps_iff (Inv : S → Prop) {Good : S → C → Prop} {Spec : Step S C R → Prop}
    (hiff : ∀ s c, Inv s → (Spec (take step s c) ↔ Good s c))
    (hstep : ∀ s c, Inv s → Good s c → Inv (step s c).2) {s : S} (hs : Inv s) (cs : List C) :
    (∀ st ∈ steps step s cs, Spec st) ↔ ∀ st ∈ steps step s cs, Good st.before st.call := by
  induction cs generalizing s with
  | nil => simp
  | cons c cs ih =>
    simp only [steps_cons, List.forall_mem_cons]
    rw [hiff s c hs]
    constructor
    · rintro ⟨hc, hrest⟩
      exact ⟨hc, (ih (hstep s c hs hc)).mp hrest⟩
    · rintro ⟨hc, hrest⟩
      exact ⟨hc, (ih (hstep s c hs hc)).mpr hrest⟩

/-- **The simulation rule.**  Machines whose related states answer every call alike, and stay
related, give the same answers in every run. -/
theorem simulation {S' : Type} {step' : S' → C → R × S'} (Rel : S → S' → Prop)
    (hstep : ∀ s s' c, Rel s s' →
      (step s c).1 = (step' s' c).1 ∧ Rel (step s c).2 (step' s' c).2)
    {s : S} {s' : S'} (hs : Rel s s') (cs : List C) :
    (steps step s cs).map Step.result = (steps step' s' cs).map Step.result ∧
      Rel (final step s cs) (final step' s' cs) := by
  induction cs generalizing s s' with
  | nil => exact ⟨rfl, hs⟩
  | cons c cs ih =>
    obtain ⟨hresult, hafter⟩ := hstep s s' c hs
    obtain ⟨hresults, hfinal⟩ := ih hafter
    exact ⟨congrArg₂ List.cons hresult hresults, hfinal⟩

/-- **The simulation rule for good runs.**  Machines whose related states answer every good call
alike, and stay related, give the same answers in every run of good calls; and what holds of a step
from related states holds of every step. -/
theorem simulation_of_good {S' : Type} {step' : S' → C → R × S'} {Good : S' → C → Prop}
    {Spec : Step S C R → Prop} (Rel : S → S' → Prop)
    (hstep : ∀ s s' c, Rel s s' → Good s' c →
      (step s c).1 = (step' s' c).1 ∧ Rel (step s c).2 (step' s' c).2)
    (hspec : ∀ s s' c, Rel s s' → Good s' c → Spec (take step s c))
    {s : S} {s' : S'} (hs : Rel s s') (cs : List C)
    (hgood : ∀ st ∈ steps step' s' cs, Good st.before st.call) :
    (steps step s cs).map Step.result = (steps step' s' cs).map Step.result ∧
      ∀ st ∈ steps step s cs, Spec st := by
  induction cs generalizing s s' with
  | nil => exact ⟨rfl, nofun⟩
  | cons c cs ih =>
    rw [steps_cons, List.forall_mem_cons] at hgood
    obtain ⟨hresult, hafter⟩ := hstep s s' c hs hgood.1
    obtain ⟨hresults, hspecs⟩ := ih hafter hgood.2
    exact ⟨congrArg₂ List.cons hresult hresults,
      List.forall_mem_cons.mpr ⟨hspec s s' c hs hgood.1, hspecs⟩⟩

end Run
