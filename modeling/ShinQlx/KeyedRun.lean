import ShinQlx.Run

/-! # Machines whose calls are each about one key

The state of a machine has a part for each key, and a call is about one of them.  A machine is
local if a call answers as a machine of its own for that part would, leaves the part as that one
does, and leaves the other parts alone.

Then every run does to each part what the calls about it do on their own, however they are
interleaved with calls about other keys (`Local.run`).  A program makes calls one after the other,
each depending on the answers before; a machine whose calls are programs about a key is local
again (`Local.programs`), so that the same holds of runs of programs.
-/
namespace KeyedRun
variable {S K C R V : Type}

/-- Every call is about its key alone, and does what `own` does to the part of that key. -/
structure Local (step : S → K × C → R × S) (part : K → S → V) (own : K → V → C → R × V) :
    Prop where
  result : ∀ s k c, (step s (k, c)).1 = (own k (part k s) c).1
  same : ∀ s k c, part k (step s (k, c)).2 = (own k (part k s) c).2
  others : ∀ s k c j, j ≠ k → part j (step s (k, c)).2 = part j s

variable [DecidableEq K]

/-- The calls that are about a key. -/
def about (k : K) (cs : List (K × C)) : List C := (cs.filter (·.1 = k)).map Prod.snd

/-- What the calls about a key answer in a run. -/
def results (step : S → K × C → R × S) (k : K) (s : S) (cs : List (K × C)) : List R :=
  ((Run.steps step s cs).filter (·.call.1 = k)).map Run.Step.result

theorem about_cons_self (k : K) (c : C) (cs : List (K × C)) :
    about k ((k, c) :: cs) = c :: about k cs := by
  simp [about]

theorem about_cons_of_ne {j k : K} (h : k ≠ j) (c : C) (cs : List (K × C)) :
    about j ((k, c) :: cs) = about j cs := by
  simp [about, h]

variable {step : S → K × C → R × S} {part : K → S → V} {own : K → V → C → R × V}

theorem results_cons_self (k : K) (c : C) (s : S) (cs : List (K × C)) :
    results step k s ((k, c) :: cs) =
      (step s (k, c)).1 :: results step k (step s (k, c)).2 cs := by
  simp [results, Run.take]

theorem results_cons_of_ne {j k : K} (h : k ≠ j) (c : C) (s : S) (cs : List (K × C)) :
    results step j s ((k, c) :: cs) = results step j (step s (k, c)).2 cs := by
  simp [results, Run.take, h]

/-- **The rule of local machines.**  What becomes of a part in a run, and what the calls about it
answer, is what they do on their own. -/
theorem Local.run (h : Local step part own) (k : K) (s : S) (cs : List (K × C)) :
    part k (Run.final step s cs) = Run.final (own k) (part k s) (about k cs) ∧
      results step k s cs =
        (Run.steps (own k) (part k s) (about k cs)).map Run.Step.result := by
  induction cs generalizing s with
  | nil => exact ⟨rfl, rfl⟩
  | cons kc cs ih =>
    obtain ⟨j, c⟩ := kc
    obtain ⟨hfinal, hresults⟩ := ih (step s (j, c)).2
    rw [Run.final_cons]
    rcases eq_or_ne j k with rfl | hne
    · rw [h.same] at hfinal hresults
      rw [about_cons_self, results_cons_self, hfinal, hresults, h.result]
      exact ⟨rfl, rfl⟩
    · rw [h.others s j c k hne.symm] at hfinal hresults
      rw [about_cons_of_ne hne, results_cons_of_ne hne]
      exact ⟨hfinal, hresults⟩

/-! ## Programs -/

/-- A program that makes calls and goes on with their answers. -/
inductive Program (C R A : Type) where
  | ret (a : A)
  | call (c : C) (next : R → Program C R A)

namespace Program
variable {A : Type}

/-- What a program does on a machine. -/
def run (machine : S → C → R × S) : Program C R A → S → A × S
  | .ret a, s => (a, s)
  | .call c next, s => (next (machine s c).1).run machine (machine s c).2

/-- A program that makes one call and answers as it does. -/
def single (c : C) : Program C R R := .call c .ret

/-- One program after the other. -/
def bind {B : Type} : Program C R A → (A → Program C R B) → Program C R B
  | .ret a, f => f a
  | .call c next, f => .call c fun r => (next r).bind f

theorem run_bind {B : Type} (machine : S → C → R × S) (p : Program C R A)
    (f : A → Program C R B) (s : S) :
    (p.bind f).run machine s = (f (p.run machine s).1).run machine (p.run machine s).2 := by
  induction p generalizing s with
  | ret a => rfl
  | call c next ih => exact ih _ _

end Program

variable {A : Type}

/-- The machine whose calls are programs about a key. -/
def programStep (step : S → K × C → R × S) (s : S) (kp : K × Program C R A) : A × S :=
  kp.2.run (fun s c => step s (kp.1, c)) s

omit [DecidableEq K] in
/-- **Programs are local**, too. -/
theorem Local.programs (h : Local step part own) :
    Local (programStep step) part fun k v (p : Program C R A) => p.run (own k) v := by
  have hrun : ∀ k (p : Program C R A) s,
      (p.run (fun s c => step s (k, c)) s).1 = (p.run (own k) (part k s)).1 ∧
        part k (p.run (fun s c => step s (k, c)) s).2 = (p.run (own k) (part k s)).2 ∧
        ∀ j, j ≠ k → part j (p.run (fun s c => step s (k, c)) s).2 = part j s := by
    intro k p
    induction p with
    | ret a => exact fun s => ⟨rfl, rfl, fun _ _ => rfl⟩
    | call c next ih =>
      intro s
      obtain ⟨hresult, hsame, hothers⟩ := ih (step s (k, c)).1 (step s (k, c)).2
      have hown : (next (step s (k, c)).1).run (own k) (part k (step s (k, c)).2) =
          (Program.call c next).run (own k) (part k s) := by
        rw [h.same, h.result]
        rfl
      rw [hown] at hresult hsame
      exact ⟨hresult, hsame, fun j hj => (hothers j hj).trans (h.others s k c j hj)⟩
  exact ⟨fun s k p => (hrun k p s).1, fun s k p => (hrun k p s).2.1,
    fun s k p j hj => (hrun k p s).2.2 j hj⟩

end KeyedRun
