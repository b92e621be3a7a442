import Mathlib.Data.List.Basic

/-! # Loops with early returns

`Loop.run` is a `for` loop over a list whose body either goes on with a new
state or returns from the enclosing function.  The body is told the position of
the element, so an outside world that answers differently from one iteration to
the next is a function of the position.  The loop records every element it
visited, with the state it was visited in.

`Loop.rule` is the rule of invariants: what the body keeps while it goes on, and
what it establishes when it returns, holds of everything visited and of the
result.
-/
namespace Loop

/-- What the body decides about one element: go on with a state, or return. -/
inductive Control (σ ρ : Type) where
  | next (s : σ)
  | ret (r : ρ)

/-- What a loop did: its result, and the elements it visited in order, each with
the state it was visited in. -/
structure Trace (α σ ρ : Type) where
  result : ρ
  visited : List (α × σ)

variable {α σ ρ : Type} (body : Nat → α → σ → Control σ ρ) (finish : σ → ρ)

/-- The loop over a list, from position `k` and state `s`. -/
def run : Nat → List α → σ → Trace α σ ρ
  | _, [], s => ⟨finish s, []⟩
  | k, x :: xs, s =>
    match body k x s with
    | .ret r => ⟨r, [(x, s)]⟩
    | .next s' =>
      let rest := run (k + 1) xs s'
      ⟨rest.result, (x, s) :: rest.visited⟩

@[simp] theorem run_nil (k : Nat) (s : σ) : run body finish k [] s = ⟨finish s, []⟩ := rfl

variable {body finish}

theorem run_cons_ret {k : Nat} {x : α} {xs : List α} {s : σ} {r : ρ}
    (h : body k x s = .ret r) : run body finish k (x :: xs) s = ⟨r, [(x, s)]⟩ := by
  rw [run, h]

theorem run_cons_next {k : Nat} {x : α} {xs : List α} {s s' : σ}
    (h : body k x s = .next s') :
    run body finish k (x :: xs) s =
      ⟨(run body finish (k + 1) xs s').result,
        (x, s) :: (run body finish (k + 1) xs s').visited⟩ := by
  rw [run, h]

/-- **The invariant rule of loops.**  `I vs s` is kept while the body goes on
from the visited elements `vs` and the state `s`; `Q vs r` is established by a
return and by running off the end.  At both exits the visited elements are known
to be a prefix of the list, at the second the whole of it. -/
theorem rule {I : List (α × σ) → σ → Prop} {Q : List (α × σ) → ρ → Prop} {xs : List α} {s₀ : σ}
    (hinit : I [] s₀)
    (hnext : ∀ vs x s s', vs.map Prod.fst ++ [x] <+: xs → I vs s →
      body vs.length x s = .next s' → I (vs ++ [(x, s)]) s')
    (hret : ∀ vs x s r, vs.map Prod.fst ++ [x] <+: xs → I vs s →
      body vs.length x s = .ret r → Q (vs ++ [(x, s)]) r)
    (hend : ∀ vs s, vs.map Prod.fst = xs → I vs s → Q vs (finish s)) :
    Q (run body finish 0 xs s₀).visited (run body finish 0 xs s₀).result := by
  suffices key : ∀ rest vs s, vs.map Prod.fst ++ rest = xs → I vs s →
      Q (vs ++ (run body finish vs.length rest s).visited)
        (run body finish vs.length rest s).result from
    key xs [] s₀ rfl hinit
  intro rest
  induction rest with
  | nil =>
    intro vs s hxs hI
    rw [run_nil, List.append_nil]
    exact hend vs s (by rwa [List.append_nil] at hxs) hI
  | cons x rest ih =>
    intro vs s hxs hI
    have hpre : vs.map Prod.fst ++ [x] <+: xs := ⟨rest, by rw [← hxs, List.append_assoc]; rfl⟩
    cases hb : body vs.length x s with
    | ret r =>
      rw [run_cons_ret hb]
      exact hret vs x s r hpre hI hb
    | next s' =>
      have hrest := ih (vs ++ [(x, s)]) s' (by rw [← hxs]; simp) (hnext vs x s s' hpre hI hb)
      rw [run_cons_next hb]
      simpa [List.append_assoc] using hrest

/-- **The simulation rule of loops.**  Two loops whose bodies go on or return
together, in related states, visit the same elements in related states. -/
theorem visited_of_simulates {σ' ρ' β : Type} {body' : Nat → α → σ' → Control σ' ρ'}
    {finish' : σ' → ρ'} (R : σ → σ' → Prop) (f : α × σ → β) (f' : α × σ' → β)
    (hbody : ∀ k x s s', R s s' →
      (∃ t t', body k x s = .next t ∧ body' k x s' = .next t' ∧ R t t') ∨
      ∃ r r', body k x s = .ret r ∧ body' k x s' = .ret r')
    (hf : ∀ x s s', R s s' → f (x, s) = f' (x, s')) {s : σ} {s' : σ'} (hs : R s s') (k : Nat)
    (xs : List α) :
    (run body finish k xs s).visited.map f = (run body' finish' k xs s').visited.map f' := by
  induction xs generalizing k s s' with
  | nil => rfl
  | cons x xs ih =>
    rcases hbody k x s s' hs with ⟨t, t', ht, ht', hR⟩ | ⟨r, r', hr, hr'⟩
    · rw [run_cons_next ht, run_cons_next ht', List.map_cons, List.map_cons, hf x s s' hs, ih hR]
    · rw [run_cons_ret hr, run_cons_ret hr', List.map_cons, List.map_cons, hf x s s' hs]
      rfl

/-- The body with its returns marked as such. -/
def early (body : Nat → α → σ → Control σ ρ) (k : Nat) (x : α) (s : σ) : Control σ (ρ ⊕ σ) :=
  match body k x s with
  | .next s' => .next s'
  | .ret r => .ret (.inl r)

/-- A loop returns early, or goes on behind its end. -/
theorem run_eq_early (body : Nat → α → σ → Control σ ρ) (finish : σ → ρ) (k : Nat) (xs : List α)
    (s : σ) :
    run body finish k xs s =
      ⟨((run (early body) .inr k xs s).result).elim id finish,
        (run (early body) .inr k xs s).visited⟩ := by
  induction xs generalizing k s with
  | nil => rfl
  | cons x xs ih =>
    cases hb : body k x s with
    | ret r =>
      have hearly : early body k x s = .ret (.inl r) := by rw [early, hb]
      rw [run_cons_ret hb, run_cons_ret hearly]
      rfl
    | next s' =>
      have hearly : early body k x s = .next s' := by rw [early, hb]
      rw [run_cons_next hb, run_cons_next hearly, ih]

/-- The elements of a list up to and including the first that satisfies `p`. -/
def through (p : α → Bool) : List α → List α
  | [] => []
  | x :: xs => if p x then [x] else x :: through p xs

@[simp] theorem through_nil (p : α → Bool) : through p [] = [] := rfl

theorem through_cons (p : α → Bool) (x : α) (xs : List α) :
    through p (x :: xs) = if p x then [x] else x :: through p xs := rfl

theorem through_prefix (p : α → Bool) (xs : List α) : through p xs <+: xs := by
  induction xs with
  | nil => exact List.prefix_rfl
  | cons x xs ih =>
    rw [through_cons]
    split
    · exact ⟨xs, rfl⟩
    · exact List.cons_prefix_cons.mpr ⟨rfl, ih⟩

end Loop
