import Mathlib.Data.List.Basic

/-! # Vectors of a fixed capacity

An `ArrayVec` has room for a fixed number of elements.  It is made from a list that fits and
takes one more element as long as there is room; anything else panics.
-/

/-- Elements, and room for some more. -/
@[ext]
structure ArrayVec (α : Type) (cap : Nat) where
  toList : List α
  length_le : toList.length ≤ cap

namespace ArrayVec
variable {α : Type} {cap : Nat}

/-- No elements. -/
def empty : ArrayVec α cap := ⟨[], Nat.zero_le cap⟩

/-- `collect`, unless it panics. -/
def collect (cap : Nat) (xs : List α) : Option (ArrayVec α cap) :=
  if h : xs.length ≤ cap then some ⟨xs, h⟩ else none

/-- `push`, unless it panics. -/
def push (x : α) (v : ArrayVec α cap) : Option (ArrayVec α cap) := collect cap (v.toList ++ [x])

theorem collect_eq_some_iff {xs : List α} {v : ArrayVec α cap} :
    collect cap xs = some v ↔ v.toList = xs := by
  rw [collect]
  by_cases h : xs.length ≤ cap
  · rw [dif_pos h, Option.some.injEq, ArrayVec.ext_iff]
    exact eq_comm
  · rw [dif_neg h]
    refine iff_of_false nofun fun heq => h ?_
    rw [← heq]
    exact v.length_le

theorem exists_collect {xs : List α} (h : xs.length ≤ cap) :
    ∃ v : ArrayVec α cap, collect cap xs = some v :=
  ⟨⟨xs, h⟩, dif_pos h⟩

theorem collect_eq_none {xs : List α} (h : cap < xs.length) : collect cap xs = none :=
  dif_neg (Nat.not_le.mpr h)

end ArrayVec
