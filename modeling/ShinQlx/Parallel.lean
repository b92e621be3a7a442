import Mathlib.Data.List.Nodup

/-! # What is done in parallel

A parallel loop cuts its list into two parts, again and again, and does what is to be done for
the parts at the same time, so that the elements of the two are taken in any order in which
each part has its own.  It takes every element once (`ForEach.perm`), but in the order of the
list only where there is no more than one (`exists_forEach_ne`).
-/
namespace Parallel
variable {α : Type}

/-- The elements of two lists, each in its order. -/
inductive Interleave : List α → List α → List α → Prop
  | nil : Interleave [] [] []
  | left {x : α} {xs ys zs : List α} : Interleave xs ys zs → Interleave (x :: xs) ys (x :: zs)
  | right {y : α} {xs ys zs : List α} : Interleave xs ys zs → Interleave xs (y :: ys) (y :: zs)

/-- The order in which a parallel loop takes the elements of a list. -/
inductive ForEach : List α → List α → Prop
  | sequential (xs : List α) : ForEach xs xs
  | join {xs xs' ys ys' zs : List α} :
      ForEach xs xs' → ForEach ys ys' → Interleave xs' ys' zs → ForEach (xs ++ ys) zs

theorem Interleave.perm {xs ys zs : List α} (h : Interleave xs ys zs) : zs.Perm (xs ++ ys) := by
  induction h with
  | nil => exact .nil
  | left _ ih => exact ih.cons _
  | right _ ih => exact (ih.cons _).trans List.perm_middle.symm

theorem interleave_nil_right (xs : List α) : Interleave xs [] xs := by
  induction xs with
  | nil => exact .nil
  | cons x xs ih => exact .left ih

/-- The second part may come first. -/
theorem interleave_swapped (xs ys : List α) : Interleave xs ys (ys ++ xs) := by
  induction ys with
  | nil => exact interleave_nil_right xs
  | cons y ys ih => exact .right ih

/-- **Every element is taken once.** -/
theorem ForEach.perm {xs ys : List α} (h : ForEach xs ys) : ys.Perm xs := by
  induction h with
  | sequential xs => exact .refl xs
  | join _ _ hzs ihx ihy => exact hzs.perm.trans (ihx.append ihy)

/-- One element has one order. -/
theorem ForEach.eq_of_length_le_one {xs ys : List α} (h : ForEach xs ys) (hle : xs.length ≤ 1) :
    ys = xs := by
  cases xs with
  | nil => exact List.perm_nil.mp h.perm
  | cons x xs =>
    obtain rfl : xs = [] := List.eq_nil_of_length_eq_zero (by simpa using hle)
    exact List.perm_singleton.mp h.perm

/-- **More than one element has more than one order.** -/
theorem exists_forEach_ne {xs : List α} (hdistinct : xs.Nodup) (hlt : 1 < xs.length) :
    ∃ ys, ForEach xs ys ∧ ys ≠ xs := by
  match xs with
  | [] => cases hlt
  | [x] => exact absurd hlt (Nat.lt_irrefl 1)
  | x :: y :: rest =>
    refine ⟨(y :: rest) ++ [x], ?_, fun heq => ?_⟩
    · exact .join (.sequential [x]) (.sequential (y :: rest)) (interleave_swapped [x] (y :: rest))
    · obtain ⟨rfl, -⟩ := List.cons.inj heq
      exact (List.nodup_cons.mp hdistinct).1 List.mem_cons_self

end Parallel
