import Mathlib.Data.List.FinRange
import ShinQlx.Filtering

/-! # Lists at several levels

A registry with `n` priority levels keeps one list for each level and is read
level by level.  `Levels.push` appends at one level, `Levels.keepAt` filters one
level and `Levels.keep` all of them; the lemmas say what each does to the
sequence `Levels.flatten` that a reader sees.
-/
namespace Levels
variable {n : Nat} {α : Type}

/-- `a` appended to the list at level `i`. -/
def push (i : Fin n) (a : α) (l : Fin n → List α) : Fin n → List α :=
  fun j => if j = i then l j ++ [a] else l j

/-- The list at level `i` restricted to the elements that satisfy `p`. -/
def keepAt (i : Fin n) (p : α → Bool) (l : Fin n → List α) : Fin n → List α :=
  fun j => if j = i then (l j).filter p else l j

/-- The lists at all levels restricted to the elements that satisfy `p`. -/
def keep (p : α → Bool) (l : Fin n → List α) : Fin n → List α :=
  fun j => (l j).filter p

/-- The elements level by level. -/
def flatten (l : Fin n → List α) : List α := (List.finRange n).flatMap l

@[simp] theorem push_self (i : Fin n) (a : α) (l : Fin n → List α) :
    push i a l i = l i ++ [a] := if_pos rfl

theorem push_of_ne {i j : Fin n} (h : j ≠ i) (a : α) (l : Fin n → List α) :
    push i a l j = l j := if_neg h

@[simp] theorem keepAt_self (i : Fin n) (p : α → Bool) (l : Fin n → List α) :
    keepAt i p l i = (l i).filter p := if_pos rfl

theorem keepAt_of_ne {i j : Fin n} (h : j ≠ i) (p : α → Bool) (l : Fin n → List α) :
    keepAt i p l j = l j := if_neg h

@[simp] theorem keep_apply (p : α → Bool) (l : Fin n → List α) (j : Fin n) :
    keep p l j = (l j).filter p := rfl

theorem mem_flatten {l : Fin n → List α} {a : α} : a ∈ flatten l ↔ ∃ i, a ∈ l i := by
  simp [flatten]

@[simp] theorem flatten_keep (p : α → Bool) (l : Fin n → List α) :
    flatten (keep p l) = (flatten l).filter p := by
  rw [flatten, flatten, List.filter_flatMap]
  rfl

theorem keep_eq_keep_iff {p q : α → Bool} {l : Fin n → List α} :
    keep p l = keep q l ↔ ∀ a ∈ flatten l, p a = q a := by
  constructor
  · intro h a ha
    obtain ⟨i, hi⟩ := mem_flatten.mp ha
    exact Filtering.filter_inj (congrFun h i) a hi
  · intro h
    funext i
    exact List.filter_congr fun a ha => h a (mem_flatten.mpr ⟨i, ha⟩)

theorem mem_flatten_push {i : Fin n} {a b : α} {l : Fin n → List α} :
    b ∈ flatten (push i a l) ↔ b ∈ flatten l ∨ b = a := by
  simp only [mem_flatten]
  constructor
  · rintro ⟨j, hj⟩
    by_cases hji : j = i
    · subst hji
      rw [push_self, List.mem_append, List.mem_singleton] at hj
      exact hj.imp_left fun h => ⟨j, h⟩
    · rw [push_of_ne hji] at hj
      exact .inl ⟨j, hj⟩
  · rintro (⟨j, hj⟩ | rfl)
    · refine ⟨j, ?_⟩
      by_cases hji : j = i
      · subst hji
        rw [push_self]
        exact List.mem_append_left _ hj
      · rwa [push_of_ne hji]
    · exact ⟨i, by simp⟩

/-- Filtering behind a push undoes it iff the pushed element is dropped and no
other is, unless the pushed element was there before. -/
theorem keep_push_eq_self_iff {p : α → Bool} {i : Fin n} {a : α} {l : Fin n → List α}
    (ha : a ∉ flatten l) :
    keep p (push i a l) = l ↔ p a = false ∧ ∀ b ∈ flatten l, p b = true := by
  constructor
  · intro h
    have hpa : p a = false := by
      by_contra hp
      rw [Bool.not_eq_false] at hp
      refine ha (mem_flatten.mpr ⟨i, ?_⟩)
      rw [← congrFun h i, keep_apply, push_self]
      exact List.mem_filter.mpr ⟨by simp, hp⟩
    refine ⟨hpa, fun b hb => ?_⟩
    obtain ⟨j, hj⟩ := mem_flatten.mp hb
    rw [← congrFun h j, keep_apply] at hj
    exact (List.mem_filter.mp hj).2
  · rintro ⟨hpa, hrest⟩
    funext j
    have hj : (l j).filter p = l j :=
      List.filter_eq_self.mpr fun b hb => hrest b (mem_flatten.mpr ⟨j, hb⟩)
    rw [keep_apply]
    by_cases hji : j = i
    · subst hji
      rw [push_self, List.filter_append, hj]
      simp [hpa]
    · rw [push_of_ne hji, hj]

end Levels
