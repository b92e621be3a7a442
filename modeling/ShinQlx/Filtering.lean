import Mathlib.Data.List.Perm.Basic

/-! # What a filter keeps

A filter is determined by what it keeps of a list, up to order or not; and it
removes exactly the targets of a removal iff its predicate is that of the targets.
-/
namespace Filtering
variable {α : Type}

theorem filter_inj {p q : α → Bool} {xs : List α} (h : xs.filter p = xs.filter q) :
    ∀ x ∈ xs, p x = q x := by
  intro x hx
  have hmem : x ∈ xs.filter p ↔ x ∈ xs.filter q := by rw [h]
  simp only [List.mem_filter, hx, true_and] at hmem
  exact Bool.eq_iff_iff.mpr hmem

/-- `after` is `before` without its targets, of which there was at least one: no
target remains, and the others are the same in the same order. -/
structure Removes (target : α → Bool) (before after : List α) : Prop where
  none_left : ∀ r ∈ after, target r = false
  shorter : after.length < before.length
  others : after.filter (!target ·) = before.filter (!target ·)

/-- A filter removes exactly the elements that satisfy `p` iff there is one and
it drops no others. -/
theorem removes_filter_iff {p q : α → Bool} {xs : List α} :
    Removes p xs (xs.filter (!q ·)) ↔ (∃ x ∈ xs, p x = true) ∧ ∀ x ∈ xs, q x = p x := by
  constructor
  · rintro ⟨hnone, hshort, hothers⟩
    have hdropped : ∀ x ∈ xs, p x = true → q x = true := by
      intro x hx hp
      by_contra hq
      have hleft := hnone x (List.mem_filter.mpr ⟨hx, by simp [hq]⟩)
      exact absurd (hp.symm.trans hleft) (by simp)
    have hkept : ∀ x ∈ xs, q x = true → p x = true := by
      intro x hx hq
      by_contra hp
      have hmem : x ∈ xs.filter (!p ·) := List.mem_filter.mpr ⟨hx, by simp [hp]⟩
      rw [← hothers] at hmem
      have := (List.mem_filter.mp (List.mem_filter.mp hmem).1).2
      simp [hq] at this
    refine ⟨?_, fun x hx => Bool.eq_iff_iff.mpr ⟨hkept x hx, hdropped x hx⟩⟩
    obtain ⟨x, hx, hq⟩ := List.length_filter_lt_length_iff_exists.mp hshort
    exact ⟨x, hx, hkept x hx (by simpa using hq)⟩
  · rintro ⟨⟨x, hx, hp⟩, hsame⟩
    have hfilter : xs.filter (!q ·) = xs.filter (!p ·) :=
      List.filter_congr fun y hy => by rw [hsame y hy]
    rw [hfilter]
    refine ⟨fun y hy => by simpa using (List.mem_filter.mp hy).2, ?_, by simp⟩
    exact List.length_filter_lt_length_iff_exists.mpr ⟨x, hx, by simp [hp]⟩

end Filtering
