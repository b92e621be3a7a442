import Mathlib.Data.List.GetD
import Mathlib.Data.List.OfFn
import Mathlib.Data.List.TakeWhile

/-! # Strings in buffers of a fixed size

A string is copied to the start of a buffer, and zeros follow up to its end.  Who reads the
buffer stops at the first zero, so that a string is read as it was written iff it leaves room
for one and has none of its own (`read_fill`).
-/
namespace CBuffer

/-- The bytes are followed by zeros. -/
def fill (n : Nat) (bytes : List UInt8) : Fin n → UInt8 := fun i => bytes.getD i.val 0

/-- Bytes are copied to a buffer, if there is room for them. -/
def copy (n : Nat) (bytes : List UInt8) : Option (Fin n → UInt8) :=
  if bytes.length ≤ n then some (fill n bytes) else none

/-- The bytes up to the first zero, if there is one. -/
def read {n : Nat} (buffer : Fin n → UInt8) : Option (List UInt8) :=
  if 0 ∈ List.ofFn buffer then some ((List.ofFn buffer).takeWhile (· ≠ 0)) else none

theorem ofFn_fill {n : Nat} {bytes : List UInt8} (h : bytes.length ≤ n) :
    List.ofFn (fill n bytes) = bytes ++ List.replicate (n - bytes.length) 0 := by
  refine List.ext_getElem (by simp; omega) fun i _ _ => ?_
  rw [List.getElem_ofFn, fill]
  by_cases hi : i < bytes.length
  · rw [List.getD_eq_getElem _ _ hi, List.getElem_append_left hi]
  · rw [List.getD_eq_default _ _ (Nat.not_lt.mp hi), List.getElem_append_right (Nat.not_lt.mp hi),
      List.getElem_replicate]

/-- **A string is read as it was written** iff it leaves room for a zero and has none. -/
theorem read_fill {n : Nat} {bytes : List UInt8} (h : bytes.length ≤ n) :
    read (fill n bytes) = some bytes ↔ bytes.length < n ∧ 0 ∉ bytes := by
  rw [read, ofFn_fill h]
  constructor
  · intro hread
    by_cases hzero : 0 ∈ bytes ++ List.replicate (n - bytes.length) 0
    · rw [if_pos hzero] at hread
      have hnone : 0 ∉ bytes := fun hmem => by
        rw [← Option.some.inj hread] at hmem
        have hne := List.mem_takeWhile_imp hmem
        simp at hne
      have hroom := ((List.mem_append.mp hzero).resolve_left hnone)
      exact ⟨by have := (List.mem_replicate.mp hroom).1; omega, hnone⟩
    · rw [if_neg hzero] at hread
      cases hread
  · rintro ⟨hroom, hnone⟩
    obtain ⟨k, hk⟩ : ∃ k, n - bytes.length = k + 1 := ⟨n - bytes.length - 1, by omega⟩
    have hall : ∀ b ∈ bytes, decide (b ≠ 0) = true := fun b hb =>
      decide_eq_true fun hzero => hnone (hzero ▸ hb)
    rw [hk, List.replicate_succ, if_pos (by simp), List.takeWhile_append_of_pos hall]
    simp

end CBuffer
