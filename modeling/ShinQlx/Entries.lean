import Mathlib.Data.BitVec
import Mathlib.Data.List.FinRange
import Mathlib.Logic.Function.Basic

/-! # Arrays and bit fields that are written entry by entry

A loop writes one value after the other, each to a place of its own.  Places that are
distinct keep what was written to them, and all others keep what was there
(`writeAll_apply`, `writeAll_of_notMem`).  A bit field that is the sum of distinct powers of
two has exactly these bits (`getLsbD_sum_twoPow`).
-/
namespace Entries

section arrays
variable {κ ι α : Type} [DecidableEq ι] (place : κ → ι) (value : κ → α)

/-- The values of the keys are written to their places, in order. -/
def write (keys : List κ) (a : ι → α) : ι → α :=
  keys.foldl (fun a k => Function.update a (place k) (value k)) a

theorem write_of_notMem {keys : List κ} {j : ι} (h : ∀ k ∈ keys, place k ≠ j) (a : ι → α) :
    write place value keys a j = a j := by
  induction keys generalizing a with
  | nil => rfl
  | cons k keys ih =>
    rw [write, List.foldl_cons, ← write, ih fun k hk => h k (List.mem_cons_of_mem _ hk)]
    exact Function.update_of_ne (h k List.mem_cons_self).symm _ _

theorem write_apply (hplace : Function.Injective place) {keys : List κ} {k : κ} (h : k ∈ keys)
    (a : ι → α) : write place value keys a (place k) = value k := by
  induction keys using List.reverseRecOn with
  | nil => cases h
  | append_singleton keys l ih =>
    rw [write, List.foldl_concat, ← write]
    rcases eq_or_ne l k with rfl | hne
    · exact Function.update_self ..
    · have hmem : k ∈ keys := by simpa [hne.symm] using h
      rw [Function.update_of_ne (hplace.ne hne.symm), ih hmem]

end arrays

section loops
variable {n : Nat} {ι α : Type} [DecidableEq ι] {place : Fin n → ι} (value : Fin n → α) (a : ι → α)

/-- A loop over all entries. -/
def writeAll (place : Fin n → ι) (value : Fin n → α) (a : ι → α) : ι → α :=
  write place value (List.finRange n) a

theorem writeAll_apply (hplace : Function.Injective place) (i : Fin n) :
    writeAll place value a (place i) = value i :=
  write_apply place value hplace (List.mem_finRange i) a

theorem writeAll_of_notMem {j : ι} (h : ∀ i, place i ≠ j) : writeAll place value a j = a j :=
  write_of_notMem place value (fun i _ => h i) a

end loops

/-- **A sum of distinct powers of two** has exactly their bits. -/
theorem getLsbD_sum_twoPow {w : Nat} {bits : List Nat} (hdistinct : bits.Nodup)
    (hbits : ∀ i ∈ bits, i < w) (j : Nat) :
    ((bits.map (BitVec.twoPow w)).sum).getLsbD j = decide (j ∈ bits) := by
  induction bits generalizing j with
  | nil => simp
  | cons i bits ih =>
    obtain ⟨hi, hdistinct⟩ := List.nodup_cons.mp hdistinct
    obtain ⟨hlt, hbits⟩ := List.forall_mem_cons.mp hbits
    have hrest := ih hdistinct hbits
    -- the new bit is not among the others, so that nothing is carried
    have hand : BitVec.twoPow w i &&& (bits.map (BitVec.twoPow w)).sum = 0#w := by
      refine BitVec.eq_of_getLsbD_eq fun k hk => ?_
      rw [BitVec.getLsbD_and, BitVec.getLsbD_twoPow, hrest, BitVec.getLsbD_zero]
      rcases eq_or_ne i k with rfl | hne
      · simp [hi]
      · simp [hne]
    rw [List.map_cons, List.sum_cons, BitVec.add_eq_or_of_and_eq_zero _ _ hand, BitVec.getLsbD_or,
      BitVec.getLsbD_twoPow, hrest]
    simp [hlt, eq_comm]

end Entries
