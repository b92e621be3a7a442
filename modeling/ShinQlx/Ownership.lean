import Mathlib.Data.Option.Basic

/-! # Objects with numbers and holders

A system gives the objects it makes numbers that it never uses again, and holders keep some
of them.  As long as a step only lets holders let go and lets one of them take new numbers
(`Takes`), no number has two holders (`Takes.unique`), and a number that had a holder is
never held by another one later on (`Unique.holder_eq`).
-/
namespace Ownership

/-- The next number, and the number that each holder has. -/
structure Holdings (H : Type) where
  next : Nat
  held : H → Option Nat

namespace Holdings
variable {H : Type} {x y z : Holdings H} {taker : H}

/-- The numbers are below the next one, and each has one holder. -/
structure Unique (x : Holdings H) : Prop where
  bounded : ∀ {a k}, x.held a = some k → k < x.next
  single : ∀ {a b k}, x.held a = some k → x.held b = some k → a = b

/-- What is held later was held by the same holder before, or is new. -/
structure Grows (x y : Holdings H) : Prop where
  next : x.next ≤ y.next
  held : ∀ {a k}, y.held a = some k → x.held a = some k ∨ x.next ≤ k

/-- What is held later was held by the same holder before, or is new and held by `taker`. -/
structure Takes (taker : H) (x y : Holdings H) : Prop where
  next : x.next ≤ y.next
  held : ∀ {a k}, y.held a = some k →
    x.held a = some k ∨ a = taker ∧ x.next ≤ k ∧ k < y.next

theorem Grows.refl (x : Holdings H) : Grows x x := ⟨Nat.le_refl _, .inl⟩

theorem Grows.trans (hxy : Grows x y) (hyz : Grows y z) : Grows x z := by
  refine ⟨Nat.le_trans hxy.next hyz.next, fun hheld => ?_⟩
  rcases hyz.held hheld with hheld | hnew
  · exact hxy.held hheld
  · exact .inr (Nat.le_trans hxy.next hnew)

/-- Holders that only let go. -/
theorem Takes.of_held (taker : H) (hnext : x.next ≤ y.next)
    (h : ∀ {a k}, y.held a = some k → x.held a = some k) : Takes taker x y :=
  ⟨hnext, fun hheld => .inl (h hheld)⟩

theorem Takes.grows (h : Takes taker x y) : Grows x y :=
  ⟨h.next, fun hheld => (h.held hheld).imp_right fun hnew => hnew.2.1⟩

/-- Numbers keep having one holder. -/
theorem Takes.unique (h : Takes taker x y) (hx : x.Unique) : y.Unique := by
  refine ⟨fun hheld => ?_, fun ha hb => ?_⟩
  · rcases h.held hheld with hheld | ⟨-, -, hlt⟩
    · exact Nat.lt_of_lt_of_le (hx.bounded hheld) h.next
    · exact hlt
  · rcases h.held ha with ha | ⟨rfl, hnew, -⟩ <;> rcases h.held hb with hb | ⟨rfl, hnew', -⟩
    · exact hx.single ha hb
    · exact absurd (hx.bounded ha) (Nat.not_lt.mpr hnew')
    · exact absurd (hx.bounded hb) (Nat.not_lt.mpr hnew)
    · rfl

/-- A number is never held by another holder than the one it had. -/
theorem Unique.holder_eq (hx : x.Unique) (h : Grows x y) {a b : H} {k : Nat}
    (ha : x.held a = some k) (hb : y.held b = some k) : b = a := by
  rcases h.held hb with hb | hnew
  · exact hx.single hb ha
  · exact absurd (hx.bounded ha) (Nat.not_lt.mpr hnew)

end Holdings
end Ownership
