import Mathlib.Tactic.Common

/-!
# Words as sets of bits

A flag word is a set of bit positions, and C tests it with `&` and `~`. `Has` is membership.

* `and_ne_zero_iff` — `w & (1 << k)`, the test for one bit
* `and_not_eq_zero_iff` — `w & ~m`, the test for bits outside a mask
-/

namespace Infra

/-- Bit `k` is set. -/
def Has (w : UInt32) (k : Nat) : Prop := w.toBitVec.getLsbD k = true

instance (w : UInt32) (k : Nat) : Decidable (Has w k) :=
  inferInstanceAs (Decidable (w.toBitVec.getLsbD k = true))

theorem Has.lt {w : UInt32} {k : Nat} (h : Has w k) : k < 32 :=
  BitVec.lt_of_getLsbD h

theorem eq_zero_iff {w : UInt32} : w = 0 ↔ ∀ k, ¬ Has w k := by
  constructor
  · rintro rfl k
    simp [Has]
  · intro h
    apply UInt32.toBitVec_inj.mp
    apply BitVec.eq_of_getLsbD_eq
    intro k _
    simpa [Has] using h k

theorem has_and {w m : UInt32} {k : Nat} : Has (w &&& m) k ↔ Has w k ∧ Has m k := by
  simp [Has]

theorem has_not {w : UInt32} {k : Nat} : Has (~~~w) k ↔ k < 32 ∧ ¬ Has w k := by
  simp [Has]

/-- A word with bit `k` only answers the question for bit `k`. -/
theorem and_ne_zero_iff {w m : UInt32} {k : Nat} (hm : ∀ j, Has m j ↔ j = k) :
    w &&& m ≠ 0 ↔ Has w k := by
  rw [Ne, eq_zero_iff]
  constructor
  · intro h
    by_contra hk
    refine h fun j hj => ?_
    obtain ⟨hw, hmj⟩ := has_and.mp hj
    rw [(hm j).mp hmj] at hw
    exact hk hw
  · intro hk hall
    exact hall k (has_and.mpr ⟨hk, (hm k).mpr rfl⟩)

/-- Nothing is left outside the mask exactly when the word is a subset of it. -/
theorem and_not_eq_zero_iff {w m : UInt32} : w &&& ~~~m = 0 ↔ ∀ k, Has w k → Has m k := by
  rw [eq_zero_iff]
  constructor
  · intro h k hk
    by_contra hm
    exact h k (has_and.mpr ⟨hk, has_not.mpr ⟨hk.lt, hm⟩⟩)
  · intro h k hk
    obtain ⟨hw, hn⟩ := has_and.mp hk
    exact (has_not.mp hn).2 (h k hw)

/-- To know the bits of a word it is enough to look at the first 32 positions. -/
theorem has_iff_of_lt {w : UInt32} {p : Nat → Prop} (hp : ∀ k, p k → k < 32)
    (h : ∀ k < 32, Has w k ↔ p k) (k : Nat) : Has w k ↔ p k := by
  by_cases hk : k < 32
  · exact h k hk
  · constructor
    · intro hw; exact absurd hw.lt hk
    · intro hpk; exact absurd (hp k hpk) hk

end Infra
