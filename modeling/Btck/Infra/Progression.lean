import Mathlib.Tactic.Common
import Mathlib.Tactic.Linarith

/-!
# Arithmetic progressions that stop at a bound

A progression starts at a number and goes on by a step, up or down, as long as it has not come
to its bound. Strided loops and slices visit the members of one.

* `Before` — the bound is still ahead
* `count` — the number of members, in closed form
* `lt_count_iff` — the formula is right: the member `k` is ahead of the bound if and only if
  `k < count`
* `member_mem` — the members lie between the start and the bound
-/

namespace Infra.Progression

/-- Going by `step`, the number `x` has not come to `stop`. -/
def Before (step stop x : Int) : Prop := if step < 0 then stop < x else x < stop

/-- How many of `start`, `start + step`, `start + 2 * step`, … are before `stop`. -/
def count (start stop step : Int) : Nat :=
  if step < 0 then
    if stop < start then ((start - stop - 1) / -step + 1).toNat else 0
  else
    if start < stop then ((stop - start - 1) / step + 1).toNat else 0

/-- The members before `stop`. -/
def members (start stop step : Int) : List Int :=
  (List.range (count start stop step)).map fun k : Nat => start + k * step

variable {start stop step : Int}

@[simp] theorem length_members : (members start stop step).length = count start stop step := by
  simp [members]

/-- The quotient counts the multiples: `k * d ≤ n` if and only if `k < n / d + 1`. -/
theorem lt_quotient_iff {n d : Int} (hn : 0 ≤ n) (hd : 0 < d) (k : Nat) :
    k < (n / d + 1).toNat ↔ k * d ≤ n := by
  have hpos : 0 ≤ n / d := Int.ediv_nonneg hn (by omega)
  have hle : (k : Int) ≤ n / d ↔ k * d ≤ n := Int.le_ediv_iff_mul_le hd
  rw [← hle]
  omega

/-- **The closed form counts the members.** -/
theorem lt_count_iff (hstep : step ≠ 0) (k : Nat) :
    k < count start stop step ↔ Before step stop (start + k * step) := by
  have hk : (0 : Int) ≤ k := Int.natCast_nonneg k
  unfold count Before
  by_cases hneg : step < 0
  · rw [if_pos hneg, if_pos hneg]
    by_cases hlt : stop < start
    · rw [if_pos hlt, lt_quotient_iff (by omega) (by omega), Int.mul_neg]
      omega
    · -- the start is already past the bound, and the members only move on
      have hmul : (k : Int) * step ≤ 0 := mul_nonpos_of_nonneg_of_nonpos hk (by omega)
      rw [if_neg hlt]
      omega
  · rw [if_neg hneg, if_neg hneg]
    by_cases hlt : start < stop
    · rw [if_pos hlt, lt_quotient_iff (by omega) (by omega)]
      omega
    · have hmul : 0 ≤ (k : Int) * step := mul_nonneg hk (by omega)
      rw [if_neg hlt]
      omega

/-- A member lies between the start and the bound, on the side it is walked to. -/
theorem member_mem (hstep : step ≠ 0) {k : Nat} (hk : k < count start stop step) :
    if step < 0 then stop < start + k * step ∧ start + k * step ≤ start
    else start ≤ start + k * step ∧ start + k * step < stop := by
  have hbefore := (lt_count_iff hstep k).mp hk
  have hk0 : (0 : Int) ≤ k := Int.natCast_nonneg k
  unfold Before at hbefore
  by_cases hneg : step < 0
  · have hmul : (k : Int) * step ≤ 0 := mul_nonpos_of_nonneg_of_nonpos hk0 (by omega)
    rw [if_pos hneg] at hbefore ⊢
    exact ⟨hbefore, by omega⟩
  · have hmul : 0 ≤ (k : Int) * step := mul_nonneg hk0 (by omega)
    rw [if_neg hneg] at hbefore ⊢
    exact ⟨by omega, hbefore⟩

/-- A step that is longer than the way leaves at most the start. -/
theorem count_of_long {step' : Int} (hsign : step < 0 ↔ step' < 0)
    (hlong : (stop - start).natAbs ≤ step.natAbs) (hlong' : (stop - start).natAbs ≤ step'.natAbs) :
    count start stop step = count start stop step' := by
  unfold count
  by_cases hneg : step < 0
  · have hneg' := hsign.mp hneg
    rw [if_pos hneg, if_pos hneg']
    by_cases hlt : stop < start
    · rw [if_pos hlt, if_pos hlt, Int.ediv_eq_zero_of_lt (by omega) (by omega),
        Int.ediv_eq_zero_of_lt (by omega) (by omega)]
    · rw [if_neg hlt, if_neg hlt]
  · have hneg' := fun hc => hneg (hsign.mpr hc)
    rw [if_neg hneg, if_neg hneg']
    by_cases hlt : start < stop
    · rw [if_pos hlt, if_pos hlt, Int.ediv_eq_zero_of_lt (by omega) (by omega),
        Int.ediv_eq_zero_of_lt (by omega) (by omega)]
    · rw [if_neg hlt, if_neg hlt]

/-- And no more than one member is left. -/
theorem count_le_one (hlong : (stop - start).natAbs ≤ step.natAbs) :
    count start stop step ≤ 1 := by
  unfold count
  split
  · split
    · rw [Int.ediv_eq_zero_of_lt (by omega) (by omega)]
      decide
    · exact Nat.zero_le 1
  · split
    · rw [Int.ediv_eq_zero_of_lt (by omega) (by omega)]
      decide
    · exact Nat.zero_le 1

/-- There are no more members than numbers on the way. -/
theorem count_le (start stop step : Int) : count start stop step ≤ (stop - start).natAbs := by
  unfold count
  by_cases hneg : step < 0
  · rw [if_pos hneg]
    by_cases hlt : stop < start
    · have hq : (start - stop - 1) / -step ≤ start - stop - 1 := Int.ediv_le_self _ (by omega)
      rw [if_pos hlt]
      omega
    · rw [if_neg hlt]
      omega
  · rw [if_neg hneg]
    by_cases hlt : start < stop
    · have hq : (stop - start - 1) / step ≤ stop - start - 1 := Int.ediv_le_self _ (by omega)
      rw [if_pos hlt]
      omega
    · rw [if_neg hlt]
      omega

end Infra.Progression
