import Btck.Python.Index

/-!
# The indices of a slice

CPython's slice functions work on 64-bit numbers: they replace what does not fit by the nearest
number that does, then move both ends into the list and compute the length of the slice with one
division. On a list of any length that a `Py_ssize_t` can hold, that is the same as the walk along
the list that unbounded integers describe.

* `unpack_walks` — `PySlice_Unpack` raises the same exceptions, or describes the same walk
* `Walks.count_eq` — `PySlice_AdjustIndices` finds the length of the walk
* `Walks.member` — the clipped step passes the same places
-/

namespace Btck.Python

open Infra

/-- `step'` is `step` as `PySlice_Unpack` stores it. -/
structure StepOf (step step' : Int) : Prop where
  ne_zero : step ≠ 0
  sign : step' < 0 ↔ step < 0
  /-- It was clipped only if it leads out of every list at once. -/
  eq_or_long : step' = step ∨ (ssizeMax ≤ step.natAbs ∧ ssizeMax ≤ step'.natAbs)

theorem StepOf.clip {k : Int} (hk : k ≠ 0) :
    PySlice.clip k ≠ 0 ∧
      StepOf k (if PySlice.clip k < -ssizeMax then -ssizeMax else PySlice.clip k) := by
  have hclip : PySlice.clip k =
      if k < ssizeMin then ssizeMin else if ssizeMax < k then ssizeMax else k :=
    rfl
  rw [hclip]
  unfold ssizeMin ssizeMax
  refine ⟨by omega, hk, by omega, ?_⟩
  unfold ssizeMax
  omega

theorem StepOf.one : StepOf 1 1 := ⟨by decide, Iff.rfl, .inl rfl⟩

/-- `u` describes the walk from `start` to `stop` by `step` along a list of the given length. -/
structure Walks (length start stop step : Int) (u : PySlice.Unpacked) : Prop where
  step_of : StepOf step u.step
  start_eq : PySlice.adjust length u.step u.start = start
  stop_eq : PySlice.adjust length u.step u.stop = stop

section

variable {length : Int}

/-- One end of the slice: CPython clips the number first, and that makes no difference. -/
theorem adjust_sliceIndex (h0 : 0 ≤ length) (hmax : length ≤ ssizeMax) {step : Int} (b : Bound)
    {default place : Int} (hdefault : PySlice.adjust length step default = place) :
    (∃ k, PySlice.sliceIndex b default = .returns k ∧
      PyList.place (if step < 0 then -1 else 0) (if step < 0 then length - 1 else length) length b
        place = .returns (PySlice.adjust length step k)) ∨
    (PySlice.sliceIndex b default = .throws noIndex ∧
      PyList.place (if step < 0 then -1 else 0) (if step < 0 then length - 1 else length) length b
        place = .throws noIndex) := by
  cases b with
  | none => exact .inl ⟨default, rfl, by rw [hdefault]; rfl⟩
  | other => exact .inr ⟨rfl, rfl⟩
  | index k =>
    refine .inl ⟨PySlice.clip k, rfl, ?_⟩
    show Outcome.returns _ = Outcome.returns _
    congr 1
    -- a clipped number is beyond both ends of the list, on the same side as before
    unfold PySlice.adjust PySlice.clip
    unfold ssizeMax at *
    unfold ssizeMin
    grind

/-- The part of `PySlice_Unpack` behind the step, beside the same part of `slice.indices`. -/
theorem ends_walk (h0 : 0 ≤ length) (hmax : length ≤ ssizeMax) {step step' : Int}
    (hstep : StepOf step step') (start stop : Bound) :
    let lower := if step < 0 then -1 else 0
    let upper := if step < 0 then length - 1 else length
    let unpacked : Outcome PyErr PySlice.Unpacked := do
      let start ← PySlice.sliceIndex start (if step' < 0 then ssizeMax else 0)
      let stop ← PySlice.sliceIndex stop (if step' < 0 then ssizeMin else ssizeMax)
      return { start := start, stop := stop, step := step' }
    let indices : Outcome PyErr (Int × Int × Int) := do
      let start ← PyList.place lower upper length start (if step < 0 then upper else lower)
      let stop ← PyList.place lower upper length stop (if step < 0 then lower else upper)
      return (start, stop, step)
    (∃ e, unpacked = .throws e ∧ indices = .throws e) ∨
      ∃ u start stop, unpacked = .returns u ∧ indices = .returns (start, stop, step) ∧
        Walks length start stop step u := by
  have hsign := hstep.sign
  have hstart : PySlice.adjust length step' (if step' < 0 then ssizeMax else 0)
      = if step' < 0 then (if step' < 0 then length - 1 else length)
        else (if step' < 0 then -1 else 0) := by
    unfold PySlice.adjust
    unfold ssizeMax at *
    grind
  have hstop : PySlice.adjust length step' (if step' < 0 then ssizeMin else ssizeMax)
      = if step' < 0 then (if step' < 0 then -1 else 0)
        else (if step' < 0 then length - 1 else length) := by
    unfold PySlice.adjust
    unfold ssizeMax ssizeMin at *
    grind
  simp only [← hsign]
  -- the start is read first: it is its error that is raised when both bounds are no integers
  rcases adjust_sliceIndex h0 hmax start hstart with ⟨i, hu, hl⟩ | ⟨hu, hl⟩
  · rcases adjust_sliceIndex h0 hmax stop hstop with ⟨j, hu', hl'⟩ | ⟨hu', hl'⟩
    · refine .inr ⟨⟨i, j, step'⟩, _, _, ?_, ?_, hstep, rfl, rfl⟩
      · rw [hu, hu']
        rfl
      · rw [hl, hl']
        rfl
    · refine .inl ⟨noIndex, ?_, ?_⟩
      · rw [hu, hu']
        rfl
      · rw [hl, hl']
        rfl
  · refine .inl ⟨noIndex, ?_, ?_⟩
    · rw [hu]
      rfl
    · rw [hl]
      rfl

/-- **`PySlice_Unpack` raises what `slice.indices` raises, or describes the same walk.** -/
theorem unpack_walks (h0 : 0 ≤ length) (hmax : length ≤ ssizeMax) (s : Slice) :
    (∃ e, PySlice.unpack s = .throws e ∧ PyList.indices length s = .throws e) ∨
      ∃ u start stop step, PySlice.unpack s = .returns u ∧
        PyList.indices length s = .returns (start, stop, step) ∧ Walks length start stop step u := by
  obtain ⟨start, stop, step⟩ := s
  cases step with
  | none =>
    rcases ends_walk h0 hmax StepOf.one start stop with h | ⟨u, i, j, hu, hl, hw⟩
    · exact .inl h
    · exact .inr ⟨u, i, j, 1, hu, hl, hw⟩
  | other => exact .inl ⟨noIndex, rfl, rfl⟩
  | index k =>
    by_cases hk : k = 0
    · subst hk
      exact .inl ⟨zeroStep, rfl, rfl⟩
    · obtain ⟨hne, hstep⟩ := StepOf.clip hk
      have hunpack : PySlice.unpack ⟨start, stop, .index k⟩ = _ := if_neg hne
      have hindices : PyList.indices length ⟨start, stop, .index k⟩ = _ := if_neg hk
      rw [hunpack, hindices]
      rcases ends_walk h0 hmax hstep start stop with h | ⟨u, i, j, hu, hl, hw⟩
      · exact .inl h
      · exact .inr ⟨u, i, j, k, hu, hl, hw⟩

theorem adjust_inside (h0 : 0 ≤ length) (step k : Int) :
    if step < 0 then -1 ≤ PySlice.adjust length step k ∧ PySlice.adjust length step k < length
    else 0 ≤ PySlice.adjust length step k ∧ PySlice.adjust length step k ≤ length := by
  unfold PySlice.adjust
  grind

variable {start stop step : Int} {u : PySlice.Unpacked}

/-- The two ends are no further apart than the list is long. -/
theorem Walks.span_le (h0 : 0 ≤ length) (hw : Walks length start stop step u) :
    (stop - start).natAbs ≤ length := by
  have hstart := adjust_inside h0 u.step u.start
  have hstop := adjust_inside h0 u.step u.stop
  rw [hw.start_eq] at hstart
  rw [hw.stop_eq] at hstop
  by_cases hneg : u.step < 0
  · rw [if_pos hneg] at hstart hstop
    omega
  · rw [if_neg hneg] at hstart hstop
    omega

/-- The quotient of C rounds towards zero, and there is nothing negative to round. -/
theorem adjustIndices_count (u : PySlice.Unpacked) :
    (PySlice.adjustIndices length u).2.2 = Progression.count (PySlice.adjust length u.step u.start)
      (PySlice.adjust length u.step u.stop) u.step := by
  unfold PySlice.adjustIndices Progression.count
  dsimp only
  generalize PySlice.adjust length u.step u.start = start
  generalize PySlice.adjust length u.step u.stop = stop
  by_cases hneg : u.step < 0
  · rw [if_pos hneg, if_pos hneg]
    by_cases hlt : stop < start
    · have hq : 0 ≤ (start - stop - 1) / -u.step := Int.ediv_nonneg (by omega) (by omega)
      rw [if_pos hlt, if_pos hlt, Int.tdiv_eq_ediv_of_nonneg (by omega),
        Int.toNat_of_nonneg (by omega)]
    · rw [if_neg hlt, if_neg hlt]
      rfl
  · rw [if_neg hneg, if_neg hneg]
    by_cases hlt : start < stop
    · have hq : 0 ≤ (stop - start - 1) / u.step := Int.ediv_nonneg (by omega) (by omega)
      rw [if_pos hlt, if_pos hlt, Int.tdiv_eq_ediv_of_nonneg (by omega),
        Int.toNat_of_nonneg (by omega)]
    · rw [if_neg hlt, if_neg hlt]
      rfl

/-- **`PySlice_AdjustIndices` finds the length of the walk.** -/
theorem Walks.count_eq (h0 : 0 ≤ length) (hmax : length ≤ ssizeMax)
    (hw : Walks length start stop step u) :
    (PySlice.adjustIndices length u).2.2 = Progression.count start stop step := by
  have hspan := hw.span_le h0
  rw [adjustIndices_count, hw.start_eq, hw.stop_eq]
  rcases hw.step_of.eq_or_long with heq | ⟨hlong, hlong'⟩
  · rw [heq]
  · rw [Progression.count_of_long hw.step_of.sign (by omega) (by omega)]

/-- **The walk by the clipped step passes the same places, and they are in the list.** -/
theorem Walks.member (h0 : 0 ≤ length) (hmax : length ≤ ssizeMax)
    (hw : Walks length start stop step u) {k : Nat} (hk : k < Progression.count start stop step) :
    start + k * u.step = start + k * step ∧ 0 ≤ start + k * step ∧ start + k * step < length := by
  have hstart := adjust_inside h0 u.step u.start
  have hstop := adjust_inside h0 u.step u.stop
  rw [hw.start_eq] at hstart
  rw [hw.stop_eq] at hstop
  have hmem := Progression.member_mem hw.step_of.ne_zero hk
  have hsign := hw.step_of.sign
  refine ⟨?_, ?_⟩
  · rcases hw.step_of.eq_or_long with heq | ⟨hlong, -⟩
    · rw [heq]
    · -- a step that was clipped is taken at most zero times
      have hspan := hw.span_le h0
      have hone : Progression.count start stop step ≤ 1 := Progression.count_le_one (by omega)
      obtain rfl : k = 0 := by omega
      simp
  · by_cases hneg : step < 0
    · rw [if_pos hneg] at hmem
      rw [if_pos (hsign.mpr hneg)] at hstart hstop
      omega
    · rw [if_neg hneg] at hmem
      rw [if_neg (fun hc => hneg (hsign.mp hc))] at hstart hstop
      omega

end

end Btck.Python
