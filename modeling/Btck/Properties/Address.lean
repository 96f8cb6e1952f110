import Btck.Properties.View

/-!
# Where a slice reads

`item` adds and multiplies on `Py_ssize_t`, where an overflow is undefined. The numbers come from
slice objects with any bounds and steps, by way of CPython's adjustment to the length of the parent.

* `nest`, `rootPosition` — slices of slices, and where an index of the last one leads in the root
* `Reaches` — the index is accepted at every level, and nothing overflows on the way
* `Addressing` — this holds of all indices, and each leads to a position of its own
* `Computes` — the methods of the last slice compute these positions
* `addressing_of_subscripts` — slices of slices address the root, whatever bounds and steps they
  have
-/

namespace Btck.Python

open Infra

variable {core : BitcoinCore}

/-! ## Slices of slices -/

/-- A part of a part of … `root`. The last slice comes first. -/
def nest (root : PyObj core) : List SliceWords → PyObj core
  | [] => root
  | words :: outer => .slice (nest root outer) words

/-- The position in the parent that `item` computes. -/
def SliceWords.position (words : SliceWords) (idx : Int) : Int := words.start + idx * words.step

/-- The position in the root. -/
def rootPosition : List SliceWords → Int → Int
  | [], idx => idx
  | words :: outer, idx => rootPosition outer (words.position idx)

/--
At every level the index is accepted, and the product and the sum that `item` computes are of type
`Py_ssize_t`.
-/
def Reaches (root : PyObj core) : List SliceWords → Int → Prop
  | [], idx => 0 ≤ idx ∧ idx < Slice.length root
  | words :: outer, idx => (0 ≤ idx ∧ idx < words.length) ∧ IsSsize (idx * words.step) ∧
    IsSsize (words.position idx) ∧ Reaches root outer (words.position idx)

/-- The indices of the last slice lead to positions of the root. -/
structure Addressing (root : PyObj core) (slices : List SliceWords) : Prop where
  length_nonneg : 0 ≤ Slice.length (nest root slices)
  length_le : Slice.length (nest root slices) ≤ Slice.length root
  /-- A negative subscript can be counted from the end. -/
  adjusted : ∀ k, IsSsize k → k < 0 → IsSsize (k + Slice.length (nest root slices))
  reaches : ∀ idx, 0 ≤ idx → idx < Slice.length (nest root slices) → Reaches root slices idx
  inside : ∀ idx, 0 ≤ idx → idx < Slice.length (nest root slices) →
    0 ≤ rootPosition slices idx ∧ rootPosition slices idx < Slice.length root
  injective : ∀ i j, 0 ≤ i → i < Slice.length (nest root slices) → 0 ≤ j →
    j < Slice.length (nest root slices) → rootPosition slices i = rootPosition slices j → i = j

theorem isSsize_adjusted {length k : Int} (h0 : 0 ≤ length) (hmax : length ≤ ssizeMax)
    (hk : IsSsize k) (hneg : k < 0) : IsSsize (k + length) := by
  unfold IsSsize ssizeMin ssizeMax at *
  omega

theorem addressing_nil {root : PyObj core} (h0 : 0 ≤ Slice.length root)
    (hmax : Slice.length root ≤ ssizeMax) : Addressing root [] where
  length_nonneg := h0
  length_le := Int.le_refl _
  adjusted _ := isSsize_adjusted h0 hmax
  reaches _ h1 h2 := ⟨h1, h2⟩
  inside _ h1 h2 := ⟨h1, h2⟩
  injective _ _ _ _ _ _ h := h

/-! ## One slice -/

/-- The numbers in a slice of a parent of the given length. -/
structure Fits (length : Int) (words : SliceWords) : Prop where
  length_nonneg : 0 ≤ words.length
  length_le : words.length ≤ length
  step_ne_zero : words.step ≠ 0
  inside : ∀ idx, 0 ≤ idx → idx < words.length →
    0 ≤ words.position idx ∧ words.position idx < length

theorem StepOf.clipped_ne_zero {step step' : Int} (h : StepOf step step') : step' ≠ 0 := by
  have hne := h.ne_zero
  rcases h.eq_or_long with heq | ⟨-, hlong⟩
  · rw [heq]
    exact hne
  · unfold ssizeMax at hlong
    omega

/-- **CPython's numbers fit**, for every slice object that it unpacks. -/
theorem fits_of_unpack {length : Int} (h0 : 0 ≤ length) (hmax : length ≤ ssizeMax) {s : Slice}
    {u : PySlice.Unpacked} (hu : PySlice.unpack s = .returns u) (item : ItemFn) :
    Fits length
      { length := (PySlice.adjustIndices length u).2.2
        start := (PySlice.adjustIndices length u).1
        step := u.step
        item := item } := by
  rcases unpack_walks h0 hmax s with ⟨e, he, -⟩ | ⟨u', start, stop, step, hu', -, hw⟩
  · rw [hu] at he
    simp at he
  obtain rfl : u = u' := Outcome.returns.inj (hu.symm.trans hu')
  have hcount := hw.count_eq h0 hmax
  have hstart : (PySlice.adjustIndices length u).1 = start := hw.start_eq
  have hle := Progression.count_le start stop step
  have hspan := hw.span_le h0
  constructor
  case length_nonneg =>
    show 0 ≤ (PySlice.adjustIndices length u).2.2
    omega
  case length_le =>
    show (PySlice.adjustIndices length u).2.2 ≤ length
    omega
  case step_ne_zero => exact hw.step_of.clipped_ne_zero
  case inside =>
    intro idx hidx hlt
    have hlt : idx < (PySlice.adjustIndices length u).2.2 := hlt
    have hk : idx.toNat < Progression.count start stop step := by omega
    obtain ⟨heq, hin⟩ := hw.member h0 hmax hk
    rw [Int.toNat_of_nonneg hidx] at heq hin
    show 0 ≤ (PySlice.adjustIndices length u).1 + idx * u.step ∧
      (PySlice.adjustIndices length u).1 + idx * u.step < length
    rw [hstart, heq]
    exact hin

section

variable {length : Int} {words : SliceWords} {idx : Int}

/-- The first element and the one asked for are both in the parent, so their distance fits. -/
theorem Fits.product (hf : Fits length words) (hmax : length ≤ ssizeMax) (h0 : 0 ≤ idx)
    (hlt : idx < words.length) : IsSsize (idx * words.step) := by
  have hfirst := hf.inside 0 (Int.le_refl 0) (by omega)
  have hhere := hf.inside idx h0 hlt
  unfold SliceWords.position at hfirst hhere
  unfold IsSsize ssizeMin ssizeMax at *
  omega

theorem Fits.sum (hf : Fits length words) (hmax : length ≤ ssizeMax) (h0 : 0 ≤ idx)
    (hlt : idx < words.length) : IsSsize (words.position idx) := by
  have hhere := hf.inside idx h0 hlt
  unfold IsSsize ssizeMin ssizeMax at *
  omega

theorem Fits.injective (hf : Fits length words) {i j : Int}
    (h : words.position i = words.position j) : i = j :=
  Int.eq_of_mul_eq_mul_right hf.step_ne_zero (Int.add_left_cancel h)

end

/-- **A slice addresses what its parent does.** -/
theorem Addressing.part {root : PyObj core} {slices : List SliceWords} {words : SliceWords}
    (ha : Addressing root slices) (hmax : Slice.length root ≤ ssizeMax)
    (hf : Fits (Slice.length (nest root slices)) words) : Addressing root (words :: slices) := by
  have hparent := Int.le_trans ha.length_le hmax
  constructor
  case length_nonneg => exact hf.length_nonneg
  case length_le => exact Int.le_trans hf.length_le ha.length_le
  case adjusted =>
    intro k
    exact isSsize_adjusted hf.length_nonneg (Int.le_trans hf.length_le hparent)
  case reaches =>
    intro idx h0 hlt
    obtain ⟨hin0, hin⟩ := hf.inside idx h0 hlt
    exact ⟨⟨h0, hlt⟩, hf.product hparent h0 hlt, hf.sum hparent h0 hlt, ha.reaches _ hin0 hin⟩
  case inside =>
    intro idx h0 hlt
    obtain ⟨hin0, hin⟩ := hf.inside idx h0 hlt
    exact ha.inside _ hin0 hin
  case injective =>
    intro i j hi0 hi hj0 hj heq
    obtain ⟨hin0, hin⟩ := hf.inside i hi0 hi
    obtain ⟨hjn0, hjn⟩ := hf.inside j hj0 hj
    exact hf.injective (ha.injective _ _ hin0 hin hjn0 hjn heq)

/-! ## `subscript` -/

/-- A subscription that returns has stored what CPython computed for the length of the parent. -/
theorem subscript_returns {env : Env} {self v : PyObj core} {s : Slice} {st st' : State}
    (h : Slice.subscript env self (.sliceObject s) st = (.returns v, st')) :
    ∃ u, PySlice.unpack s = .returns u ∧ v = .slice self
      { env.words with
        length := (PySlice.adjustIndices (Slice.length self) u).2.2
        start := (PySlice.adjustIndices (Slice.length self) u).1
        step := u.step } := by
  have hcall : Slice.subscript env self (.sliceObject s) = Slice.subscriptSlice env self s := rfl
  rw [hcall, Slice.subscriptSlice] at h
  cases hu : PySlice.unpack s with
  | throws e =>
    rw [hu, Prog.bind_of_throws (Prog.lift_run _ st)] at h
    simp at h
  | faults f =>
    rw [hu, Prog.bind_of_faults (Prog.lift_run _ st)] at h
    simp at h
  | returns u =>
    rw [hu, Prog.bind_of_returns (Prog.lift_run _ st)] at h
    refine ⟨u, rfl, ?_⟩
    dsimp only at h
    rw [newValue] at h
    split at h
    · exact (Outcome.returns.inj (congrArg Prod.fst h)).symm
    · have hthrow := congrArg Prod.fst h
      simp at hthrow

theorem addressing_step {root v : PyObj core} {slices : List SliceWords}
    (ha : Addressing root slices) (hmax : Slice.length root ≤ ssizeMax) {env : Env} {s : Slice}
    {st st' : State}
    (h : Slice.subscript env (nest root slices) (.sliceObject s) st = (.returns v, st')) :
    ∃ words, v = nest root (words :: slices) ∧ Addressing root (words :: slices) := by
  obtain ⟨u, hu, rfl⟩ := subscript_returns h
  have hparent := Int.le_trans ha.length_le hmax
  exact ⟨_, rfl, ha.part hmax (fits_of_unpack ha.length_nonneg hparent hu env.words.item)⟩

theorem addressing_run {root : PyObj core} (hmax : Slice.length root ≤ ssizeMax) :
    ∀ (args : List (Env × Slice)) {slices : List SliceWords} {v : PyObj core} {st st' : State},
    Addressing root slices → Slice.subscripts (nest root slices) args st = (.returns v, st') →
    ∃ slices', v = nest root slices' ∧ slices'.length = slices.length + args.length ∧
      Addressing root slices'
  | [], slices, v, st, st', ha, h => by
    obtain rfl : nest root slices = v := Outcome.returns.inj (congrArg Prod.fst h)
    exact ⟨slices, rfl, rfl, ha⟩
  | (env, s) :: args, slices, v, st, st', ha, h => by
    rw [Slice.subscripts] at h
    rcases hrun : Slice.subscript env (nest root slices) (.sliceObject s) st with ⟨out, st''⟩
    cases out with
    | returns w =>
      rw [Prog.bind_of_returns hrun] at h
      obtain ⟨words, rfl, ha'⟩ := addressing_step ha hmax hrun
      obtain ⟨slices', hv, hlen, ha''⟩ := addressing_run hmax args ha' h
      refine ⟨slices', hv, ?_, ha''⟩
      simp only [List.length_cons] at hlen ⊢
      omega
    | throws e =>
      rw [Prog.bind_of_throws hrun] at h
      simp at h
    | faults f =>
      rw [Prog.bind_of_faults hrun] at h
      simp at h

/-! ## `item` -/

/-- **`item` asks the root**, at the position that the index leads to. -/
theorem item_of_reaches {root : PyObj core} (env : Env) (s : State) :
    ∀ {slices : List SliceWords} {idx : Int}, Reaches root slices idx →
    (∀ words ∈ slices, words.item = .null) →
    Slice.item env (nest root slices) idx s = Slice.item env root (rootPosition slices idx) s
  | [], _, _, _ => rfl
  | words :: outer, idx, ⟨haccepted, hproduct, hsum, houter⟩, hnull => by
    have hitem : words.item = .null := hnull words List.mem_cons_self
    have hcall : Slice.item env (nest root (words :: outer)) idx = (do
        let offset ← Prog.lift (ssize (idx * words.step))
        let idx ← Prog.lift (ssize (words.start + offset))
        Slice.item env (nest root outer) idx) := by
      rw [nest, Slice.item, if_neg (by omega), if_neg (not_not.mpr hitem)]
    have hplace : (ssize (words.start + idx * words.step) : Outcome PyErr Int)
        = .returns (words.position idx) := ssize_of_isSsize hsum
    rw [hcall, ssize_of_isSsize hproduct, Prog.bind_of_returns (Prog.lift_run _ s), hplace,
      Prog.bind_of_returns (Prog.lift_run _ s)]
    exact item_of_reaches env s houter fun w hw => hnull w (List.mem_cons_of_mem _ hw)

/-- What the methods of the last slice do with an index. -/
structure Computes (root : PyObj core) (slices : List SliceWords) : Prop where
  /-- A negative subscript is counted from the end, and the sum does not overflow. -/
  subscript : ∀ env k s, IsSsize k → Slice.subscript env (nest root slices) (.int k) s
    = Slice.item env (nest root slices)
        (if k < 0 then k + Slice.length (nest root slices) else k) s
  /-- An accepted index is looked up in the root, where no `item` field was left over. -/
  item : (∀ words ∈ slices, words.item = .null) → ∀ env idx s, 0 ≤ idx →
    idx < Slice.length (nest root slices) →
    Slice.item env (nest root slices) idx s = Slice.item env root (rootPosition slices idx) s

theorem Addressing.computes {root : PyObj core} {slices : List SliceWords}
    (ha : Addressing root slices) : Computes root slices where
  subscript env k s hk := by
    have hcall : Slice.subscript env (nest root slices) (.int k)
        = Slice.subscriptIndex env (nest root slices) k := rfl
    have hindex : PyNumber.asSsize_t k = .returns k := if_pos hk
    rw [hcall, Slice.subscriptIndex, hindex, Prog.bind_of_returns (Prog.lift_run _ s)]
    by_cases hneg : k < 0
    · rw [if_pos hneg, if_pos hneg, ssize_of_isSsize (ha.adjusted k hk hneg),
        Prog.bind_of_returns (Prog.lift_run _ s)]
    · rw [if_neg hneg, if_neg hneg]
      rfl
  item hnull env idx s h0 hlt := item_of_reaches env s (ha.reaches idx h0 hlt) hnull

/-! ## Any number of slices -/

/--
**Slices of slices address the root**: every index that the last one accepts leads through all
levels to a position of the root, nothing overflows on the way, and no two lead to the same one.
These are the positions that `subscript` and `item` compute.
-/
theorem addressing_of_subscripts {root v : PyObj core} (h0 : 0 ≤ Slice.length root)
    (hmax : Slice.length root ≤ ssizeMax) {args : List (Env × Slice)} {st st' : State}
    (h : Slice.subscripts root args st = (.returns v, st')) :
    ∃ slices, v = nest root slices ∧ slices.length = args.length ∧ Addressing root slices ∧
      Computes root slices := by
  obtain ⟨slices, hv, hlen, ha⟩ := addressing_run hmax args (addressing_nil h0 hmax) h
  exact ⟨slices, hv, by simpa using hlen, ha, ha.computes⟩

/-- `addressing_of_subscripts` for every other element, backwards, of the longest list there is. -/
theorem addressing_of_subscripts_longest :
    ∃ slices, (.slice (.slice .none ⟨ssizeMax, 0, 1, .null⟩) ⟨4611686018427387904,
        9223372036854775806, -2, .null⟩ : PyObj minimalCore)
          = nest (.slice .none ⟨ssizeMax, 0, 1, .null⟩) slices ∧
      slices.length = 1 ∧
      Addressing (.slice .none ⟨ssizeMax, 0, 1, .null⟩ : PyObj minimalCore) slices ∧
      Computes (.slice .none ⟨ssizeMax, 0, 1, .null⟩ : PyObj minimalCore) slices := by
  have hrun : Slice.subscripts (.slice .none ⟨ssizeMax, 0, 1, .null⟩ : PyObj minimalCore)
      [(.leaving .null, ⟨.none, .none, .index (-2)⟩)] ⟨Heap.empty [], []⟩ = (.returns _, _) := rfl
  exact addressing_of_subscripts (by decide) (by decide) hrun

end Btck.Python
