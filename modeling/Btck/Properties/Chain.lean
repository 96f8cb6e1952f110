import Btck.Cpp.Chain
import Btck.Minimal
import Btck.Properties.ErrorBoundary

/-!
# Count and height of the active chain

A chain `b_0..b_h` has `h + 1` blocks and the height `h`. `FindBlock` and `GetBlock` go by the
height of a block, and `CountBlocks` returns the height of the tip, which is one less than the
number of blocks.

* `IsActive` — what Bitcoin Core promises about its active chain
* `Indexed` — what a client expects of count, lookup and loop together
* `getBlock_answers_iff` — when `GetBlock` gives the block at an index, or an error
* `not_indexed` — the expectation fails on every chain
* `indexed_below_tip` — what it comes to on a chain that is not empty: the tip is left out
-/

namespace Btck

open Infra Cpp

variable {core : BitcoinCore}

/-- The active chain of `manager` is `chain`, from the genesis block to the tip. -/
structure IsActive (manager : ChainstateManager core) (chain : List manager.CBlockIndex) : Prop where
  short : chain.length < 2147483648
  height : manager.height.toInt = (chain.length : Int) - 1
  active : ∀ i : Int32, manager.activeChain i = if 0 ≤ i.toInt then chain[i.toInt.toNat]? else none
  contains : ∀ bi, manager.contains bi = true ↔ bi ∈ chain
  nHeight : ∀ i (hi : i < chain.length), (manager.nHeight chain[i]).toInt = i
  distinct : ∀ bi bj, manager.blockHash bi = manager.blockHash bj → bi = bj
  lookup : ∀ bi ∈ chain, manager.lookupBlockIndex (manager.blockHash bi) = some bi
  lookup_hash : ∀ hash bi, manager.lookupBlockIndex hash = some bi → manager.blockHash bi = hash
  readable : ∀ bi ∈ chain, ∃ block, manager.readBlock bi = some block

/-- What `GetBlock` relies on: the active chain by height, up to the greatest height there is. -/
structure ByHeight (manager : ChainstateManager core) (chain : List manager.CBlockIndex) : Prop where
  short : chain.length ≤ 2147483648
  active : ∀ i : Int32, manager.activeChain i = if 0 ≤ i.toInt then chain[i.toInt.toNat]? else none

theorem IsActive.byHeight {manager : ChainstateManager core} {chain : List manager.CBlockIndex}
    (ha : IsActive manager chain) : ByHeight manager chain where
  short := Nat.le_of_lt ha.short
  active := ha.active

/-- Count, lookup and loop agree on the blocks of `chain`. -/
structure Indexed (manager : ChainstateManager core) (chain : List manager.CBlockIndex)
    (h : Memory) : Prop where
  count : (Chain.countBlocks manager).toNat = chain.length
  findBlock_active : ∀ i (hi : i < chain.length),
    (Chain.findBlock manager (manager.blockHash chain[i])).toInt = i
  findBlock_range : ∀ hash, Chain.findBlock manager hash = -1 ∨
    (Chain.findBlock manager hash).toInt < (Chain.countBlocks manager).toNat
  /-- A loop from `begin()` to `end()` visits each block once, in order. -/
  loop : Cpp.Chain.loop manager (fun _ => true) h = (.returns (chain.map manager.readBlock), h)
  find_active : ∀ i (hi : i < chain.length),
    Cpp.Chain.find manager (manager.blockHash chain[i]) ≠ Cpp.Chain.end_ manager ∧
    (Cpp.Chain.find manager (manager.blockHash chain[i])).deref
        (fun _ => Cpp.Chain.subscript manager fun _ => true) h
      = (.returns (manager.readBlock chain[i]), h)
  find_other : ∀ hash, (∀ bi ∈ chain, manager.blockHash bi ≠ hash) →
    Cpp.Chain.find manager hash = Cpp.Chain.end_ manager

section

variable {manager : ChainstateManager core} {chain : List manager.CBlockIndex}

/-! ## `BtcK_Chain_CountBlocks` -/

/-- The count is the height of the tip, modulo `2^64` where there is none. -/
theorem countBlocks_eq (ha : IsActive manager chain) :
    ((Chain.countBlocks manager).toNat : Int)
      = ((chain.length : Int) - 1) % 18446744073709551616 := by
  rw [Chain.countBlocks, toNat_size, ha.height]

theorem countBlocks_ne (ha : IsActive manager chain) :
    (Chain.countBlocks manager).toNat ≠ chain.length := by
  have hcount := countBlocks_eq ha
  have hshort := ha.short
  omega

theorem countBlocks_of_pos (ha : IsActive manager chain) (hpos : 0 < chain.length) :
    (Chain.countBlocks manager).toNat + 1 = chain.length := by
  have hcount := countBlocks_eq ha
  have hshort := ha.short
  omega

/-! ## `BtcK_Chain_FindBlock` -/

theorem findBlock_of_mem (ha : IsActive manager chain) {i : Nat} (hi : i < chain.length) :
    (Chain.findBlock manager (manager.blockHash chain[i])).toInt = i := by
  have hmem : chain[i] ∈ chain := List.getElem_mem hi
  rw [Chain.findBlock, ha.lookup _ hmem]
  show ((if manager.contains chain[i] then manager.nHeight chain[i] else -1).toInt64).toInt = i
  rw [if_pos ((ha.contains _).mpr hmem), Int32.toInt_toInt64, ha.nHeight i hi]

/-- A hash that is unknown, or that belongs to a block off the chain, is not found. -/
theorem findBlock_of_not_mem (ha : IsActive manager chain) {hash : Bytes}
    (hash_ne : ∀ bi ∈ chain, manager.blockHash bi ≠ hash) : Chain.findBlock manager hash = -1 := by
  rw [Chain.findBlock]
  cases hl : manager.lookupBlockIndex hash with
  | none => rfl
  | some bi =>
    have hout : ¬ manager.contains bi = true := fun hc =>
      hash_ne bi ((ha.contains bi).mp hc) (ha.lookup_hash hash bi hl)
    show (if manager.contains bi then manager.nHeight bi else -1).toInt64 = -1
    rw [if_neg hout]
    rfl

/-! ## `BtcK_Chain_GetBlock` -/

theorem activeChain_of_lt (ha : ByHeight manager chain) {idx : UInt64}
    (hi : idx.toNat < chain.length) :
    manager.activeChain idx.toUInt32.toInt32 = some chain[idx.toNat] := by
  have hshort := ha.short
  have hlow := low_of_lt (show idx.toNat < 2147483648 by omega)
  rw [ha.active, hlow, if_pos (by omega), Int.toNat_natCast, List.getElem?_eq_getElem hi]

theorem subscript_of_lt (ha : IsActive manager chain) (h : Memory) {idx : UInt64}
    (hi : idx.toNat < chain.length) : Cpp.Chain.subscript manager (fun _ => true) idx h
      = (.returns (manager.readBlock chain[idx.toNat]), h) := by
  obtain ⟨block, hread⟩ := ha.readable _ (List.getElem_mem hi)
  have hbody : Chain.getBlockBody manager (fun _ => true) idx = .returns (some block) := by
    rw [Chain.getBlockBody, activeChain_of_lt ha.byHeight hi]
    simp only [hread]
    exact Api.create_eq_returns.mpr ⟨rfl, rfl⟩
  rw [hread]
  unfold Cpp.Chain.subscript Chain.getBlock
  rw [hbody]
  exact invoke_wrapFn_returns _ h (some block)

/-- The call returns null, and `*err` is set. -/
def Fails (manager : ChainstateManager core) (alloc : Nat → Bool) (idx : UInt64) (h : Memory) :
    Prop :=
  ∃ p h', ∀ {ε : Type}, (Chain.getBlock manager alloc idx true : Prog Memory ε _) h
    = (.returns (none, some p), h')

/-- The call returns the block, and there is no error. -/
def Finds (manager : ChainstateManager core) (alloc : Nat → Bool) (idx : UInt64) (h : Memory)
    (block : core.CBlock) : Prop :=
  ∀ {ε : Type}, (Chain.getBlock manager alloc idx true : Prog Memory ε _) h
    = (.returns (some block, none), h)

/-- There is no handle for the block: it cannot be read, or there is no memory. -/
def Unavailable (manager : ChainstateManager core) (alloc : Nat → Bool)
    (bi : manager.CBlockIndex) : Prop :=
  manager.readBlock bi = none ∨ alloc 0 = false

/-- The index is answered: by its block on the chain, or by an error. -/
structure Answers (manager : ChainstateManager core) (chain : List manager.CBlockIndex)
    (alloc : Nat → Bool) (idx : UInt64) (h : Memory) : Prop where
  found : ∀ (hi : idx.toNat < chain.length) block, manager.readBlock chain[idx.toNat] = some block →
    alloc 0 = true → Finds manager alloc idx h block
  unavailable : ∀ hi : idx.toNat < chain.length, Unavailable manager alloc chain[idx.toNat] →
    Fails manager alloc idx h
  beyond : chain.length ≤ idx.toNat → Fails manager alloc idx h

theorem finds_of_active {alloc : Nat → Bool} {idx : UInt64} {bi : manager.CBlockIndex}
    {block : core.CBlock} (hbi : manager.activeChain idx.toUInt32.toInt32 = some bi)
    (hread : manager.readBlock bi = some block) (halloc : alloc 0 = true) (h : Memory) :
    Finds manager alloc idx h block := by
  have hbody : Chain.getBlockBody manager alloc idx = .returns (some block) := by
    rw [Chain.getBlockBody, hbi]
    simp only [hread]
    exact Api.create_eq_returns.mpr ⟨halloc, rfl⟩
  intro ε
  rw [Chain.getBlock, hbody]
  rfl

theorem fails_of_active {alloc : Nat → Bool} {idx : UInt64} {bi : manager.CBlockIndex}
    (hbi : manager.activeChain idx.toUInt32.toInt32 = some bi)
    (hun : Unavailable manager alloc bi) (h : Memory) : Fails manager alloc idx h := by
  obtain ⟨e, hbody⟩ : ∃ e, Chain.getBlockBody manager alloc idx = .throws e := by
    rw [Chain.getBlockBody, hbi]
    cases hread : manager.readBlock bi with
    | none => exact ⟨_, by simp only [hread]; rfl⟩
    | some block =>
      have hnone : alloc 0 = false := hun.resolve_left (by simp [hread])
      exact ⟨_, by simp only [hread, hnone]; rfl⟩
  obtain ⟨p, h', hrun, -⟩ := wrapFn_throws (Option core.CBlock) h e
  refine ⟨p, h', ?_⟩
  intro ε
  rw [Chain.getBlock, hbody]
  exact hrun

/-- What cannot be looked up is dereferenced all the same. -/
theorem not_fails_of_inactive {alloc : Nat → Bool} {idx : UInt64}
    (hbi : manager.activeChain idx.toUInt32.toInt32 = none) (h : Memory) :
    ¬ Fails manager alloc idx h := by
  rintro ⟨p, h', hrun⟩
  have hbody : Chain.getBlockBody manager alloc idx = .faults .nullDeref := by
    rw [Chain.getBlockBody, hbi]
  have hfault : (Chain.getBlock manager alloc idx true : Prog Memory Empty _) h
      = (.faults .nullDeref, h) := by
    rw [Chain.getBlock, hbody]
    rfl
  have hboth := hfault.symm.trans hrun
  simp at hboth

/-- **`GetBlock` answers an index if and only if** it is on the chain, or what is left of it as an
`int` is the height of an active block that is unavailable. -/
theorem getBlock_answers_iff (ha : ByHeight manager chain) (alloc : Nat → Bool) (idx : UInt64)
    (h : Memory) : Answers manager chain alloc idx h ↔
      idx.toNat < chain.length ∨
      ∃ bi, manager.activeChain idx.toUInt32.toInt32 = some bi ∧ Unavailable manager alloc bi := by
  constructor
  · intro hanswers
    rcases Nat.lt_or_ge idx.toNat chain.length with hi | hge
    · exact .inl hi
    · right
      have hfails := hanswers.beyond hge
      cases hbi : manager.activeChain idx.toUInt32.toInt32 with
      | none => exact absurd hfails (not_fails_of_inactive hbi h)
      | some bi =>
        refine ⟨bi, rfl, ?_⟩
        by_contra hav
        obtain ⟨hread, halloc⟩ := not_or.mp hav
        obtain ⟨block, hread⟩ := Option.ne_none_iff_exists'.mp hread
        -- then the block at the wrong height is returned
        obtain ⟨p, h', hrun⟩ := hfails
        have hfound : Finds manager alloc idx h block :=
          finds_of_active hbi hread (by simpa using halloc) h
        have hboth := (@hfound Empty).symm.trans hrun
        simp at hboth
  · rintro (hi | ⟨bi, hbi, hun⟩)
    · have hbi := activeChain_of_lt ha hi
      refine ⟨fun _ block hread halloc => finds_of_active hbi hread halloc h,
        fun _ hun => fails_of_active hbi hun h, fun hge => ?_⟩
      omega
    · refine ⟨?_, fun _ _ => fails_of_active hbi hun h, fun _ => fails_of_active hbi hun h⟩
      intro hi block hread halloc
      -- the block that is unavailable would be the one at the index
      obtain rfl : chain[idx.toNat] = bi := Option.some.inj ((activeChain_of_lt ha hi).symm.trans hbi)
      rcases hun with hnone | hnone
      · rw [hread] at hnone
        simp at hnone
      · rw [halloc] at hnone
        simp at hnone

/-! ## `btck::Chain` -/

theorem loop_of_pos (ha : IsActive manager chain) (h : Memory) (hpos : 0 < chain.length) :
    Cpp.Chain.loop manager (fun _ => true) h
      = (.returns (chain.dropLast.map manager.readBlock), h) := by
  -- the loop runs over the `size` blocks below the tip, and each of them can be read
  have hcount := countBlocks_of_pos ha hpos
  have hrun := traverse_eq (fun _ : Unit => Cpp.Chain.subscript manager fun _ => true) ()
    (fun j => chain[j]?.bind manager.readBlock) h (Cpp.Chain.size manager) (chain.length - 1) 0
    (by show 0 + (chain.length - 1) = (Chain.countBlocks manager).toNat; omega)
    (by
      intro j _ hj
      have hlt : j.toNat < chain.length := by
        have hj' : j.toNat < (Chain.countBlocks manager).toNat := hj
        omega
      rw [List.getElem?_eq_getElem hlt]
      exact subscript_of_lt ha h hlt)
  refine hrun.trans ?_
  congr 2
  apply List.ext_getElem
  · simp
  · intro j h1 h2
    have hj : j < chain.length := by simp at h1; omega
    simp [List.getElem?_eq_getElem hj]

theorem find_of_not_mem (ha : IsActive manager chain) {hash : Bytes}
    (hash_ne : ∀ bi ∈ chain, manager.blockHash bi ≠ hash) :
    Cpp.Chain.find manager hash = Cpp.Chain.end_ manager := by
  rw [Cpp.Chain.find, findBlock_of_not_mem ha hash_ne]
  rfl

/-- What `find` gives for a block of the chain: the position of its height. -/
theorem find_of_mem (ha : IsActive manager chain) {i : Nat} (hi : i < chain.length) :
    ∃ idx : UInt64, idx.toNat = i ∧
      Cpp.Chain.find manager (manager.blockHash chain[i]) = ⟨some (), idx⟩ := by
  have hfound := findBlock_of_mem ha hi
  have hne : Chain.findBlock manager (manager.blockHash chain[i]) ≠ -1 := by
    intro hc
    rw [hc] at hfound
    simp at hfound
  refine ⟨(Chain.findBlock manager (manager.blockHash chain[i])).toUInt64, ?_, ?_⟩
  · have hcast := toNat_toUInt64 (Chain.findBlock manager (manager.blockHash chain[i]))
    have hshort := ha.short
    omega
  · rw [Cpp.Chain.find, if_neg hne]
    simp [RangeIterator.add, Cpp.Chain.begin_]

theorem deref_find (ha : IsActive manager chain) (h : Memory) {i : Nat} (hi : i < chain.length) :
    (Cpp.Chain.find manager (manager.blockHash chain[i])).deref
        (fun _ => Cpp.Chain.subscript manager fun _ => true) h
      = (.returns (manager.readBlock chain[i]), h) := by
  obtain ⟨idx, rfl, hfind⟩ := find_of_mem ha hi
  rw [hfind]
  exact subscript_of_lt ha h hi

theorem find_eq_end_iff (ha : IsActive manager chain) {i : Nat} (hi : i < chain.length) :
    Cpp.Chain.find manager (manager.blockHash chain[i]) = Cpp.Chain.end_ manager ↔
      i + 1 = chain.length := by
  obtain ⟨idx, hidx, hfind⟩ := find_of_mem ha hi
  have hcount := countBlocks_of_pos ha (Nat.lt_of_le_of_lt (Nat.zero_le i) hi)
  rw [hfind, Cpp.Chain.end_, RangeIterator.mk.injEq, Cpp.Chain.size, ← UInt64.toNat_inj]
  constructor
  · rintro ⟨-, heq⟩
    omega
  · intro heq
    exact ⟨rfl, by omega⟩

end

/--
**On a chain that is not empty, every count, lookup and loop of the wrapper stops below the
tip.** The tip is found at its height, and that position is `end()`.
-/
theorem indexed_below_tip {manager : ChainstateManager core} {chain : List manager.CBlockIndex}
    (ha : IsActive manager chain) (h : Memory) (hpos : 0 < chain.length) :
    (Chain.countBlocks manager).toNat + 1 = chain.length ∧
    (∀ i (hi : i < chain.length),
      (Chain.findBlock manager (manager.blockHash chain[i])).toInt = i ∧
      (Cpp.Chain.find manager (manager.blockHash chain[i])).deref
          (fun _ => Cpp.Chain.subscript manager fun _ => true) h
        = (.returns (manager.readBlock chain[i]), h) ∧
      (Cpp.Chain.find manager (manager.blockHash chain[i]) = Cpp.Chain.end_ manager ↔
        i + 1 = chain.length)) ∧
    (∀ hash, (∀ bi ∈ chain, manager.blockHash bi ≠ hash) →
      Chain.findBlock manager hash = -1 ∧ Cpp.Chain.find manager hash = Cpp.Chain.end_ manager) ∧
    Cpp.Chain.loop manager (fun _ => true) h
      = (.returns (chain.dropLast.map manager.readBlock), h) :=
  ⟨countBlocks_of_pos ha hpos,
    fun _ hi => ⟨findBlock_of_mem ha hi, deref_find ha h hi, find_eq_end_iff ha hi⟩,
    fun _ hne => ⟨findBlock_of_not_mem ha hne, find_of_not_mem ha hne⟩, loop_of_pos ha h hpos⟩

/-- **No chain is indexed as a client expects**: the count is wrong for all of them. -/
theorem not_indexed {manager : ChainstateManager core} {chain : List manager.CBlockIndex}
    (ha : IsActive manager chain) (h : Memory) : ¬ Indexed manager chain h :=
  fun hindexed => countBlocks_ne ha hindexed.count

/-! ## The chain of one block -/

/-- A chain state that holds the one block of `minimalCore` and nothing else. -/
def soleBlock : ChainstateManager minimalCore where
  CBlockIndex := Unit
  nHeight _ := 0
  blockHash _ := minimalCore.getHash ()
  height := 0
  activeChain i := if i = 0 then some () else none
  contains _ := true
  lookupBlockIndex hash := if hash = minimalCore.getHash () then some () else none
  readBlock _ := some ()

theorem soleBlock_active : IsActive soleBlock [()] where
  short := Nat.lt_of_lt_of_le Nat.one_lt_two (by decide)
  height := rfl
  active := by
    intro i
    show (if i = 0 then some () else none) = if 0 ≤ i.toInt then [()][i.toInt.toNat]? else none
    by_cases hi : i = 0
    · subst hi
      rfl
    · have hne : i.toInt ≠ 0 := fun hc => hi (Int32.toInt_inj.mp hc)
      rw [if_neg hi]
      split
      · have hlen : [()].length ≤ i.toInt.toNat := by
          show 1 ≤ i.toInt.toNat
          omega
        rw [List.getElem?_eq_none hlen]
      · rfl
  contains := fun _ => ⟨fun _ => List.mem_singleton.mpr rfl, fun _ => rfl⟩
  nHeight := by
    intro i hi
    have hi : i < 1 := hi
    obtain rfl : i = 0 := by omega
    rfl
  distinct := fun _ _ _ => rfl
  lookup := by
    intro bi _
    show (if minimalCore.getHash () = minimalCore.getHash () then some () else none) = some bi
    rw [if_pos rfl]
    rfl
  lookup_hash := by
    intro hash bi hl
    by_contra hne
    rw [show soleBlock.lookupBlockIndex hash = none from if_neg (fun hc => hne hc.symm)] at hl
    simp at hl
  readable := fun _ _ => ⟨(), rfl⟩

/-- The index 0 of the chain of one block is answered. -/
theorem getBlock_answers_soleBlock : Answers soleBlock [()] (fun _ => true) 0 (Heap.empty []) :=
  (getBlock_answers_iff soleBlock_active.byHeight (fun _ => true) 0 (Heap.empty [])).mpr
    (.inl (by decide))

/--
**On the chain of one block**, the index 1 is looked up in vain and dereferenced, and the index
`2^32` gives the block at height 0.
-/
theorem getBlock_beyond :
    ((Chain.getBlock soleBlock (fun _ => true) 1 true : Prog Memory Empty _) (Heap.empty [])).1
      = .faults .nullDeref ∧
    ((Chain.getBlock soleBlock (fun _ => true) 4294967296 true : Prog Memory Empty _)
      (Heap.empty [])).1 = .returns (some (), none) ∧
    ¬ Answers soleBlock [()] (fun _ => true) 1 (Heap.empty []) ∧
    ¬ Answers soleBlock [()] (fun _ => true) 4294967296 (Heap.empty []) := by
  refine ⟨rfl, rfl, ?_, ?_⟩
  · intro hanswers
    obtain ⟨p, h', hrun⟩ := hanswers.beyond (by decide)
    have hboth := congrArg Prod.fst (@hrun Empty)
    simp [Chain.getBlock, Chain.getBlockBody, soleBlock, wrapFn] at hboth
  · intro hanswers
    obtain ⟨p, h', hrun⟩ := hanswers.beyond (by decide)
    have hboth : Outcome.returns (some (), none) = Outcome.returns (none, some p) :=
      congrArg Prod.fst (@hrun Empty)
    simp at hboth

/-- `not_indexed` for the chain of one block. -/
theorem not_indexed_soleBlock : ¬ Indexed soleBlock [()] (Heap.empty []) :=
  not_indexed soleBlock_active (Heap.empty [])

/-- **The chain of one block counts none**, and its block is found at `end()`. -/
theorem soleBlock_counts_none : IsActive soleBlock [()] ∧ Chain.countBlocks soleBlock = 0 ∧
    Cpp.Chain.find soleBlock (minimalCore.getHash ()) = Cpp.Chain.end_ soleBlock ∧
    ¬ Indexed soleBlock [()] (Heap.empty []) := by
  refine ⟨soleBlock_active, rfl, rfl, ?_⟩
  intro hindexed
  exact (hindexed.find_active 0 (by decide)).1 rfl

end Btck
