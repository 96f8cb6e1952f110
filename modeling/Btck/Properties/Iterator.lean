import Btck.Cpp.Range

/-!
# Iterators and exact positions

The index of an iterator is a `size_t`, the offsets that it is moved by are of type `ptrdiff_t`, and
the difference of two indices is converted back. An iterator that was moved away from `begin()` is
at an exact position, which is any integer. Its index is that position modulo `2^64`, also when it
went out of the range on the way, and between 0 and the size nothing of the position is lost.

* `Move`, `position` — a sequence of moves, and where it leads
* `index_of_moves` — the index is the position, modulo `2^64`
* `Pair`, `pair_of_position` — two iterators inside the range relate as their positions do
* `traverse_range` — a loop reads the elements in order
* `random_access` — all of it, for ranges with less than `2^63` elements
-/

namespace Btck.Cpp

open Infra

variable {ρ σ ε α : Type}

/-! ## Moves -/

/-- What moves an iterator. -/
inductive Move where
  /-- `++i` and `i++` -/
  | inc
  /-- `--i` and `i--` -/
  | dec
  /-- `i += k` -/
  | addAssign (k : Int64)
  /-- `i -= k` -/
  | subAssign (k : Int64)
  /-- `i + k` -/
  | plus (k : Int64)
  /-- `k + i` -/
  | plusLeft (k : Int64)
  /-- `i - k` -/
  | minus (k : Int64)
  deriving DecidableEq, Repr

namespace Move

/-- The iterator behind a move. -/
def apply : Move → RangeIterator ρ → RangeIterator ρ
  | inc, it => it.inc
  | dec, it => it.dec
  | addAssign k, it | plus k, it | plusLeft k, it => it.add k
  | subAssign k, it | minus k, it => it.sub k

/-- How far a move leads. -/
def offset : Move → Int
  | inc => 1
  | dec => -1
  | addAssign k | plus k | plusLeft k => k.toInt
  | subAssign k | minus k => -k.toInt

end Move

/-- The iterator behind a sequence of moves. -/
def moved (it : RangeIterator ρ) : List Move → RangeIterator ρ
  | [] => it
  | m :: ms => moved (m.apply it) ms

/-- The exact sum of the moves. -/
def position : List Move → Int
  | [] => 0
  | m :: ms => m.offset + position ms

/-- The iterator at an exact position of a range. -/
def iteratorAt (range : ρ) (p : Int) : RangeIterator ρ :=
  { range_ := some range, idx_ := UInt64.ofInt p }

theorem begin_eq (range : ρ) : Range.begin_ range = iteratorAt range 0 := rfl

@[simp] theorem add_iteratorAt (range : ρ) (p : Int) (k : Int64) :
    (iteratorAt range p).add k = iteratorAt range (p + k.toInt) := by
  simp only [RangeIterator.add, iteratorAt, toUInt64_eq_ofInt, UInt64.ofInt_add]

@[simp] theorem sub_iteratorAt (range : ρ) (p : Int) (k : Int64) :
    (iteratorAt range p).sub k = iteratorAt range (p - k.toInt) := by
  simp only [RangeIterator.sub, iteratorAt, toUInt64_eq_ofInt, ofInt_sub]

/-- One move adds its offset, whatever the position is. -/
theorem apply_iteratorAt (m : Move) (range : ρ) (p : Int) :
    m.apply (iteratorAt range p) = iteratorAt range (p + m.offset) := by
  cases m with
  | inc => simp only [Move.apply, RangeIterator.inc, iteratorAt, Move.offset, UInt64.ofInt_add,
      UInt64.ofInt_one]
  | dec => simp only [Move.apply, RangeIterator.dec, iteratorAt, Move.offset, UInt64.ofInt_add,
      UInt64.ofInt_neg_one, UInt64.sub_eq_add_neg]
  | addAssign k => exact add_iteratorAt range p k
  | plus k => exact add_iteratorAt range p k
  | plusLeft k => exact add_iteratorAt range p k
  | subAssign k => exact sub_iteratorAt range p k
  | minus k => exact sub_iteratorAt range p k

theorem moved_iteratorAt (range : ρ) (moves : List Move) (p : Int) :
    moved (iteratorAt range p) moves = iteratorAt range (p + position moves) := by
  induction moves generalizing p with
  | nil => rw [moved, position, Int.add_zero]
  | cons m ms ih => rw [moved, apply_iteratorAt, ih, position, Int.add_assoc]

/-- **An iterator is where its moves add up to.** -/
theorem moved_begin (range : ρ) (moves : List Move) :
    moved (Range.begin_ range) moves = iteratorAt range (position moves) := by
  rw [begin_eq, moved_iteratorAt, Int.zero_add]

/-- The index is the position modulo `2^64`. -/
theorem index_of_moves (range : ρ) (moves : List Move) :
    ((moved (Range.begin_ range) moves).idx_.toNat : Int)
      = position moves % 18446744073709551616 := by
  rw [moved_begin]
  exact toNat_ofInt _

/-! ## Two iterators of a range -/

/-- A position that an iterator of a range with `n` elements may have. -/
def Inside (n : UInt64) (p : Int) : Prop := 0 ≤ p ∧ p ≤ n.toNat

theorem Inside.toNat {n : UInt64} {p : Int} (h : Inside n p) :
    ((UInt64.ofInt p).toNat : Int) = p := by
  have hn := n.toNat_lt
  have hword := toNat_ofInt p
  obtain ⟨h0, hle⟩ := h
  omega

variable [DecidableEq ρ]

/-- Two iterators of a range relate as the exact positions `p` and `q`. -/
structure Pair (subscript : ρ → UInt64 → Prog σ ε α) (n : UInt64) (range : ρ)
    (a b : RangeIterator ρ) (p q : Int) : Prop where
  diff : ∃ d, (a.diff b : Outcome ε Int64) = .returns d ∧ d.toInt = p - q ∧
    ((b.add d).eq a : Outcome ε Bool) = .returns true
  eq : (a.eq b : Outcome ε Bool) = .returns (decide (p = q))
  cmp : (a.cmp b : Outcome ε Ordering) = .returns (compare p q)
  there_and_back : ∀ k, (((a.add k).sub k).eq a : Outcome ε Bool) = .returns true
  /-- The offset of `operator[]` may be negative, and is a `size_t` on the way. -/
  subscript : ∀ k : Int64, 0 ≤ p + k.toInt → p + k.toInt < n.toNat →
    a.subscript subscript k.toUInt64 = subscript range (UInt64.ofNat (p + k.toInt).toNat)

theorem eq_iteratorAt_self (range : ρ) (p : Int) :
    ((iteratorAt range p).eq (iteratorAt range p) : Outcome ε Bool) = .returns true := by
  rw [RangeIterator.eq_of_range rfl]
  simp

theorem pair_of_position (subscript : ρ → UInt64 → Prog σ ε α) {n : UInt64} (range : ρ)
    (hn : n.toNat < 9223372036854775808) {p q : Int} (hp : Inside n p) (hq : Inside n q) :
    Pair subscript n range (iteratorAt range p) (iteratorAt range q) p q := by
  have hpn := hp.toNat
  have hqn := hq.toNat
  have hrange : (iteratorAt range p).range_ = (iteratorAt range q).range_ := rfl
  have hidx : (UInt64.ofInt p = UInt64.ofInt q) ↔ p = q := by
    rw [← UInt64.toNat_inj]
    omega
  have hd : ((UInt64.ofInt p - UInt64.ofInt q).toInt64).toInt = p - q := by
    obtain ⟨hp0, hple⟩ := hp
    obtain ⟨hq0, hqle⟩ := hq
    rw [← ofInt_sub]
    exact toInt_ofInt_of_fits (by omega) (by omega)
  constructor
  case diff =>
    refine ⟨(UInt64.ofInt p - UInt64.ofInt q).toInt64, if_pos rfl, hd, ?_⟩
    rw [add_iteratorAt, hd, Int.add_comm, Int.sub_add_cancel]
    exact eq_iteratorAt_self range p
  case eq =>
    rw [RangeIterator.eq_of_range hrange]
    simp only [iteratorAt, hidx]
  case cmp =>
    have hlt : (UInt64.ofInt p < UInt64.ofInt q) ↔ p < q := by
      rw [UInt64.lt_iff_toNat_lt]
      omega
    have hcmp : compare (UInt64.ofInt p) (UInt64.ofInt q) = compare p q := by
      show compareOfLessAndEq _ _ = compareOfLessAndEq _ _
      simp only [compareOfLessAndEq, hlt, hidx]
    rw [RangeIterator.cmp, if_pos hrange, ← hcmp]
    rfl
  case there_and_back =>
    intro k
    rw [add_iteratorAt, sub_iteratorAt, Int.add_sub_cancel]
    exact eq_iteratorAt_self range p
  case subscript =>
    intro k h0 hlt
    rw [RangeIterator.subscript, Int64.toInt64_toUInt64, add_iteratorAt]
    show subscript range (UInt64.ofInt (p + k.toInt)) = _
    congr 1
    apply UInt64.toNat_inj.mp
    have hword := toNat_ofInt (p + k.toInt)
    rw [UInt64.toNat_ofNat']
    omega

/-! ## Loops over a range -/

/-- From any index on, a loop reads one element after the other. -/
theorem traverse_from (subscript : ρ → UInt64 → Prog σ ε α) (range : ρ) (n : UInt64) :
    ∀ (k i : Nat), i + k = n.toNat →
    traverse subscript ⟨some range, n⟩ (iteratorAt range i)
      = (List.range' i k).mapM' fun j => subscript range (UInt64.ofNat j)
  | 0, i, hk => by
    have hlt := n.toNat_lt
    have hword := toNat_ofInt i
    have hstop : UInt64.ofInt i = n := UInt64.toNat_inj.mp (by omega)
    exact traverse_of_eq rfl hstop
  | k + 1, i, hk => by
    have hlt := n.toNat_lt
    have hword := toNat_ofInt i
    have hne : (iteratorAt range (i : Int)).idx_ ≠ n := by
      intro hc
      have hc : (UInt64.ofInt i).toNat = n.toNat := congrArg UInt64.toNat hc
      omega
    have hidx : UInt64.ofInt i = UInt64.ofNat i := by
      apply UInt64.toNat_inj.mp
      rw [UInt64.toNat_ofNat']
      omega
    have hinc : (iteratorAt range (i : Int)).inc = iteratorAt range ((i + 1 : Nat) : Int) :=
      apply_iteratorAt .inc range i
    have hrange : (iteratorAt range (i : Int)).range_ = some range := rfl
    rw [traverse_of_ne hrange hne, hinc, traverse_from subscript range n k (i + 1) (by omega),
      List.range'_succ, List.mapM'_cons]
    show (do let x ← subscript range (UInt64.ofInt i); _) = _
    rw [hidx]

/-- **A loop over a range reads its elements, each once and in order.** -/
theorem traverse_range (subscript : ρ → UInt64 → Prog σ ε α) (size : ρ → UInt64) (range : ρ) :
    traverse subscript (Range.end_ size range) (Range.begin_ range)
      = (List.range (size range).toNat).mapM' fun j => subscript range (UInt64.ofNat j) := by
  rw [begin_eq, List.range_eq_range']
  exact traverse_from subscript range (size range) (size range).toNat 0 (by omega)

/-! ## The range -/

/-- The iterators of a range are random-access iterators. -/
structure RandomAccess (subscript : ρ → UInt64 → Prog σ ε α) (size : ρ → UInt64) (range : ρ) :
    Prop where
  index : ∀ moves : List Move, ((moved (Range.begin_ range) moves).idx_.toNat : Int)
    = position moves % 18446744073709551616
  pair : ∀ ms ms' : List Move, Inside (size range) (position ms) →
    Inside (size range) (position ms') →
    Pair subscript (size range) range (moved (Range.begin_ range) ms)
      (moved (Range.begin_ range) ms') (position ms) (position ms')
  loop : traverse subscript (Range.end_ size range) (Range.begin_ range)
    = (List.range (size range).toNat).mapM' fun j => subscript range (UInt64.ofNat j)
  front : Range.front subscript range = subscript range (UInt64.ofNat 0)
  back : 0 < (size range).toNat →
    Range.back subscript size range = subscript range (UInt64.ofNat ((size range).toNat - 1))

/-- **`range_iterator` is a random-access iterator**, for ranges that a `ptrdiff_t` can span. -/
theorem random_access (subscript : ρ → UInt64 → Prog σ ε α) (size : ρ → UInt64) (range : ρ)
    (hn : (size range).toNat < 9223372036854775808) : RandomAccess subscript size range where
  index := index_of_moves range
  pair := by
    intro ms ms' hp hq
    rw [moved_begin, moved_begin]
    exact pair_of_position subscript range hn hp hq
  loop := traverse_range subscript size range
  front := rfl
  back := by
    intro hpos
    show subscript range (size range - 1) = _
    congr 1
    apply UInt64.toNat_inj.mp
    have hlt := (size range).toNat_lt
    simp only [UInt64.toNat_sub, UInt64.toNat_ofNat', UInt64.reduceToNat]
    omega

/-- `random_access` for the three characters of a text. -/
theorem random_access_text :
    RandomAccess (σ := Unit) (ε := Empty) (fun (text : List Char) idx => Prog.lift (
      match text[idx.toNat]? with
      | some c => .returns c
      | none => .faults .undefined)) (fun text => UInt64.ofNat text.length) ['a', 'b', 'c'] :=
  random_access _ _ _ (by decide)

end Btck.Cpp
