import Btck.Infra.Outcome
import Btck.Infra.Words

/-!
# Ranges and their iterators (`include/btck/btck.hpp`, `btck::detail::range`)

An iterator is a pointer to a range and an index of type `size_t`; the offsets are of type
`ptrdiff_t`. Ranges are told apart by an address of type `ρ`.

* `RangeIterator` — the iterator with its operators
* `Range` — what a range inherits
* `traverse` — a loop from one iterator to another, with `traverse_eq`
-/

namespace Btck.Cpp

open Infra

/-- `range_iterator` -/
structure RangeIterator (ρ : Type) where
  range_ : Option ρ
  idx_ : UInt64
  deriving DecidableEq, Repr

namespace RangeIterator

variable {ρ σ ε α : Type}

/-- `operator*`, with the subscript of the range. -/
def deref (subscript : ρ → UInt64 → Prog σ ε α) (self : RangeIterator ρ) : Prog σ ε α :=
  match self.range_ with
  | some range => subscript range self.idx_
  | none => Prog.fault .nullDeref

/-- `operator++` -/
def inc (self : RangeIterator ρ) : RangeIterator ρ := { self with idx_ := self.idx_ + 1 }

/-- `operator--` -/
def dec (self : RangeIterator ρ) : RangeIterator ρ := { self with idx_ := self.idx_ - 1 }

/-- `operator+=`; the offset is converted to `size_t`. `operator+` does the same on a copy. -/
def add (self : RangeIterator ρ) (n : Int64) : RangeIterator ρ :=
  { self with idx_ := self.idx_ + n.toUInt64 }

/-- `operator-=`, and `operator-` with an offset. -/
def sub (self : RangeIterator ρ) (n : Int64) : RangeIterator ρ :=
  { self with idx_ := self.idx_ - n.toUInt64 }

/-- `operator[]`. It takes a `size_t`, which is converted back for `*this + n`. -/
def subscript (subscript : ρ → UInt64 → Prog σ ε α) (self : RangeIterator ρ) (n : UInt64) :
    Prog σ ε α :=
  (self.add n.toInt64).deref subscript

variable [DecidableEq ρ]

/-- `operator==` -/
def eq (left right : RangeIterator ρ) : Outcome ε Bool :=
  if left.range_ = right.range_ then .returns (left.idx_ = right.idx_) else .faults .assertion

/-- `operator-` between iterators: the difference of the indices is converted to `ptrdiff_t`. -/
def diff (left right : RangeIterator ρ) : Outcome ε Int64 :=
  if left.range_ = right.range_ then .returns (left.idx_ - right.idx_).toInt64
  else .faults .assertion

/-- `operator<=>` -/
def cmp (left right : RangeIterator ρ) : Outcome ε Ordering :=
  if left.range_ = right.range_ then .returns (compare left.idx_ right.idx_)
  else .faults .assertion

theorem eq_of_range {left right : RangeIterator ρ} (h : left.range_ = right.range_) :
    (left.eq right : Outcome ε Bool) = .returns (left.idx_ = right.idx_) := by
  rw [eq, if_pos h]

theorem idx_ne_of_eq_false {left right : RangeIterator ρ}
    (h : (left.eq right : Outcome ε Bool) = .returns false) : left.idx_ ≠ right.idx_ := by
  unfold eq at h
  split at h
  · simpa using h
  · simp at h

end RangeIterator

/-! ## Ranges -/

variable {ρ σ ε α : Type}

namespace Range

/-- `range::begin` -/
def begin_ (self : ρ) : RangeIterator ρ := { range_ := some self, idx_ := 0 }

/-- `range::end` -/
def end_ (size : ρ → UInt64) (self : ρ) : RangeIterator ρ :=
  { range_ := some self, idx_ := size self }

/-- `range::front` -/
def front (subscript : ρ → UInt64 → Prog σ ε α) (self : ρ) : Prog σ ε α := subscript self 0

/-- `range::back` -/
def back (subscript : ρ → UInt64 → Prog σ ε α) (size : ρ → UInt64) (self : ρ) : Prog σ ε α :=
  subscript self (size self - 1)

end Range

/-! ## Loops -/

variable [DecidableEq ρ]

/-- One step brings the index nearer to the end, also around the end of the number range. -/
theorem sub_inc_lt {i n : UInt64} (h : i ≠ n) : (n - (i + 1)).toNat < (n - i).toNat := by
  have hne : i.toNat ≠ n.toNat := fun hc => h (UInt64.toNat_inj.mp hc)
  have hi := i.toNat_lt
  have hn := n.toNat_lt
  simp only [UInt64.toNat_sub, UInt64.toNat_add, UInt64.reduceToNat]
  omega

/-- `for (auto it = first; it != last; ++it)`, with what it reads from the range. -/
def traverse (subscript : ρ → UInt64 → Prog σ ε α) (last it : RangeIterator ρ) :
    Prog σ ε (List α) :=
  match _h : (it.eq last : Outcome ε Bool) with
  | .returns true => pure []
  | .returns false => do
    let x ← it.deref subscript
    let xs ← traverse subscript last it.inc
    pure (x :: xs)
  | .throws e => Prog.throw e
  | .faults u => Prog.fault u
termination_by (last.idx_ - it.idx_).toNat
decreasing_by exact sub_inc_lt (RangeIterator.idx_ne_of_eq_false _h)

section

variable {subscript : ρ → UInt64 → Prog σ ε α} {last it : RangeIterator ρ}

theorem traverse_of_eq (hr : it.range_ = last.range_) (hi : it.idx_ = last.idx_) :
    traverse subscript last it = pure [] := by
  rw [traverse]
  split
  · rfl
  all_goals
    rename_i heq
    rw [RangeIterator.eq_of_range hr] at heq
    simp [hi] at heq

theorem traverse_of_ne (hr : it.range_ = last.range_) (hi : it.idx_ ≠ last.idx_) :
    traverse subscript last it = (do
      let x ← it.deref subscript
      let xs ← traverse subscript last it.inc
      pure (x :: xs)) := by
  rw [traverse]
  split
  case h_2 => rfl
  all_goals
    rename_i heq
    rw [RangeIterator.eq_of_range hr] at heq
    simp [hi] at heq

end

/-- A loop whose elements can all be read visits each of them once, in order. -/
theorem traverse_eq (subscript : ρ → UInt64 → Prog σ ε α) (range : ρ) (f : Nat → α) (s : σ)
    (n : UInt64) : ∀ (k : Nat) (i : UInt64), i.toNat + k = n.toNat →
    (∀ j : UInt64, i.toNat ≤ j.toNat → j.toNat < n.toNat →
      subscript range j s = (.returns (f j.toNat), s)) →
    traverse subscript ⟨some range, n⟩ ⟨some range, i⟩ s
      = (.returns ((List.range' i.toNat k).map f), s)
  | 0, i, hk, _ => by
    have hin : i = n := UInt64.toNat_inj.mp (by omega)
    have hstop : traverse subscript ⟨some range, n⟩ ⟨some range, i⟩ = pure [] :=
      traverse_of_eq rfl hin
    rw [hstop]
    rfl
  | k + 1, i, hk, hread => by
    have hin : i ≠ n := by
      rintro rfl
      omega
    have hn := n.toNat_lt
    have hi : (i + 1).toNat = i.toNat + 1 := by
      simp only [UInt64.toNat_add, UInt64.reduceToNat]
      omega
    have hstep : traverse subscript ⟨some range, n⟩ ⟨some range, i⟩ = _ := traverse_of_ne rfl hin
    have hx : RangeIterator.deref subscript ⟨some range, i⟩ s = (.returns (f i.toNat), s) :=
      hread i (Nat.le_refl _) (by omega)
    have hxs := traverse_eq subscript range f s n k (i + 1) (by omega) fun j h1 h2 =>
      hread j (by omega) h2
    rw [hstep, Prog.bind_of_returns hx]
    refine (Prog.bind_of_returns hxs _).trans ?_
    rw [hi, List.range'_succ]
    rfl

end Btck.Cpp
