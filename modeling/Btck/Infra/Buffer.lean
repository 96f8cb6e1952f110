import Btck.Infra.Outcome

/-!
# Character buffers

A buffer is the block of memory that it lies in, and a `char*` into it is an offset. To write
behind the end of the block, or through a null pointer, is a fault.

* `snprintf` — writes at most `n` characters and always ends them with a NUL
* `copyTo` — `std::string::copy`, which writes no NUL
* `cString` — reads up to the first NUL
* `stored_printed_append` — two formatted writes, the second behind the first, are one
* `truncated_stored` — a formatted write, byte by byte
-/

namespace Infra

/-- The block of memory that a buffer lies in. -/
abbrev Buffer := List UInt8

variable {ε : Type}

/-- `n` bytes of memory that were just allocated, with what was left in them. -/
def fresh (memory : Nat → UInt8) (n : Nat) : Buffer := (List.range n).map memory

@[simp] theorem length_fresh (memory : Nat → UInt8) (n : Nat) : (fresh memory n).length = n := by
  simp [fresh]

theorem fresh_succ (memory : Nat → UInt8) (n : Nat) :
    fresh memory (n + 1) = fresh memory n ++ [memory n] := by
  simp [fresh, List.range_succ]

namespace Buffer

/-- The bytes from `off` on are replaced by `w`. -/
def overwrite (b : Buffer) (off : Nat) (w : List UInt8) : Buffer :=
  b.take off ++ w ++ b.drop (off + w.length)

theorem getElem?_overwrite {b : Buffer} {off : Nat} {w : List UInt8}
    (h : off + w.length ≤ b.length) (i : Nat) :
    (overwrite b off w)[i]? =
      if off ≤ i ∧ i < off + w.length then w[i - off]? else b[i]? := by
  have htake : (b.take off).length = off := by simp; omega
  rw [overwrite, List.getElem?_append]
  simp only [List.length_append, htake]
  by_cases hw : i < off + w.length
  · rw [if_pos hw, List.getElem?_append, htake]
    by_cases hoff : i < off
    · rw [if_pos hoff, if_neg (by omega), List.getElem?_take_of_lt hoff]
    · rw [if_neg hoff, if_pos ⟨by omega, hw⟩]
  · rw [if_neg hw, if_neg (fun hc => hw hc.2), List.getElem?_drop]
    congr 1
    omega

theorem length_overwrite {b : Buffer} {off : Nat} {w : List UInt8}
    (h : off + w.length ≤ b.length) : (overwrite b off w).length = b.length := by
  simp only [overwrite, List.length_append, List.length_take, List.length_drop]
  omega

@[simp] theorem overwrite_nil (b : Buffer) (off : Nat) : overwrite b off [] = b := by
  simp [overwrite]

/-- A write that covers the whole block. -/
theorem overwrite_all {b w : List UInt8} (h : w.length = b.length) : overwrite b 0 w = w := by
  simp [overwrite, h]

end Buffer

open Buffer

/-- Write `w` through a pointer. Where there is nothing to write, the pointer is not looked at. -/
def store (ptr : Option Nat) (w : List UInt8) : Prog Buffer ε Unit := fun b =>
  if w.isEmpty then (.returns (), b)
  else
    match ptr with
    | none => (.faults .nullDeref, b)
    | some off =>
      if off + w.length ≤ b.length then (.returns (), overwrite b off w)
      else (.faults .undefined, b)

/-- What `snprintf` writes: as much of the text as there is room for, and a NUL. -/
def printed (n : Nat) (s : List UInt8) : List UInt8 :=
  if n = 0 then [] else s.take (n - 1) ++ [0]

/-- `snprintf(ptr, n, "%s", s)`. It returns the length of the whole text as an `int`. -/
def snprintf (ptr : Option Nat) (n : Nat) (s : List UInt8) : Prog Buffer ε Int32 := do
  store ptr (printed n s)
  pure (Int32.ofNat s.length)

/-- `s.copy(ptr, n)` -/
def copyTo (ptr : Option Nat) (n : Nat) (s : List UInt8) : Prog Buffer ε Unit :=
  store ptr (s.take n)

/-- The string that a `char*` to the start of the block denotes. -/
def cString (b : Buffer) : Outcome ε (List UInt8) :=
  if 0 ∈ b then .returns (b.takeWhile (· ≠ 0)) else .faults .undefined

/-! ## Room to write -/

/-- The pointer has room for `n` characters; a null pointer has none. -/
def Room (b : Buffer) (ptr : Option Nat) (n : Nat) : Prop :=
  n = 0 ∨ ∃ off, ptr = some off ∧ off + n ≤ b.length

/-- What is in the block after a write through the pointer. -/
def stored (b : Buffer) (ptr : Option Nat) (w : List UInt8) : Buffer :=
  match ptr with
  | none => b
  | some off => overwrite b off w

theorem length_printed_le (n : Nat) (s : List UInt8) : (printed n s).length ≤ n := by
  unfold printed
  split
  · simp
  · simp only [List.length_append, List.length_take, List.length_singleton]
    omega

theorem store_of_room {b : Buffer} {ptr : Option Nat} {n : Nat} {w : List UInt8}
    (h : Room b ptr n) (hw : w.length ≤ n) :
    (store ptr w : Prog Buffer ε _) b = (.returns (), stored b ptr w) := by
  by_cases hempty : w = []
  · subst hempty
    cases ptr with
    | none => rfl
    | some off => simp [store, stored]
  · have hpos := List.length_pos_iff.mpr hempty
    obtain hn | ⟨off, rfl, hroom⟩ := h
    · omega
    · have hfits : off + w.length ≤ b.length := by omega
      simp [store, stored, hempty, hfits]

theorem snprintf_of_room {b : Buffer} {ptr : Option Nat} {n : Nat} (s : List UInt8)
    (h : Room b ptr n) : (snprintf ptr n s : Prog Buffer ε _) b
      = (.returns (Int32.ofNat s.length), stored b ptr (printed n s)) := by
  rw [snprintf, Prog.bind_of_returns (store_of_room h (length_printed_le n s)), Prog.pure_run]

theorem copyTo_of_room {b : Buffer} {ptr : Option Nat} {n : Nat} (s : List UInt8)
    (h : Room b ptr n) :
    (copyTo ptr n s : Prog Buffer ε _) b = (.returns (), stored b ptr (s.take n)) :=
  store_of_room h (by rw [List.length_take]; omega)

/-! ## One write after the other -/

/--
The second text is printed behind the first, over its NUL. Once the room is used up, nothing is
written any more.
-/
theorem overwrite_printed_append {b : Buffer} {off n : Nat} (h : off + n ≤ b.length)
    (s t : List UInt8) :
    overwrite (overwrite b off (printed n s)) (off + s.length) (printed (n - s.length) t)
      = overwrite b off (printed n (s ++ t)) := by
  by_cases hn : n ≤ s.length
  · -- the first text took all the room, so both sides end with it
    have hdone : n - s.length = 0 := by omega
    have htake : printed n (s ++ t) = printed n s := by
      unfold printed
      rw [List.take_append_of_le_length (by omega)]
    rw [hdone, htake]
    exact overwrite_nil _ _
  · have hlen := length_printed_le n s
    have hfirst : printed n s = s ++ [0] := by
      rw [printed, if_neg (by omega), List.take_of_length_le (by omega)]
    have hsecond : printed (n - s.length) t = t.take (n - s.length - 1) ++ [0] := by
      rw [printed, if_neg (by omega)]
    have hboth : printed n (s ++ t) = s ++ (t.take (n - s.length - 1) ++ [0]) := by
      rw [printed, if_neg (by omega), List.take_append, List.take_of_length_le (by omega),
        List.append_assoc]
      congr 3
      omega
    have hroom := length_printed_le (n - s.length) t
    rw [hboth, ← hsecond]
    rw [hfirst] at hlen ⊢
    simp only [List.length_append, List.length_singleton] at hlen
    -- position by position: in front of the second text, in it, and behind it
    apply List.ext_getElem?
    intro i
    rw [getElem?_overwrite (by rw [length_overwrite (by simp; omega)]; omega),
      getElem?_overwrite (by simp; omega), getElem?_overwrite (by simp; omega)]
    simp only [List.length_append, List.length_singleton]
    by_cases hi : i < off + s.length
    · by_cases hoff : off ≤ i
      · rw [if_neg (by omega), if_pos ⟨hoff, by omega⟩, if_pos ⟨hoff, by omega⟩,
          List.getElem?_append_left (by omega), List.getElem?_append_left (by omega)]
      · rw [if_neg (by omega), if_neg (by omega), if_neg (by omega)]
    · by_cases hend : i < off + s.length + (printed (n - s.length) t).length
      · rw [if_pos ⟨by omega, hend⟩, if_pos ⟨by omega, by omega⟩,
          List.getElem?_append_right (by omega)]
        congr 1
        omega
      · -- the NUL of the first text is not there: the second one covers it
        have hpos : 0 < (printed (n - s.length) t).length := by
          rw [hsecond]
          simp
        rw [if_neg (by omega), if_neg (by omega), if_neg (by omega)]

theorem stored_printed_append {b : Buffer} {ptr : Option Nat} {n : Nat} (h : Room b ptr n)
    (s t : List UInt8) :
    stored (stored b ptr (printed n s)) (ptr.map (· + s.length)) (printed (n - s.length) t)
      = stored b ptr (printed n (s ++ t)) := by
  obtain rfl | ⟨off, rfl, hroom⟩ := h
  · cases ptr <;> simp [stored, printed]
  · exact overwrite_printed_append hroom s t

/-! ## Byte by byte -/

/--
What a formatted write of `s` into `n` characters leaves: as much of the text as fits in front of
the NUL, the NUL, and every other byte as it was.
-/
structure Truncated (b b' : Buffer) (ptr : Option Nat) (n : Nat) (s : List UInt8) : Prop where
  length : b'.length = b.length
  text : ∀ off, ptr = some off → ∀ i, i < min s.length (n - 1) → b'[off + i]? = s[i]?
  nul : ∀ off, ptr = some off → 0 < n → b'[off + min s.length (n - 1)]? = some 0
  others : ∀ j, (∀ off, ptr = some off → 0 < n → j < off ∨ off + min s.length (n - 1) < j) →
    b'[j]? = b[j]?

theorem truncated_stored {b : Buffer} {ptr : Option Nat} {n : Nat} (h : Room b ptr n)
    (s : List UInt8) : Truncated b (stored b ptr (printed n s)) ptr n s := by
  by_cases hn : n = 0
  · -- no room, not even for the NUL
    subst hn
    have hsame : stored b ptr (printed 0 s) = b := by cases ptr <;> simp [stored, printed]
    rw [hsame]
    refine ⟨rfl, ?_, ?_, fun _ _ => rfl⟩
    · intro off _ i hi
      omega
    · intro off _ hpos
      omega
  · obtain ⟨off, rfl, hroom⟩ := h.resolve_left hn
    have hprinted : printed n s = s.take (n - 1) ++ [0] := by rw [printed, if_neg hn]
    have htake : (s.take (n - 1)).length = min s.length (n - 1) := by
      rw [List.length_take, Nat.min_comm]
    have hlen : (printed n s).length = min s.length (n - 1) + 1 := by
      rw [hprinted, List.length_append, htake, List.length_singleton]
    have hfits : off + (printed n s).length ≤ b.length := by omega
    constructor
    case length => exact length_overwrite hfits
    case text =>
      intro off' hoff i hi
      obtain rfl : off = off' := Option.some.inj hoff
      rw [stored, getElem?_overwrite hfits, if_pos (by omega), Nat.add_sub_cancel_left, hprinted,
        List.getElem?_append_left (by omega), List.getElem?_take_of_lt (by omega)]
    case nul =>
      intro off' hoff _
      obtain rfl : off = off' := Option.some.inj hoff
      rw [stored, getElem?_overwrite hfits, if_pos (by omega), Nat.add_sub_cancel_left, hprinted,
        List.getElem?_append_right (by omega), htake, Nat.sub_self]
      rfl
    case others =>
      intro j hj
      have hout := hj off rfl (Nat.pos_of_ne_zero hn)
      rw [stored, getElem?_overwrite hfits, if_neg (by omega)]

/-- There is still room for the rest. -/
theorem room_stored {b : Buffer} {ptr : Option Nat} {n : Nat} (h : Room b ptr n)
    (s : List UInt8) :
    Room (stored b ptr (printed n s)) (ptr.map (· + s.length)) (n - s.length) := by
  by_cases hn : n ≤ s.length
  · exact .inl (by omega)
  · obtain rfl | ⟨off, rfl, hroom⟩ := h
    · omega
    · have hlen := length_printed_le n s
      refine .inr ⟨off + s.length, rfl, ?_⟩
      show off + s.length + (n - s.length) ≤ (overwrite b off (printed n s)).length
      rw [length_overwrite (by omega)]
      omega

end Infra
