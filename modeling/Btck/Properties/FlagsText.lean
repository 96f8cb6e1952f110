import Btck.Minimal
import Btck.ToString
import Btck.Properties.Verify

/-!
# The text of a flag word

`print` moves the buffer pointer and shrinks the remaining size after each name. The loop keeps
one invariant: what is in the buffer, and the context, are what a single `snprintf` of the text
so far would have left.

* `printAll_run` — the loop, from any point of the text
* `toString_run` — the whole function is one `snprintf`
* `toString_truncates` — what that means for every byte, for known and for unknown flags
-/

namespace Btck.VerificationFlags

open Infra

/-- The text between two names. -/
def separator : Bytes := utf8 " | "

/-- The names of the set flags, in the order of the table. -/
def names (flags : UInt32) (entries : List Entry) : List Bytes :=
  (entries.filter fun entry => flags &&& entry.flag ≠ 0).map fun entry => utf8 entry.name

/-- The text of a flag word without unknown flags. -/
def text (flags : UInt32) : Bytes :=
  if flags = ALL then utf8 "ALL"
  else if flags = NONE then utf8 "NONE"
  else separator.intercalate (names flags flagTable)

/-! ## One call of `print` -/

/-- The block after `t` was printed, piece by piece. Before the first piece it is untouched. -/
def Written (b : Buffer) (buf : Option Nat) (len : Nat) (t : Bytes) (b' : Buffer) : Prop :=
  t = [] ∧ b' = b ∨ b' = stored b buf (printed len t)

section

variable {b b' : Buffer} {buf : Option Nat} {len : Nat} {t : Bytes}

theorem Written.room (h : Room b buf len) (hw : Written b buf len t b') :
    Room b' (buf.map (· + t.length)) (len - t.length) := by
  obtain ⟨rfl, rfl⟩ | rfl := hw
  · simpa using h
  · exact room_stored h t

theorem Written.append (h : Room b buf len) (hw : Written b buf len t b') (u : Bytes) :
    stored b' (buf.map (· + t.length)) (printed (len - t.length) u)
      = stored b buf (printed len (t ++ u)) := by
  obtain ⟨rfl, rfl⟩ | rfl := hw
  · simp
  · exact stored_printed_append h t u

theorem Written.eq_stored (hw : Written b buf len t b') (ht : t ≠ []) :
    b' = stored b buf (printed len t) :=
  hw.resolve_left fun hc => ht hc.1

end

/-- The context after `t` was printed through `buf`. -/
def after (buf : Option Nat) (len : Nat) (t : Bytes) : PrintContext where
  buffer := buf.map (· + t.length)
  bufsz := len - t.length
  num := Int32.ofNat t.length

theorem print_run {ε : Type} {b b' : Buffer} {buf : Option Nat} {len : Nat} {t : Bytes}
    (h : Room b buf len) (hw : Written b buf len t b') (u : Bytes) (hu : u.length < 2147483648) :
    (print (after buf len t) u : Prog Buffer ε _) b'
      = (.returns (Int32.ofNat (t ++ u).length, after buf len (t ++ u)),
          stored b buf (printed len (t ++ u))) := by
  have hprint := snprintf_of_room (ε := ε) u (hw.room h)
  rw [hw.append h u] at hprint
  rw [print, show (after buf len t).buffer = buf.map (· + t.length) from rfl,
    show (after buf len t).bufsz = len - t.length from rfl, Prog.bind_of_returns hprint]
  have hnum : (after buf len t).num + Int32.ofNat u.length = Int32.ofNat (t ++ u).length := by
    rw [List.length_append, Int32.ofNat_add]
    rfl
  have hsize : (if u.length < len - t.length then len - t.length - u.length else 0)
      = len - (t ++ u).length := by
    rw [List.length_append]
    split <;> omega
  simp only [if_neg (ofNat_not_neg hu), asSize_ofNat hu, hnum, hsize, Option.map_map]
  rw [Prog.pure_run]
  simp [after, Function.comp_def, Nat.add_assoc]

/-! ## The loop -/

/-- What the loop still has to print. -/
def remaining (flags : UInt32) (first : Bool) (entries : List Entry) : Bytes :=
  if first then separator.intercalate (names flags entries)
  else (names flags entries).flatMap (separator ++ ·)

theorem names_cons_of_set {flags : UInt32} {entry : Entry} {entries : List Entry}
    (h : flags &&& entry.flag ≠ 0) :
    names flags (entry :: entries) = utf8 entry.name :: names flags entries := by
  simp [names, h]

theorem names_cons_of_unset {flags : UInt32} {entry : Entry} {entries : List Entry}
    (h : ¬ flags &&& entry.flag ≠ 0) : names flags (entry :: entries) = names flags entries := by
  simp only [Decidable.not_not] at h
  simp [names, h]

theorem intercalate_cons (x : Bytes) (xs : List Bytes) :
    separator.intercalate (x :: xs) = x ++ xs.flatMap (separator ++ ·) := by
  induction xs generalizing x with
  | nil => simp
  | cons y ys ih =>
    rw [List.intercalate_cons_cons, ih y, List.flatMap_cons]
    simp only [List.append_assoc]

theorem remaining_cons_of_set {flags : UInt32} {entry : Entry} {entries : List Entry}
    (first : Bool) (h : flags &&& entry.flag ≠ 0) : remaining flags first (entry :: entries) =
      (utf8 (if first then "" else " | ") ++ utf8 entry.name) ++
        remaining flags false entries := by
  cases first with
  | true =>
    simp only [remaining, if_true, names_cons_of_set h, intercalate_cons]
    simp [utf8]
  | false =>
    simp only [remaining, names_cons_of_set h, List.flatMap_cons]
    simp [separator]

/-- **The loop prints what remains**, behind what was printed before it. -/
theorem printAll_run {ε : Type} {b : Buffer} {buf : Option Nat} {len : Nat} (h : Room b buf len)
    (flags : UInt32) : ∀ (entries : List Entry) (first : Bool) (t : Bytes) (b' : Buffer),
    Written b buf len t b' →
    (∀ entry ∈ entries, (utf8 entry.name).length < 1000) →
    (t ++ remaining flags first entries).length < 2147483648 →
    ∃ b'', (printAll flags entries first (after buf len t) : Prog Buffer ε _) b'
        = (.returns (Int32.ofNat (t ++ remaining flags first entries).length), b'') ∧
      Written b buf len (t ++ remaining flags first entries) b''
  | [], first, t, b', hw, _, _ => by
    have hnone : remaining flags first [] = [] := by
      cases first <;> simp [remaining, names]
    rw [hnone, List.append_nil]
    exact ⟨b', rfl, hw⟩
  | entry :: entries, first, t, b', hw, hnames, hlen => by
    have htail : ∀ e ∈ entries, (utf8 e.name).length < 1000 := fun e he =>
      hnames e (List.mem_cons_of_mem _ he)
    rw [printAll]
    by_cases hset : flags &&& entry.flag ≠ 0
    · -- a separator and the name; the cases below 0 and beyond INT_MAX do not happen
      have hname := hnames entry List.mem_cons_self
      have hpiece :
          (utf8 (if first then "" else " | ") ++ utf8 entry.name).length < 2147483648 := by
        have hsep : (utf8 (if first then "" else " | ")).length ≤ 3 := by
          cases first <;> decide
        rw [List.length_append]
        omega
      rw [remaining_cons_of_set first hset, ← List.append_assoc] at hlen ⊢
      rw [if_pos hset, Prog.bind_of_returns (print_run h hw _ hpiece)]
      have hsofar : (t ++ (utf8 (if first then "" else " | ") ++ utf8 entry.name)).length
          < 2147483648 := by
        rw [List.length_append] at hlen
        omega
      simp only [if_neg (ofNat_not_neg hsofar)]
      exact printAll_run h flags entries false _ _ (.inr rfl) htail hlen
    · -- the entry is passed over, and `first` stays as it is
      have hsame : remaining flags first (entry :: entries) = remaining flags first entries := by
        simp only [remaining, names_cons_of_unset hset]
      rw [if_neg hset]
      rw [hsame] at hlen ⊢
      exact printAll_run h flags entries first t b' hw htail hlen

/-! ## The whole function -/

/-- The text is no longer than that of all flags, each with a separator in front. -/
theorem length_remaining_le (flags : UInt32) (entries : List Entry) :
    (remaining flags true entries).length ≤
      (entries.flatMap fun entry => separator ++ utf8 entry.name).length := by
  have hflat : ((names flags entries).flatMap (separator ++ ·)).length ≤
      (entries.flatMap fun entry => separator ++ utf8 entry.name).length := by
    induction entries with
    | nil => simp [names]
    | cons entry entries ih =>
      by_cases hset : flags &&& entry.flag ≠ 0
      · rw [names_cons_of_set hset]
        simp only [List.flatMap_cons, List.length_append] at ih ⊢
        omega
      · rw [names_cons_of_unset hset, List.flatMap_cons, List.length_append]
        omega
  refine Nat.le_trans ?_ hflat
  show (separator.intercalate (names flags entries)).length ≤ _
  cases names flags entries with
  | nil => simp
  | cons x xs =>
    rw [intercalate_cons, List.flatMap_cons, List.length_append, List.length_append,
      List.length_append]
    omega

theorem length_text_lt (flags : UInt32) : (text flags).length < 1000 := by
  have hremaining := length_remaining_le flags flagTable
  have hall : (flagTable.flatMap fun entry => separator ++ utf8 entry.name).length < 1000 := by
    decide +kernel
  have hjoin : remaining flags true flagTable = separator.intercalate (names flags flagTable) := rfl
  rw [hjoin] at hremaining
  unfold text
  split
  · decide
  split
  · decide
  omega

/-- A known flag that is set has a name to print. -/
theorem text_ne_nil {flags : UInt32} (hknown : Known flags) : text flags ≠ [] := by
  unfold text
  split
  · decide
  split
  · decide
  rename_i hnone
  obtain ⟨k, hk⟩ : ∃ k, Has flags k := by
    by_contra hc
    exact hnone (eq_zero_iff.mpr (not_exists.mp hc))
  have htable : ∀ k ∈ positions, ∃ entry ∈ flagTable, Has entry.flag k := by decide
  obtain ⟨entry, hmem, hflag⟩ := htable k (hknown k hk)
  have hset : flags &&& entry.flag ≠ 0 := fun hc => eq_zero_iff.mp hc k (has_and.mpr ⟨hk, hflag⟩)
  have hname : utf8 entry.name ∈ names flags flagTable :=
    List.mem_map.mpr ⟨entry, List.mem_filter.mpr ⟨hmem, by simpa using hset⟩, rfl⟩
  have hnonempty : ∀ x ∈ names flags flagTable, x ≠ [] := by
    intro x hx
    obtain ⟨e, he, rfl⟩ := List.mem_map.mp hx
    have hall : ∀ e ∈ flagTable, utf8 e.name ≠ [] := by decide
    exact hall e (List.mem_filter.mp he).1
  cases hn : names flags flagTable with
  | nil => rw [hn] at hname; simp at hname
  | cons x xs =>
    have hx := hnonempty x (by rw [hn]; exact List.mem_cons_self)
    rw [intercalate_cons]
    simp [hx]

/-- **For a word of known flags, `ToString` is one `snprintf` of its text.** -/
theorem toString_run {ε : Type} {b : Buffer} {buf : Option Nat} {len : Nat} (h : Room b buf len)
    {flags : UInt32} (hknown : Known flags) :
    (toString (some flags) buf len : Prog Buffer ε _) b
      = (.returns (Int32.ofNat (text flags).length), stored b buf (printed len (text flags))) := by
  have hlen := length_text_lt flags
  unfold toString
  show (if flags = ALL then snprintf buf len (utf8 "ALL") else _ : Prog Buffer ε _) b = _
  by_cases hall : flags = ALL
  · rw [if_pos hall, snprintf_of_room _ h, text, if_pos hall]
  · rw [if_neg hall]
    by_cases hnone : flags = NONE
    · rw [if_pos hnone, snprintf_of_room _ h, text, if_neg hall, if_pos hnone]
    · rw [if_neg hnone, if_neg (not_not.mpr (known_iff.mpr hknown))]
      have htext : text flags = remaining flags true flagTable := by
        rw [text, if_neg hall, if_neg hnone]
        rfl
      obtain ⟨b', hrun, hw⟩ := printAll_run (ε := ε) h flags flagTable true [] b (.inl ⟨rfl, rfl⟩)
        (by decide) (by rw [List.nil_append, ← htext]; omega)
      rw [List.nil_append, ← htext] at hrun hw
      rw [← hw.eq_stored (text_ne_nil hknown), ← hrun]
      congr 1
      simp [after]

/-- **An unknown flag is refused**, and nothing is written. -/
theorem toString_of_unknown {ε : Type} {flags : UInt32} (hunknown : flags &&& ~~~ALL ≠ 0)
    (buf : Option Nat) (len : Nat) (b : Buffer) :
    (toString (some flags) buf len : Prog Buffer ε _) b = (.returns (-1), b) := by
  have hall : flags ≠ ALL := by
    rintro rfl
    exact hunknown (by decide)
  have hnone : flags ≠ NONE := by
    rintro rfl
    exact hunknown (by decide)
  show (if flags = ALL then snprintf buf len (utf8 "ALL") else _ : Prog Buffer ε _) b = _
  rw [if_neg hall, if_neg hnone, if_pos hunknown]
  rfl

/--
**`BtcK_VerificationFlags_ToString` behaves as one `snprintf`**, at every length of the buffer: it
returns the length of the whole text, and the buffer holds what fits of it, ended by a NUL.
-/
theorem toString_truncates {ε : Type} (flags : UInt32) {b : Buffer} {buf : Option Nat} {len : Nat}
    (h : Room b buf len) :
    (flags &&& ~~~ALL ≠ 0 →
      (toString (some flags) buf len : Prog Buffer ε _) b = (.returns (-1), b)) ∧
    (flags &&& ~~~ALL = 0 → ∃ num b',
      (toString (some flags) buf len : Prog Buffer ε _) b = (.returns num, b') ∧
      num.toInt = (text flags).length ∧ Truncated b b' buf len (text flags)) := by
  refine ⟨fun hunknown => toString_of_unknown hunknown buf len b, fun hknown => ?_⟩
  have hlen := length_text_lt flags
  exact ⟨_, _, toString_run h (known_iff.mp hknown), Int32.toInt_ofNat_of_lt (by omega),
    truncated_stored h (text flags)⟩

/-- `P2SH | TAPROOT` in a buffer that ends inside the separator. -/
theorem toString_truncates_separator :
    ∃ num b', (toString (some (P2SH ||| TAPROOT)) (some 0) 6 : Prog Buffer Empty _)
        (List.replicate 8 65) = (.returns num, b') ∧
      num.toInt = (text (P2SH ||| TAPROOT)).length ∧
      Truncated (List.replicate 8 65) b' (some 0) 6 (text (P2SH ||| TAPROOT)) :=
  (toString_truncates (P2SH ||| TAPROOT) (.inr ⟨0, rfl, by decide⟩)).2 (by decide)

end Btck.VerificationFlags
