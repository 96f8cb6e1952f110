import Mathlib.Tactic.Common

/-!
# UTF-8

A `String` of Lean's is a sequence of bytes that is valid UTF-8. Bytes from elsewhere need not be.
There are two ways to read them: the strict one refuses what is not valid, the lossy one puts the
character U+FFFD where nothing can be read.

* `utf8`, `decodeUtf8` — the bytes of a text, and the text of bytes
* `Utf8State`, `lossy` — the decoder that does not fail, byte by byte
* `decodeUtf8_utf8`, `lossy_utf8` — both read back what was written
-/

namespace Infra

/-- The bytes of a text. -/
def utf8 (s : String) : List UInt8 := s.toByteArray.data.toList

/-- The text that the bytes are of, if they are valid. -/
def decodeUtf8 (b : List UInt8) : Option String := String.fromUTF8? ⟨b.toArray⟩

/-- **What is written is read back.** -/
@[simp] theorem decodeUtf8_utf8 (s : String) : decodeUtf8 (utf8 s) = some s := by
  have hbytes : (⟨(utf8 s).toArray⟩ : ByteArray) = s.toByteArray := by
    rw [utf8, Array.toArray_toList]
  rw [decodeUtf8, hbytes]
  exact dif_pos s.isValidUTF8

@[simp] theorem utf8_inj {s t : String} : utf8 s = utf8 t ↔ s = t := by
  refine ⟨fun h => ?_, congrArg utf8⟩
  have hdecode := congrArg decodeUtf8 h
  rw [decodeUtf8_utf8, decodeUtf8_utf8] at hdecode
  exact Option.some.inj hdecode

/-- The bytes of a text are those of its characters. -/
theorem utf8_eq (s : String) : utf8 s = s.toList.flatMap String.utf8EncodeChar := by
  rw [utf8, ← String.utf8Encode_toList, List.utf8Encode, List.toList_data_toByteArray]

/-! ## The lossy decoder -/

/--
Where the decoder stands. Inside of a character there are `more` bytes to come after the next one,
which lies between `lower` and `upper`; `code` is what has been read of its code point.
-/
inductive Utf8State where
  | start
  | inside (more lower upper code : Nat)

namespace Utf8State

/-- The first byte of a character. `none` is a byte, or the part of a character, that is no text. -/
def first (b : Nat) : List (Option Char) × Utf8State :=
  if b < 0x80 then ([some (Char.ofNat b)], start)
  else if b < 0xC2 then ([none], start)
  else if b < 0xE0 then ([], inside 0 0x80 0xBF (b - 0xC0))
  else if b < 0xF0 then
    -- no code point is written with more bytes than it needs, and none is a surrogate
    ([], inside 1 (if b = 0xE0 then 0xA0 else 0x80) (if b = 0xED then 0x9F else 0xBF) (b - 0xE0))
  else if b < 0xF5 then
    ([], inside 2 (if b = 0xF0 then 0x90 else 0x80) (if b = 0xF4 then 0x8F else 0xBF) (b - 0xF0))
  else ([none], start)

/-- A byte that cannot go on with the character is the first of the next one. -/
def next : Utf8State → Nat → List (Option Char) × Utf8State
  | start, b => first b
  | inside more lower upper code, b =>
    if lower ≤ b ∧ b ≤ upper then
      match more with
      | 0 => ([some (Char.ofNat (code * 64 + (b - 0x80)))], start)
      | more + 1 => ([], inside more 0x80 0xBF (code * 64 + (b - 0x80)))
    else (none :: (first b).1, (first b).2)

def scan : Utf8State → List UInt8 → List (Option Char)
  | start, [] => []
  | inside _ _ _ _, [] => [none]
  | s, b :: bs => (s.next b.toNat).1 ++ scan (s.next b.toNat).2 bs

end Utf8State

/-- The text of the bytes, with U+FFFD for each part that is no text. -/
def lossy (b : List UInt8) : String :=
  String.ofList ((Utf8State.start.scan b).map fun c => c.getD (Char.ofNat 0xFFFD))

example : lossy [0x66, 0xE2, 0x82, 0x78] = String.ofList ['f', Char.ofNat 0xFFFD, 'x'] := by
  decide

theorem scan_start (b : UInt8) (bs : List UInt8) : Utf8State.start.scan (b :: bs)
    = (Utf8State.first b.toNat).1 ++ (Utf8State.first b.toNat).2.scan bs := rfl

/-- The last byte of a character. -/
theorem scan_last {lower upper code : Nat} {b : UInt8} (hl : lower ≤ b.toNat) (hu : b.toNat ≤ upper)
    (bs : List UInt8) : (Utf8State.inside 0 lower upper code).scan (b :: bs)
      = some (Char.ofNat (code * 64 + (b.toNat - 0x80))) :: Utf8State.start.scan bs := by
  rw [Utf8State.scan, Utf8State.next, if_pos ⟨hl, hu⟩]
  rfl

/-- A byte inside of a character. -/
theorem scan_more {more lower upper code : Nat} {b : UInt8} (hl : lower ≤ b.toNat)
    (hu : b.toNat ≤ upper) (bs : List UInt8) :
    (Utf8State.inside (more + 1) lower upper code).scan (b :: bs)
      = (Utf8State.inside more 0x80 0xBF (code * 64 + (b.toNat - 0x80))).scan bs := by
  rw [Utf8State.scan, Utf8State.next, if_pos ⟨hl, hu⟩]
  rfl

theorem toNat_byte {n : Nat} (h : n < 256) : (UInt8.ofNat n).toNat = n :=
  UInt8.toNat_ofNat_of_lt' h

/-- A character is read from its bytes. -/
theorem scan_utf8EncodeChar (c : Char) (bs : List UInt8) :
    Utf8State.start.scan (String.utf8EncodeChar c ++ bs) = some c :: Utf8State.start.scan bs := by
  have hc : Char.ofNat c.val.toNat = c := Char.ofNat_toNat c
  have hvalid : c.val.toNat < 0xD800 ∨ 0xDFFF < c.val.toNat ∧ c.val.toNat < 0x110000 := c.valid
  unfold String.utf8EncodeChar
  generalize c.val.toNat = v at hc hvalid ⊢
  dsimp only
  -- the last byte of a character, and one in the middle
  have hlow : (UInt8.ofNat (v % 0x40 + 0x80)).toNat = v % 0x40 + 0x80 := toNat_byte (by omega)
  have hmid : (UInt8.ofNat (v / 64 % 0x40 + 0x80)).toNat = v / 64 % 0x40 + 0x80 :=
    toNat_byte (by omega)
  by_cases h₁ : v ≤ 0x7f
  · rw [if_pos h₁]
    show Utf8State.start.scan (_ :: bs) = _
    rw [scan_start, toNat_byte (by omega), Utf8State.first, if_pos (by omega), hc]
    rfl
  rw [if_neg h₁]
  by_cases h₂ : v ≤ 0x7ff
  · rw [if_pos h₂]
    show Utf8State.start.scan (_ :: _ :: bs) = _
    rw [scan_start, toNat_byte (by omega), Utf8State.first, if_neg (by omega), if_neg (by omega),
      if_pos (by omega)]
    dsimp only
    rw [List.nil_append, scan_last (by omega) (by omega), hlow]
    have hv : (v / 64 % 0x20 + 0xc0 - 0xC0) * 64 + (v % 0x40 + 0x80 - 0x80) = v := by omega
    rw [hv, hc]
  rw [if_neg h₂]
  by_cases h₃ : v ≤ 0xffff
  · rw [if_pos h₃]
    show Utf8State.start.scan (_ :: _ :: _ :: bs) = _
    rw [scan_start, toNat_byte (by omega), Utf8State.first, if_neg (by omega), if_neg (by omega),
      if_neg (by omega), if_pos (by omega)]
    dsimp only
    rw [List.nil_append, scan_more (by split <;> omega) (by split <;> omega),
      scan_last (by omega) (by omega), hmid, hlow]
    have hv : ((v / 4096 % 0x10 + 0xe0 - 0xE0) * 64 + (v / 64 % 0x40 + 0x80 - 0x80)) * 64
        + (v % 0x40 + 0x80 - 0x80) = v := by omega
    rw [hv, hc]
  · rw [if_neg h₃]
    have hhigh : (UInt8.ofNat (v / 4096 % 0x40 + 0x80)).toNat = v / 4096 % 0x40 + 0x80 :=
      toNat_byte (by omega)
    show Utf8State.start.scan (_ :: _ :: _ :: _ :: bs) = _
    rw [scan_start, toNat_byte (by omega), Utf8State.first, if_neg (by omega), if_neg (by omega),
      if_neg (by omega), if_neg (by omega), if_pos (by omega)]
    dsimp only
    rw [List.nil_append, scan_more (by split <;> omega) (by split <;> omega),
      scan_more (by omega) (by omega), scan_last (by omega) (by omega), hhigh, hmid, hlow]
    have hv : (((v / 262144 % 0x08 + 0xf0 - 0xF0) * 64 + (v / 4096 % 0x40 + 0x80 - 0x80)) * 64
        + (v / 64 % 0x40 + 0x80 - 0x80)) * 64 + (v % 0x40 + 0x80 - 0x80) = v := by omega
    rw [hv, hc]

theorem scan_utf8 : ∀ cs : List Char,
    Utf8State.start.scan (cs.flatMap String.utf8EncodeChar) = cs.map some
  | [] => rfl
  | c :: cs => by
    rw [List.flatMap_cons, scan_utf8EncodeChar, scan_utf8 cs]
    rfl

/-- **The lossy decoder loses nothing of a text.** -/
@[simp] theorem lossy_utf8 (s : String) : lossy (utf8 s) = s := by
  rw [lossy, utf8_eq, scan_utf8, List.map_map]
  have hsame : (fun c : Option Char => c.getD (Char.ofNat 0xFFFD)) ∘ some = id := rfl
  rw [hsame, List.map_id, String.ofList_toList]

end Infra
