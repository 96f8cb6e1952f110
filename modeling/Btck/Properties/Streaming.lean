import Btck.Cpp.ToBytes

/-!
# Byte streaming loses nothing and hides no failure

A refusal of the callback travels as an exception through the serializer, as `-1` through the
C interface and as the stored exception to the C++ caller.

* `Streams` — what a `ToBytes` function does with any callback, and what `to_bytes_` makes of it
* `bytes_streamed` — the three `ToBytes` functions stream
-/

namespace Btck

open Infra

/-- A `ToBytes` function with its object, waiting for the callback. -/
abbrev WriteFn := ∀ σ : Type, Callback Bytes σ → Prog σ Exception Int32

/-- The exception of the first of `n` insertions that throws. -/
def Cpp.firstFailure (fails : Nat → Option Exception) (n : Nat) : Option Exception :=
  (List.range n).findSome? fails

/-- The chunks reach the callback, and the C++ caller gets all of them or the exception. -/
structure Streams (writefn : WriteFn) (chunks : List Bytes) : Prop where
  /-- Every callback sees a delivery, and the answer is zero when it was complete. -/
  delivers : ∀ (σ : Type) (write : Callback Bytes σ) (s : σ), ∃ answer s' log,
    writefn _ (traced write) (s, []) = (.returns answer, (s', log)) ∧
    writefn _ write s = (.returns answer, s') ∧
    Delivery chunks log (answer = 0)
  /-- `to_bytes_` returns the whole encoding, or throws what the first failing `insert` threw. -/
  to_bytes : ∀ fails : Nat → Option Exception, Cpp.toBytes_ fails (writefn _) =
    match Cpp.firstFailure fails chunks.length with
    | none => .returns chunks.flatten
    | some e => .throws e

/-! ## The lambda of `to_bytes_` -/

section

variable {fails : Nat → Option Exception}

theorem write_of_none {closure : Cpp.Closure} (h : fails closure.calls = none) (buf : Bytes) :
    Cpp.write fails buf closure
      = (0, { closure with bytes := closure.bytes ++ buf, calls := closure.calls + 1 }) := by
  simp [Cpp.write, h]

theorem write_of_some {closure : Cpp.Closure} {e : Exception} (h : fails closure.calls = some e)
    (buf : Bytes) :
    Cpp.write fails buf closure
      = (-1, { closure with exception := some e, calls := closure.calls + 1 }) := by
  simp [Cpp.write, h]

/-- When no insertion throws, all chunks are in the vector. -/
theorem feed_write_of_none (e : Exception) : ∀ (chunks : List Bytes) (bytes : Bytes) (k : Nat),
    (List.range' k chunks.length).findSome? fails = none →
    forEach (offer (Cpp.write fails) e) chunks ⟨bytes, none, k⟩
      = (.returns (), ⟨bytes ++ chunks.flatten, none, k + chunks.length⟩)
  | [], bytes, k, _ => by simp [forEach]
  | c :: cs, bytes, k, h => by
    rw [List.length_cons, List.range'_succ, List.findSome?_cons] at h
    cases hk : fails k with
    | some e' => rw [hk] at h; simp at h
    | none =>
      rw [hk] at h
      have hw : Cpp.write fails c ⟨bytes, none, k⟩ = (0, ⟨bytes ++ c, none, k + 1⟩) :=
        write_of_none hk c
      rw [forEach, Prog.bind_of_returns (offer_of_taken hw),
        feed_write_of_none e cs (bytes ++ c) (k + 1) h]
      simp only [List.flatten_cons, List.append_assoc, List.length_cons]
      rw [show k + 1 + cs.length = k + (cs.length + 1) by omega]

/-- When an insertion throws, its exception is in the closure. -/
theorem feed_write_of_some (e : Exception) {e' : Exception} :
    ∀ (chunks : List Bytes) (bytes : Bytes) (k : Nat),
    (List.range' k chunks.length).findSome? fails = some e' →
    ∃ closure, forEach (offer (Cpp.write fails) e) chunks ⟨bytes, none, k⟩ = (.throws e, closure) ∧
      closure.exception = some e'
  | [], bytes, k, h => by simp at h
  | c :: cs, bytes, k, h => by
    rw [List.length_cons, List.range'_succ, List.findSome?_cons] at h
    cases hk : fails k with
    | some e'' =>
      rw [hk] at h
      -- this chunk is refused, and no further one is offered
      obtain rfl : e'' = e' := by simpa using h
      have hw : Cpp.write fails c ⟨bytes, none, k⟩ = (-1, ⟨bytes, some e'', k + 1⟩) :=
        write_of_some hk c
      refine ⟨⟨bytes, some e'', k + 1⟩, ?_, rfl⟩
      rw [forEach, Prog.bind_of_throws (offer_of_refused hw (by decide))]
    | none =>
      rw [hk] at h
      have hw : Cpp.write fails c ⟨bytes, none, k⟩ = (0, ⟨bytes ++ c, none, k + 1⟩) :=
        write_of_none hk c
      obtain ⟨closure, hrun, hexc⟩ := feed_write_of_some e cs (bytes ++ c) (k + 1) h
      refine ⟨closure, ?_, hexc⟩
      rw [forEach, Prog.bind_of_returns (offer_of_taken hw), hrun]

end

/-! ## `util::WriterStream` -/

/-- The body that the transaction's and the block's `ToBytes` share. -/
def streamed (chunks : List Bytes) : WriteFn := fun _ write =>
  Prog.catchAll
    (do
      forEach (WriterStream.write write) chunks
      pure 0)
    fun _ => pure (-1)

theorem streamed_of_returns {σ : Type} {write : Callback Bytes σ} {chunks : List Bytes} {s s' : σ}
    (h : forEach (WriterStream.write write) chunks s = (.returns (), s')) :
    streamed chunks _ write s = (.returns 0, s') :=
  Prog.catchAll_of_returns (Prog.bind_of_returns h _) _

theorem streamed_of_throws {σ : Type} {write : Callback Bytes σ} {chunks : List Bytes} {s s' : σ}
    {e : Exception} (h : forEach (WriterStream.write write) chunks s = (.throws e, s')) :
    streamed chunks _ write s = (.returns (-1), s') :=
  Prog.catchAll_of_throws (Prog.bind_of_throws h _) _

theorem streamed_streams (chunks : List Bytes) : Streams (streamed chunks) chunks where
  delivers := by
    intro σ write s
    obtain ⟨out, s', log, ht, hp, hout, hd⟩ := feed_delivery write ioError chunks s []
    obtain rfl | rfl := hout
    · exact ⟨0, s', log, streamed_of_returns ht, streamed_of_returns hp, hd.congr (by simp)⟩
    · exact ⟨-1, s', log, streamed_of_throws ht, streamed_of_throws hp, hd.congr (by simp)⟩
  to_bytes := by
    intro fails
    rw [Cpp.firstFailure, List.range_eq_range']
    cases hf : (List.range' 0 chunks.length).findSome? fails with
    | none =>
      have hrun : forEach (WriterStream.write (Cpp.write fails)) chunks ⟨[], none, 0⟩ = _ :=
        feed_write_of_none ioError chunks [] 0 hf
      exact Cpp.toBytes_of_zero (streamed_of_returns hrun)
    | some e =>
      obtain ⟨closure, hrun, hexc⟩ := feed_write_of_some ioError chunks [] 0 hf
      have hthrow : forEach (WriterStream.write (Cpp.write fails)) chunks ⟨[], none, 0⟩ = _ := hrun
      exact Cpp.toBytes_of_ne_zero (streamed_of_throws hthrow) (by decide) hexc

/-! ## The script's own path -/

theorem scriptPubkey_toBytes {σ : Type} {write : Callback Bytes σ} {script : CScript} {s s' : σ}
    {r : Int32} (hw : write script s = (r, s')) :
    (ScriptPubkey.toBytes (some script) write : Prog σ Exception _) s = (.returns r, s') := by
  show ((.returns (write script s).1, (write script s).2) : Outcome Exception Int32 × σ) = _
  rw [hw]

theorem scriptPubkey_streams (script : CScript) :
    Streams (fun _ => ScriptPubkey.toBytes (some script)) [script] where
  delivers := by
    intro σ write s
    rcases hw : write script s with ⟨r, s'⟩
    refine ⟨r, s', [(script, r)], scriptPubkey_toBytes (traced_of hw []),
      scriptPubkey_toBytes hw, ?_⟩
    by_cases hr : r = 0
    · subst hr
      exact (Delivery.nil rfl).taken script
    · exact .refused script [] hr hr
  to_bytes := by
    intro fails
    have hfirst : Cpp.firstFailure fails [script].length = fails 0 := by
      simp [Cpp.firstFailure, List.range_succ]
    rw [hfirst]
    cases hf : fails 0 with
    | none =>
      refine (Cpp.toBytes_of_zero (scriptPubkey_toBytes (write_of_none hf script))).trans ?_
      simp
    | some e =>
      exact Cpp.toBytes_of_ne_zero (scriptPubkey_toBytes (write_of_some hf script)) (by decide) rfl

/--
**The three `ToBytes` functions stream.** Their callback sees a prefix of the chunks, nothing
follows a refusal, the answer is zero only when every chunk was taken, and `to_bytes_` returns
all the bytes or throws what its vector threw.
-/
theorem bytes_streamed (core : BitcoinCore) :
    (∀ script, Streams (fun _ => ScriptPubkey.toBytes (some script)) [script]) ∧
    (∀ tx, Streams (fun _ => Transaction.toBytes core (some tx)) (core.tx.chunks tx)) ∧
    ∀ block, Streams (fun _ => Block.toBytes core (some block)) (core.block.chunks block) :=
  ⟨scriptPubkey_streams, fun tx => streamed_streams (core.tx.chunks tx),
    fun block => streamed_streams (core.block.chunks block)⟩

end Btck
