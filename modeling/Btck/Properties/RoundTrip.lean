import Btck.Minimal
import Btck.Properties.ErrorRecord
import Btck.Properties.Streaming

/-!
# What the constructors accept, and what comes out again

`ScriptPubkey_New` keeps its bytes. `Transaction_New` and `Block_New` read an object from the
front of theirs and do not look at what is left. So what `ToBytes` delivers is the part that was
read.

* `accepted_delivered` — the three kinds
* `trailing_byte_accepted` — a byte behind the encoding is not refused
-/

namespace Btck

open Infra

/-- The callback that keeps every byte it is given. -/
def collect : Callback Bytes Bytes := fun chunk bytes => (0, bytes ++ chunk)

/-- `toBytes` delivers `raw` up to `rest`, and so all of `raw` only if there is no rest. -/
def Delivers (toBytes : Prog Bytes Exception Int32) (raw rest : Bytes) : Prop :=
  ∃ bytes, toBytes [] = (.returns 0, bytes) ∧ raw = bytes ++ rest ∧ (bytes = raw ↔ rest = [])

theorem Delivers.of_append {toBytes : Prog Bytes Exception Int32} {bytes raw rest : Bytes}
    (hrun : toBytes [] = (.returns 0, bytes)) (h : raw = bytes ++ rest) :
    Delivers toBytes raw rest :=
  ⟨bytes, hrun, h, by simp [h]⟩

theorem feed_collect (e : Exception) : ∀ (chunks : List Bytes) (bytes : Bytes),
    forEach (offer collect e) chunks bytes = (.returns (), bytes ++ chunks.flatten)
  | [], bytes => by simp [forEach]
  | c :: cs, bytes => by
    have htaken : offer collect e c bytes = (.returns (), bytes ++ c) := offer_of_taken rfl
    rw [forEach, Prog.bind_of_returns htaken, feed_collect e cs]
    simp

theorem streamed_delivers {chunks : List Bytes} {raw rest : Bytes}
    (h : raw = chunks.flatten ++ rest) : Delivers (streamed chunks _ collect) raw rest :=
  .of_append (streamed_of_returns (feed_collect ioError chunks [])) h

/--
**What was accepted is delivered again, up to what was not read.** A script comes out as it went
in. A transaction or block comes out as the bytes that the deserializer took.
-/
theorem accepted_delivered (core : BitcoinCore) (htx : core.tx.Lossless)
    (hblock : core.block.Lossless) (alloc : Nat → Bool) (raw : Bytes) (err : Bool)
    (h h' : Memory) (e : Option ErrorPtr) :
    (∀ script, (ScriptPubkey.new alloc raw err : Prog Memory Exception _) h
        = (.returns (some script, e), h') →
      Delivers (ScriptPubkey.toBytes (some script) collect) raw []) ∧
    (∀ tx, (Transaction.new core alloc raw err : Prog Memory Exception _) h
        = (.returns (some tx, e), h') →
      ∃ rest, core.tx.unserialize raw = .returns (tx, rest) ∧
        Delivers (Transaction.toBytes core (some tx) collect) raw rest) ∧
    ∀ block, (Block.new core alloc raw err : Prog Memory Exception _) h
        = (.returns (some block, e), h') →
      ∃ rest, core.block.unserialize raw = .returns (block, rest) ∧
        Delivers (Block.toBytes core (some block) collect) raw rest := by
  refine ⟨?_, ?_, ?_⟩
  · intro script hrun
    obtain ⟨-, heq⟩ := ScriptPubkey.newBody_eq_returns.mp (wrapFn_eq_some hrun)
    obtain rfl : script = raw := by simpa using heq
    exact .of_append rfl (List.append_nil script).symm
  · intro tx hrun
    obtain ⟨-, x, rest, hread, heq⟩ := Transaction.newBody_eq_returns.mp (wrapFn_eq_some hrun)
    obtain rfl : tx = x := by simpa using heq
    exact ⟨rest, hread, streamed_delivers (htx raw tx rest hread)⟩
  · intro block hrun
    obtain ⟨-, x, rest, hread, heq⟩ := Block.newBody_eq_returns.mp (wrapFn_eq_some hrun)
    obtain rfl : block = x := by simpa using heq
    exact ⟨rest, hread, streamed_delivers (hblock raw block rest hread)⟩

/-- All three, on 82 zero bytes: a script, a transaction with 72 bytes left, a block with one. -/
theorem accepted_delivered_zeros :
    Delivers (ScriptPubkey.toBytes (some (List.replicate 82 0)) collect)
      (List.replicate 82 0) [] ∧
    (∃ rest, minimalCore.tx.unserialize (List.replicate 82 0) = .returns (.empty, rest) ∧
      Delivers (Transaction.toBytes minimalCore (some .empty) collect)
        (List.replicate 82 0) rest) ∧
    ∃ rest, minimalCore.block.unserialize (List.replicate 82 0) = .returns ((), rest) ∧
      Delivers (Block.toBytes minimalCore (some ()) collect) (List.replicate 82 0) rest := by
  obtain ⟨hscript, htx, hblock⟩ := accepted_delivered minimalCore (tableCodec_lossless _ _)
    (tableCodec_lossless _ _) (fun _ => true) (List.replicate 82 0) true (Heap.empty [])
    (Heap.empty []) none
  exact ⟨hscript _ rfl, htx .empty rfl, hblock () rfl⟩

/-- **A byte behind the encoding is not refused**, and it is not delivered again. -/
theorem trailing_byte_accepted :
    (Transaction.new minimalCore (fun _ => true) (List.replicate 11 0) true :
        Prog Memory Exception _) (Heap.empty []) = (.returns (some .empty, none), Heap.empty []) ∧
    ¬ Delivers (Transaction.toBytes minimalCore (some .empty) collect)
      (List.replicate 11 0) [] ∧
    (Block.new minimalCore (fun _ => true) (List.replicate 82 0) true :
        Prog Memory Exception _) (Heap.empty []) = (.returns (some (), none), Heap.empty []) ∧
    ¬ Delivers (Block.toBytes minimalCore (some ()) collect) (List.replicate 82 0) [] := by
  refine ⟨rfl, ?_, rfl, ?_⟩
  · rintro ⟨bytes, hrun, heq, -⟩
    obtain rfl : List.replicate 10 0 = bytes := congrArg Prod.snd hrun
    simp at heq
  · rintro ⟨bytes, hrun, heq, -⟩
    obtain rfl : List.replicate 81 0 = bytes := congrArg Prod.snd hrun
    simp at heq

end Btck
