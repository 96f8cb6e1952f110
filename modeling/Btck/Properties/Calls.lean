import Btck.Minimal
import Btck.Properties.Values

/-!
# The library, for those who do not think of memory

A user of the library takes a handle for an object. `Call.values` is what the functions of the
header do when handles are objects. At any time in any program it is what they do, as long as the
pointers are good, and a good pointer keeps its object.

* `Native.handle`, `Native.Good` — what is behind a handle
* `Call.values` — a call, said of objects
* `call_stands` — the same of every call at any time
* `value_lifetime` — the object behind a pointer
-/

namespace Btck

open Infra

variable {core : BitcoinCore} {υ : Type}

/-! ## Handles -/

/-- The object behind a handle. -/
def Native.handle (m : Native core) {k : Kind} (p : Option (Ptr k)) : Option (Value core k) :=
  p.bind m.value?

/-- The handle is null, or its pointer is good. -/
def Native.Good (m : Native core) {k : Kind} (p : Option (Ptr k)) : Prop :=
  ∀ q, p = some q → (m.value? q).isSome

/-- The handle is null, or it is what a `New` or `Copy` function returned and nobody freed. -/
def Native.Owned (m : Native core) {k : Kind} (p : Option (Ptr k)) : Prop :=
  ∀ q, p = some q → ∃ n x, q = .object n ∧ m.objects.cell n = some ⟨k, x⟩

theorem stands_handle {m : Native core} {k : Kind} {p : Option (Ptr k)} (h : m.Good p) :
    Stands m p (m.handle p) := by
  cases p with
  | none => trivial
  | some q =>
    obtain ⟨v, hv⟩ := Option.isSome_iff_exists.mp (h q rfl)
    show Stands m (some q) (m.value? q)
    rw [hv]
    exact hv

theorem forall_stands_handle {m : Native core} {k : Kind} {ps : List (Option (Ptr k))}
    (h : ∀ p ∈ ps, m.Good p) : List.Forall₂ (Stands m) ps (ps.map m.handle) := by
  rw [List.forall₂_map_right_iff, List.forall₂_same]
  exact fun p hp => stands_handle (h p hp)

/-! ## Calls -/

/-- What a call does, said of the objects that are behind its handles. -/
def Call.values (handle : {k : Kind} → Option (Ptr k) → Option (Value core k)) :
    Call core υ → Prog Memory Empty (Reply (Value core) υ)
  | scriptPubkeyNew alloc raw err => do
    let (v, e) ← ScriptPubkey.new alloc raw err
    return .created .scriptPubkey v e
  | scriptPubkeyEqual left right => do
    let n ← Prog.lift (ScriptPubkey.equal (handle left) (handle right))
    return .int n
  | scriptPubkeyToBytes self write userdata => do
    let (n, u) ← Runtime.onOther (ScriptPubkey.toBytes (handle self) write) userdata
    return .written n u
  | scriptPubkeyVerify alloc scriptPubkey amount tx spentOutputs inputIndex flags err => do
    let (n, e) ← ScriptPubkey.verify core alloc (handle scriptPubkey) amount (handle tx)
      (spentOutputs.map handle) inputIndex flags err
    return .verdict n e
  | transactionOutputNew alloc amount scriptPubkey err => do
    let (v, e) ← TransactionOutput.new alloc amount (handle scriptPubkey) err
    return .created .transactionOutput v e
  | transactionOutputGetAmount self => do
    let n ← Prog.lift (TransactionOutput.getAmount (handle self))
    return .amount n
  | transactionOutputGetScriptPubkey self => do
    let v ← Prog.lift (TransactionOutput.getScriptPubkey (handle self))
    return .borrowed .scriptPubkey v
  | transactionOutputToString self buf len buffer => do
    let (n, b) ← Runtime.onOther (TransactionOutput.toString core (handle self) buf len) buffer
    return .text n b
  | transactionNew alloc raw err => do
    let (v, e) ← Transaction.new core alloc raw err
    return .created .transaction v e
  | transactionCountOutputs self => do
    let n ← Prog.lift (Transaction.countOutputs core (handle self))
    return .count n
  | transactionGetOutput self idx => do
    let v ← Prog.lift (Transaction.getOutput core (handle self) idx)
    return .borrowed .transactionOutput v
  | transactionToBytes self write userdata => do
    let (n, u) ← Runtime.onOther (Transaction.toBytes core (handle self) write) userdata
    return .written n u
  | transactionToString self buf len buffer => do
    let (n, b) ← Runtime.onOther (Transaction.toString core (handle self) buf len) buffer
    return .text n b
  | blockNew alloc raw err => do
    let (v, e) ← Block.new core alloc raw err
    return .created .block v e
  | blockGetHash self => do
    let b ← Prog.lift (Block.getHash core (handle self))
    return .hash b
  | blockCountTransactions self => do
    let n ← Prog.lift (Block.countTransactions core (handle self))
    return .count n
  | blockGetTransaction self idx => do
    let v ← Prog.lift (Block.getTransaction core (handle self) idx)
    return .borrowed .transaction v
  | blockToBytes self write userdata => do
    let (n, u) ← Runtime.onOther (Block.toBytes core (handle self) write) userdata
    return .written n u
  | blockToString self buf len buffer => do
    let (n, b) ← Runtime.onOther (Block.toString core (handle self) buf len) buffer
    return .text n b
  | chainGetBlock self alloc idx err => do
    let (v, e) ← Chain.getBlock self alloc idx err
    return .created .block v e
  | copy ok (k := k) self err => do
    let (v, e) ← Api.copy ok (handle self) err
    return .created k v e
  | free _ => return .done
  | errorFree error => do
    Error.free error
    return .done

/-- The handles of a call are good. -/
def Call.Good (m : Native core) : Call core υ → Prop
  | scriptPubkeyNew .. | transactionNew .. | blockNew .. | chainGetBlock .. | errorFree _ => True
  | scriptPubkeyEqual left right => m.Good left ∧ m.Good right
  | scriptPubkeyVerify _ scriptPubkey _ tx spentOutputs _ _ _ =>
    m.Good scriptPubkey ∧ m.Good tx ∧ ∀ p ∈ spentOutputs, m.Good p
  | scriptPubkeyToBytes self _ _ => m.Good self
  | transactionOutputNew _ _ scriptPubkey _ => m.Good scriptPubkey
  | transactionOutputGetAmount self => m.Good self
  | transactionOutputGetScriptPubkey self => m.Good self
  | transactionOutputToString self _ _ _ => m.Good self
  | transactionCountOutputs self => m.Good self
  | transactionGetOutput self _ => m.Good self
  | transactionToBytes self _ _ => m.Good self
  | transactionToString self _ _ _ => m.Good self
  | blockGetHash self => m.Good self
  | blockCountTransactions self => m.Good self
  | blockGetTransaction self _ => m.Good self
  | blockToBytes self _ _ => m.Good self
  | blockToString self _ _ _ => m.Good self
  | copy _ self _ => m.Good self
  | free self => m.Owned self

/-- The same reply, with pointers to the objects. -/
inductive Reply.StandsFor (m : Native core) : Reply Ptr υ → Reply (Value core) υ → Prop where
  | created {k : Kind} {p : Option (Ptr k)} {v : Option (Value core k)} (e : Option ErrorPtr)
      (h : Stands m p v) : StandsFor m (.created k p e) (.created k v e)
  | borrowed {k : Kind} {p : Option (Ptr k)} {v : Option (Value core k)} (h : Stands m p v) :
      StandsFor m (.borrowed k p) (.borrowed k v)
  | int (n : Int32) : StandsFor m (.int n) (.int n)
  | verdict (n : Int32) (e : Option ErrorPtr) : StandsFor m (.verdict n e) (.verdict n e)
  | amount (n : Int64) : StandsFor m (.amount n) (.amount n)
  | count (n : UInt64) : StandsFor m (.count n) (.count n)
  | hash (b : Bytes) : StandsFor m (.hash b) (.hash b)
  | written (n : Int32) (u : υ) : StandsFor m (.written n u) (.written n u)
  | text (n : Int32) (b : Buffer) : StandsFor m (.text n b) (.text n b)
  | done : StandsFor m .done .done

namespace OnValues

variable {pre : Native core → Prop} {α : Type}

/-- A function that returns a new handle replies with it. -/
theorem creates {k : Kind} {x : Prog (Native core) Exception (Option (Ptr k))}
    {z : Outcome Exception (Option (Value core k))}
    (h : OnValues pre x (Prog.lift z) fun m => Stands m) (err : Bool) :
    OnValues pre
      ((native core).wrapFn err x >>= fun r => Pure.pure (Reply.created k r.1 r.2) :
        Prog (Native core) Empty (Reply Ptr υ))
      (Btck.wrapFn err z >>= fun r => Pure.pure (Reply.created k r.1 r.2))
      Reply.StandsFor := by
  have hnull : ∀ m : Native core, Stands m (none : Option (Ptr k)) none := fun _ => trivial
  refine (h.wrapFn err hnull).bind fun r r' => pure fun m => ?_
  rintro ⟨hstands, herr⟩
  rw [herr]
  exact .created r'.2 hstands

theorem borrows {k : Kind} {x : Prog (Native core) Empty (Option (Ptr k))}
    {y : Prog Memory Empty (Option (Value core k))} (h : OnValues pre x y fun m => Stands m) :
    OnValues pre (x >>= fun p => Pure.pure (Reply.borrowed k p))
      (y >>= fun v => Pure.pure (Reply.borrowed (υ := υ) k v)) Reply.StandsFor :=
  h.bind fun _ _ => pure fun _ hstands => .borrowed hstands

theorem replies {x : Prog (Native core) Empty α} {y : Prog Memory Empty α}
    (h : OnValues pre x y fun _ a b => a = b) {f : α → Reply Ptr υ} {g : α → Reply (Value core) υ}
    (hfg : ∀ m a, (f a).StandsFor m (g a)) :
    OnValues pre (x >>= fun a => Pure.pure (f a)) (y >>= fun a => Pure.pure (g a))
      Reply.StandsFor := by
  refine h.bind fun a b => pure fun m => ?_
  rintro rfl
  exact hfg m a

/-- In memory in which the handles of a call are good, it does what is said of the objects. -/
theorem call {m₀ : Native core} (call : Call core υ) (h : call.Good m₀) :
    OnValues (· = m₀) (call.run (native core)) (call.values m₀.handle) Reply.StandsFor := by
  have hstands : ∀ {k : Kind} {p : Option (Ptr k)}, m₀.Good p →
      ∀ m, m = m₀ → Stands m p (m₀.handle p) := by
    rintro k p hp m rfl
    exact stands_handle hp
  cases call with
  | scriptPubkeyNew alloc raw err => exact (scriptPubkeyNew alloc raw).creates err
  | scriptPubkeyEqual left right =>
    exact (equal.imp (fun m hm => ⟨hstands h.1 m hm, hstands h.2 m hm⟩) fun _ _ _ h => h).replies
      fun _ => .int
  | scriptPubkeyToBytes self write userdata =>
    exact (handOn (getScript (hstands h)) (fun v => ScriptPubkey.toBytes v write) userdata
      rfl).replies fun _ r => .written r.1 r.2
  | scriptPubkeyVerify alloc scriptPubkey amount tx spentOutputs inputIndex flags err =>
    have hverify : OnValues (· = m₀)
        (Runtime.ScriptPubkey.verifyBody (native core) alloc scriptPubkey amount tx spentOutputs
          inputIndex flags)
        (Prog.lift (ScriptPubkey.verifyBody core alloc (m₀.handle scriptPubkey) amount
          (m₀.handle tx) (spentOutputs.map m₀.handle) inputIndex flags)) fun _ a b => a = b := by
      refine (verifyBody alloc amount inputIndex flags).imp ?_ fun _ _ _ h => h
      rintro m rfl
      exact ⟨stands_handle h.1, stands_handle h.2.1, forall_stands_handle h.2.2⟩
    exact ((hverify.wrapFn err fun _ => rfl).imp (fun _ h => h)
      fun _ _ _ h => Prod.ext h.1 h.2).replies fun _ r => .verdict r.1 r.2
  | transactionOutputNew alloc amount scriptPubkey err =>
    exact ((transactionOutputNew alloc amount).imp (hstands h) fun _ _ _ h => h).creates err
  | transactionOutputGetAmount self =>
    exact (workOut (getOut (hstands h)) CTxOut.nValue).replies fun _ => .amount
  | transactionOutputGetScriptPubkey self =>
    exact (getScriptPubkey.imp (hstands h) fun _ _ _ h => h).borrows
  | transactionOutputToString self buf len buffer =>
    exact (handOn (getOut (hstands h)) (fun v => TransactionOutput.toString core v buf len) buffer
      rfl).replies fun _ r => .text r.1 r.2
  | transactionNew alloc raw err => exact (transactionNew alloc raw).creates err
  | transactionCountOutputs self =>
    exact (workOut (transactionValue (hstands h))
      fun tx => UInt64.ofNat (core.vout tx).size).replies fun _ => .count
  | transactionGetOutput self idx =>
    exact ((getOutput idx).imp (hstands h) fun _ _ _ h => h).borrows
  | transactionToBytes self write userdata =>
    exact (handOn (transactionValue (hstands h)) (fun v => Transaction.toBytes core v write)
      userdata rfl).replies fun _ r => .written r.1 r.2
  | transactionToString self buf len buffer =>
    exact (handOn (transactionValue (hstands h)) (fun v => Transaction.toString core v buf len)
      buffer rfl).replies fun _ r => .text r.1 r.2
  | blockNew alloc raw err => exact (blockNew alloc raw).creates err
  | blockGetHash self => exact (getHash.imp (hstands h) fun _ _ _ h => h).replies fun _ => .hash
  | blockCountTransactions self =>
    exact (countTransactions.imp (hstands h) fun _ _ _ h => h).replies fun _ => .count
  | blockGetTransaction self idx =>
    exact ((getTransaction idx).imp (hstands h) fun _ _ _ h => h).borrows
  | blockToBytes self write userdata =>
    exact (handOn (blockValue (hstands h)) (fun v => Block.toBytes core v write) userdata
      rfl).replies fun _ r => .written r.1 r.2
  | blockToString self buf len buffer =>
    exact (handOn (blockValue (hstands h)) (fun v => Block.toString core v buf len) buffer
      rfl).replies fun _ r => .text r.1 r.2
  | chainGetBlock self alloc idx err => exact (getBlock self alloc idx).creates err
  | copy ok self err => exact ((copyBody ok).imp (hstands h) fun _ _ _ h => h).creates err
  | free self =>
    cases self with
    | none => exact pure fun _ _ => .done
    | some p =>
      obtain ⟨n, x, rfl, hn⟩ := h p rfl
      exact (free.imp (fun m hm => hm ▸ hn) fun _ _ _ h => h).bind fun _ _ => pure fun _ _ => .done
  | errorFree error => exact (onErrors (Error.free error)).replies fun _ _ => .done

end OnValues

/-! ## Programs -/

variable {calls calls' : List (Call core υ)} {errors : Memory}
  {replies replies' : List (Reply Ptr υ)} {m m' : Native core}

/--
**Handles can be taken for objects.** At any time in a program, a call whose handles are good does
what is said of the objects behind them: it comes to the same end, its reply stands for theirs, and
the error records are the same.
-/
theorem call_stands (h : run (native core) calls (Native.empty errors) = (.returns replies, m))
    {call : Call core υ} (hgood : call.Good m) :
    match call.run (native core) m, call.values m.handle m.errors with
    | (.returns reply, m'), (.returns value, errors') =>
      reply.StandsFor m' value ∧ m'.errors = errors'
    | (.faults u, _), (.faults u', _) => u = u'
    | _, _ => False := by
  have hsound : Sound m := agree_of_run h
  have hend := OnValues.call call hgood m m.errors ⟨⟨hsound, rfl⟩, rfl⟩
  rcases hrun : call.run (native core) m with ⟨out, m'⟩
  rcases hvalues : call.values m.handle m.errors with ⟨out', errors'⟩
  rw [hrun, hvalues] at hend
  cases out with
  | returns reply =>
    cases out' with
    | returns value => exact ⟨hend.2, hend.1.2⟩
    | throws e => exact e.elim
    | faults u => exact hend.elim
  | throws e => exact e.elim
  | faults u =>
    cases out' with
    | returns value => exact hend.elim
    | throws e => exact e.elim
    | faults u' => exact hend

/-- The output of a transaction is borrowed. -/
def borrowOutput : Call minimalCore Unit :=
  .transactionGetOutput (some (.object 0)) 0

theorem call_stands_borrowOutput :
    Reply.StandsFor (υ := Unit) (borrowOutput.run (native minimalCore) spendMemory).2
        (.borrowed .transactionOutput (some (.vout 0 0)))
        (.borrowed .transactionOutput (some ⟨0, []⟩)) ∧
      (borrowOutput.run (native minimalCore) spendMemory).2.errors = spendMemory.errors := by
  have hgood : borrowOutput.Good spendMemory := by
    intro q hq
    rw [← Option.some.inj hq]
    rfl
  exact call_stands spendMemory_run hgood

/-- An object that is put together once, is put together to the same later. -/
theorem whole_later (hl : m.Later m') (hs : Sound m') {k : Kind} {p : Ptr k} {x : CppType core k}
    {v : Value core k} (hx : m.whole x = some v) (hread : m'.read? p = some x) :
    m'.whole x = some v := by
  cases k with
  | block => exact hx
  | transaction =>
    obtain ⟨object, hobject, rfl⟩ := Option.map_eq_some_iff.mp hx
    obtain ⟨v', hv'⟩ := hs.whole_isSome hread
    obtain ⟨object', hobject', rfl⟩ := Option.map_eq_some_iff.mp hv'
    rw [hv', hl.transaction_eq hobject hobject']
  | transactionOutput => exact hx
  | scriptPubkey => exact hx

theorem value?_later (hl : m.Later m') (hs : Sound m') {k : Kind} {p : Ptr k} {v : Value core k}
    (hp : m.value? p = some v) (ha : m'.Alive p) : m'.value? p = some v := by
  obtain ⟨c, hc⟩ := hs
  obtain ⟨x, hx, hv⟩ := Option.bind_eq_some_iff.mp hp
  have hread := (read?_later hl hc p hx).1 ha
  rw [Native.value?, hread, Option.bind_some]
  exact whole_later hl ⟨c, hc⟩ hv hread

/--
**A pointer keeps its object.** Whatever the program does, what is behind a pointer is the same
object, down to the transactions of a block, as long as the object that it is to, its block, or some
reference to its transaction is left. After that, to use it is undefined.
-/
theorem value_lifetime {k : Kind} (p : Ptr k) {v : Value core k}
    (h : run (native core) calls (Native.empty errors) = (.returns replies, m))
    (hp : m.value? p = some v)
    (h' : run (native core) calls' m = (.returns replies', m')) :
    (m'.Alive p → m'.value? p = some v) ∧
    (¬ m'.Alive p → ((native core).load p : Prog _ Empty _) m' = (.faults .undefined, m')) := by
  obtain ⟨c, hc⟩ := agree_of_run h
  obtain ⟨hlater, c', hc'⟩ := later_of_run hc h'
  refine ⟨value?_later hlater ⟨c', hc'⟩ hp, fun hdead => ?_⟩
  obtain ⟨x, hx, -⟩ := Option.bind_eq_some_iff.mp hp
  rw [load_run, (read?_later hlater hc' p hx).2 hdead]
  rfl

/-- The handle of a transaction is copied and freed. -/
def copyAndFree : List (Call minimalCore Unit) :=
  [.copy true (some (.object 0 : Ptr .transaction)) false,
    .free (some (.object 0 : Ptr .transaction))]

/-- The output is still there: the copy refers to the transaction. -/
theorem value_lifetime_copy :
    (run (native minimalCore) copyAndFree spendMemory).2.value? (.vout 0 0) = some ⟨0, []⟩ := by
  have hrun : run (native minimalCore) copyAndFree spendMemory
      = (.returns [.created .transaction (some (.object 1)) none, .done],
        (run (native minimalCore) copyAndFree spendMemory).2) := rfl
  exact (value_lifetime (.vout 0 0) spendMemory_run rfl hrun).1
    ⟨1, ⟨.transaction, (0 : Nat)⟩, rfl, List.mem_singleton_self 0⟩

end Btck
