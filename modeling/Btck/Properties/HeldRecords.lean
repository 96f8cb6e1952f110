import Btck.Infra.HeldOnce
import Btck.Properties.ErrorRecord

/-!
# Error records that are kept

A client that keeps the records it receives has any number of them at a time, and frees them in any
order. Each is a block with two more blocks for its strings, and the blocks of one are not those of
another, so that to free one leaves the others as they are.

* `Record` — what a pointer to a record reads as
* `new_record`, `free_record` — `BtcK_Error_New` and `BtcK_Error_Free`, among other records
-/

namespace Btck

open Infra

/-- The block that a string of a record is in. -/
def CharPtr.blocks : CharPtr → Multiset Nat
  | block n => {n}
  | _ => 0

/-- The blocks of a record. The static record has none. -/
def ErrorPtr.blocks (h : Memory) : ErrorPtr → Multiset Nat
  | .block n =>
    match h.cell n with
    | some (.error e) => n ::ₘ (e.domain.blocks + e.message.blocks)
    | _ => 0
  | _ => 0

/-- A pointer to a record, and what the record says. -/
inductive Record (h : Memory) : ErrorPtr → Report → Prop where
  | oomError : Record h .oomError oomReport
  | block {n d m : Nat} {code : Int32} {domain message : Bytes}
      (hn : h.cell n = some (.error ⟨code, .block d, .block m⟩))
      (hd : h.cell d = some (.chars domain)) (hm : h.cell m = some (.chars message)) :
      Record h (.block n) ⟨code, domain, message⟩

namespace Record

variable {h h' : Memory} {p : ErrorPtr} {r : Report} {holders : Multiset Nat}

theorem blocks_eq {n d m : Nat} {code : Int32}
    (hn : h.cell n = some (.error ⟨code, .block d, .block m⟩)) :
    ErrorPtr.blocks h (.block n) = n ::ₘ d ::ₘ {m} := by
  rw [ErrorPtr.blocks, hn]
  rfl

/-- Whatever else has changed, a record is the same as long as its blocks are. -/
theorem of_cell (hp : Record h p r) (hcell : ∀ n ∈ p.blocks h, h'.cell n = h.cell n) :
    Record h' p r ∧ p.blocks h' = p.blocks h := by
  cases hp with
  | oomError => exact ⟨.oomError, rfl⟩
  | @block n d m code domain message hn hd hm =>
    rw [blocks_eq hn] at hcell ⊢
    have hn' := (hcell n (by simp)).trans hn
    exact ⟨.block hn' ((hcell d (by simp)).trans hd) ((hcell m (by simp)).trans hm), blocks_eq hn'⟩

theorem getters (hp : Record h p r) : Reads h p r := by
  cases hp with
  | oomError =>
    exact ⟨.outside (utf8 "Memory"), .outside (utf8 "Out of memory"), rfl, rfl, rfl, rfl, rfl⟩
  | @block n d m code domain message hn hd hm =>
    have hderef : ∀ {ε : Type}, (Error.deref (.block n) : Prog Memory ε _) h
        = (.returns ⟨code, .block d, .block m⟩, h) := by
      intro ε
      rw [Error.deref, Prog.bind_of_returns (Heap.read_of_live hn)]
      rfl
    have hstr : ∀ {ε : Type} {k : Nat} {s : Bytes}, h.cell k = some (.chars s) →
        (CharPtr.str (.block k) : Prog Memory ε _) h = (.returns s, h) := by
      intro ε k s hk
      rw [CharPtr.str, Prog.bind_of_returns (Heap.read_of_live hk)]
      rfl
    refine ⟨.block d, .block m, ?_, ?_, ?_, hstr hd, hstr hm⟩
    · exact Prog.bind_of_returns hderef _
    · exact Prog.bind_of_returns hderef _
    · exact Prog.bind_of_returns hderef _

theorem not_null (hp : Record h p r) : p ≠ .null := by
  cases hp <;> simp

end Record

/-! ## Freeing -/

/-- `free` of a string takes its block away, and nothing that somebody else holds. -/
theorem free_string {h : Memory} {n : Nat} {holders : Multiset Nat}
    (hh : HeldOnce (n ::ₘ holders) h) :
    ∃ h', (∀ {ε : Type}, (CharPtr.free (.block n) : Prog Memory ε _) h = (.returns (), h')) ∧
      HeldOnce holders h' ∧ ∀ m ∈ holders, h'.cell m = h.cell m := by
  have hl := hh.live (Multiset.mem_cons_self n holders)
  refine ⟨h.drop n hl, fun {ε} => Heap.free_of_live hl, hh.drop hl, fun m hm => ?_⟩
  rw [Heap.cell_drop, if_neg]
  rintro rfl
  exact hh.notMem_of_cons hm

/-- A record is freed, and the blocks that others hold stay as they are. -/
theorem free_record {h : Memory} {p : ErrorPtr} {r : Report} {holders : Multiset Nat}
    (hp : Record h p r) (hh : HeldOnce (p.blocks h + holders) h) :
    ∃ h', (∀ {ε : Type}, (Error.free p : Prog Memory ε _) h = (.returns (), h')) ∧
      HeldOnce holders h' ∧ ∀ n ∈ holders, h'.cell n = h.cell n := by
  cases hp with
  | oomError => exact ⟨h, rfl, by simpa [ErrorPtr.blocks] using hh, fun _ _ => rfl⟩
  | @block n d m code domain message hn hd hm =>
    have hblocks : ErrorPtr.blocks h (.block n) + holders = d ::ₘ m ::ₘ n ::ₘ holders := by
      rw [Record.blocks_eq hn, Multiset.cons_add, Multiset.cons_add, Multiset.singleton_add,
        Multiset.cons_swap n d, Multiset.cons_swap n m]
    rw [hblocks] at hh
    obtain ⟨h₁, hdomain, hh₁, hcell₁⟩ := free_string hh
    obtain ⟨h₂, hmessage, hh₂, hcell₂⟩ := free_string hh₁
    obtain ⟨h₃, hrecord, hh₃, hcell₃⟩ := free_string hh₂
    have hderef : ∀ {ε : Type}, (Error.deref (.block n) : Prog Memory ε _) h
        = (.returns ⟨code, .block d, .block m⟩, h) := by
      intro ε
      rw [Error.deref, Prog.bind_of_returns (Heap.read_of_live hn)]
      rfl
    refine ⟨h₃, ?_, hh₃, fun k hk => ?_⟩
    · intro ε
      rw [Error.free, Prog.bind_of_returns hderef, Prog.bind_of_returns hdomain,
        Prog.bind_of_returns hmessage]
      exact hrecord
    · rw [hcell₃ k hk, hcell₂ k (Multiset.mem_cons_of_mem hk),
        hcell₁ k (Multiset.mem_cons_of_mem (Multiset.mem_cons_of_mem hk))]

/-! ## Making -/

/-- Three new blocks are held by the record that they are of. -/
theorem held_of_asked {h m : Memory} {domain message : CharPtr} {ds ms : Bytes} {d k : Nat}
    {holders : Multiset Nat} (hh : HeldOnce holders h) (ha : Asked h m domain message ds ms)
    (hd : domain = .block d) (hk : message = .block k) :
    HeldOnce (h.next ::ₘ d ::ₘ {k} + holders) m := by
  obtain ⟨hd₁, hd₂⟩ := ha.domain_block d hd
  obtain ⟨hk₁, hk₂⟩ := ha.message_block k hk
  have hdk : d ≠ k := by
    rintro rfl
    exact ha.disjoint d hd hk
  have hfresh : ∀ n, h.next ≤ n → holders.count n = 0 := by
    intro n hn
    rw [hh n, h.unused n hn]
    rfl
  intro n
  simp only [Multiset.cons_add, Multiset.singleton_add]
  by_cases hrecord : n = h.next
  · rw [hrecord, Multiset.count_cons_self, Multiset.count_cons_of_ne (by omega),
      Multiset.count_cons_of_ne (by omega), hfresh _ le_rfl, ha.record]
    rfl
  rw [Multiset.count_cons_of_ne hrecord]
  by_cases hdomain : n = d
  · rw [hdomain, Multiset.count_cons_self, Multiset.count_cons_of_ne hdk, hfresh _ (by omega), hd₂]
    rfl
  rw [Multiset.count_cons_of_ne hdomain]
  by_cases hmessage : n = k
  · rw [hmessage, Multiset.count_cons_self, hfresh _ (by omega), hk₂]
    rfl
  rw [Multiset.count_cons_of_ne hmessage, ha.frame n hrecord, hh n]
  · rw [hd]
    exact fun h => hdomain (CharPtr.block.inj h).symm
  · rw [hk]
    exact fun h => hmessage (CharPtr.block.inj h).symm

/--
A record is made. Its blocks are new ones, and when there was no memory for all of them, none is
left of it.
-/
theorem new_record (h : Memory) (c : Int32) (ds ms : Bytes) :
    ∃ p h', (∀ {ε : Type}, (Error.new c (.outside ds) (.outside ms) : Prog Memory ε _) h
        = (.returns p, h')) ∧
      Record h' p (if complete h.schedule then ⟨c, ds, ms⟩ else oomReport) ∧
      (∀ n, (h.cell n).isSome → h'.cell n = h.cell n) ∧
      ∀ holders, HeldOnce holders h → HeldOnce (p.blocks h' + holders) h' := by
  have hnone : ∀ {h' : Memory}, h'.cell = h.cell → ∀ holders, HeldOnce holders h →
      HeldOnce (ErrorPtr.oomError.blocks h' + holders) h' := by
    intro h' hcell holders hh
    rw [show ErrorPtr.oomError.blocks h' = 0 from rfl, zero_add]
    exact hh.of_cell fun n => by rw [hcell]
  by_cases hs : h.schedule.headD true = true
  · have ha := asked_duplicated h ds ms
    have hdn := duplicated_isNull (h.alloc .raw) ds
    have hmn := duplicated_isNull (duplicated (h.alloc .raw) ds).2 ms
    rw [duplicated_schedule] at hmn
    generalize hd : duplicated (h.alloc .raw) ds = d at ha hdn hmn
    generalize hm : duplicated d.2 ms = m at ha hmn
    have hlive : (m.2.cell h.next).isSome := by rw [ha.record]; rfl
    obtain ⟨h'', hf, hr⟩ := ha.free c hlive
    have hcomplete : complete h.schedule = !(d.1.isNull || m.1.isNull) := by
      rw [complete, hs, hdn, hmn]
      show _ = !(!h.schedule.tail.headD true || !h.schedule.tail.tail.headD true)
      simp
    by_cases hnull : (d.1.isNull || m.1.isNull) = true
    · -- a copy failed: what is there of the record is freed
      refine ⟨.oomError, h'', ?_, ?_, fun n _ => by rw [hr.cell_eq], hnone hr.cell_eq⟩
      · intro ε
        rw [new_of_malloc hs c ds ms hd hm hlive, if_pos hnull, Prog.bind_of_returns hf]
        rfl
      · rw [hcomplete, hnull]
        exact .oomError
    · -- both copies are there
      rw [Bool.not_eq_true] at hnull
      rw [hcomplete, hnull]
      have hrun : ∀ {ε : Type}, (Error.new c (.outside ds) (.outside ms) : Prog Memory ε _) h
          = (.returns (.block h.next), m.2.set h.next (.error ⟨c, d.1, m.1⟩) hlive) := by
        intro ε
        rw [new_of_malloc hs c ds ms hd hm hlive, hnull]
        rfl
      rw [Bool.or_eq_false_iff] at hnull
      obtain ⟨kd, hkd⟩ := ha.domain_eq_block hnull.1
      obtain ⟨km, hkm⟩ := ha.message_eq_block hnull.2
      obtain ⟨hd₁, hd₂⟩ := ha.domain_block kd hkd
      obtain ⟨hm₁, hm₂⟩ := ha.message_block km hkm
      have hset : ∀ k, k ≠ h.next →
          (m.2.set h.next (.error ⟨c, d.1, m.1⟩) hlive).cell k = m.2.cell k := fun k hk =>
        Function.update_of_ne hk _ _
      have hself : (m.2.set h.next (.error ⟨c, d.1, m.1⟩) hlive).cell h.next
          = some (.error ⟨c, .block kd, .block km⟩) := by
        rw [← hkd, ← hkm]
        exact Function.update_self ..
      refine ⟨_, _, hrun, ?_, fun n hn => ?_, fun holders hh => ?_⟩
      · exact .block hself (by rw [hset kd (by omega), hd₂]) (by rw [hset km (by omega), hm₂])
      · have hlt := Heap.lt_next_of_isSome hn
        rw [hset n (by omega), ha.frame n (by omega)]
        · rw [hkd]
          exact fun h => absurd (CharPtr.block.inj h) (by omega)
        · rw [hkm]
          exact fun h => absurd (CharPtr.block.inj h) (by omega)
      · rw [Record.blocks_eq hself]
        exact (held_of_asked hh ha hkd hkm).set _ hlive
  · -- not even the record could be allocated, and nothing else was tried
    have hs' : h.schedule.headD true = false := by simpa using hs
    refine ⟨.oomError, h.refuse, ?_, ?_, fun _ _ => rfl, hnone rfl⟩
    · intro ε
      rw [Error.new, Prog.bind_of_returns (Heap.malloc_of_false hs' _)]
      rfl
    · rw [complete, hs']
      exact .oomError

/-- What an exception that leaves the library is reported as. -/
theorem translateException_record (h : Memory) (e : Exception) :
    ∃ p h', (∀ {ε : Type}, (translateException e : Prog Memory ε _) h = (.returns p, h')) ∧
      Record h' p (if complete h.schedule then e.report else oomReport) ∧
      (∀ n, (h.cell n).isSome → h'.cell n = h.cell n) ∧
      ∀ holders, HeldOnce holders h → HeldOnce (p.blocks h' + holders) h' := by
  cases e with
  | badAlloc what => exact new_record h _ _ _
  | systemError value category what => exact new_record h _ _ _
  | exception what => exact new_record h _ _ _
  | unknown => exact new_record h _ _ _

end Btck
