import Btck.Minimal
import Btck.Properties.Streaming
import Btck.Python.BytesWriter

/-!
# The writer holds what was written

Behind the struct there is a list of bytes, and `write_bytes` appends to it. Nothing is written
outside of a buffer, a buffer that was left behind is freed, and moving the data from one to the
next takes no more steps than there are bytes, up to a factor.

* `Holds` — a writer and its data, with one lemma for each function
* `Writes` — `to_bytes`, for each producer of chunks
* `Refines` — a writer that is a list of bytes can do the same
* `bytes_written` — the bytes of scripts, transactions and blocks
* `moved_linear` — what it costs to grow
-/

namespace Btck.Python

open Infra

namespace PyBytesWriter

/-! ## A writer at work -/

/-- A writer and its data. Everything else is as it was before the writer was made. -/
structure Holds (h₀ h : WriterMemory) (writer : Nat) (w : PyBytesWriter) (data : Buffer) :
    Prop where
  cell : h.cell writer = some (.writer w)
  small : w.obj = none → w.smallBuffer = data
  bytes : ∀ obj, w.obj = some obj → h.cell obj = some (.bytes data) ∧ h₀.next ≤ obj
  other : ∀ n ≠ writer, w.obj ≠ some n → h.cell n = h₀.cell n
  new : h₀.next ≤ writer
  next_le : h₀.next ≤ h.next

section

variable {h₀ h h' : WriterMemory} {writer : Nat} {w : PyBytesWriter} {data : Buffer}

/-- An allocation that fails is one of those that are to fail. -/
theorem mem_of_headD {schedule : List Bool} (hs : schedule.headD true = false) :
    false ∈ schedule := by
  cases schedule with
  | nil => cases hs
  | cons b bs =>
    obtain rfl : b = false := hs
    exact List.mem_cons_self

theorem load_run (hcell : h.cell writer = some (.writer w)) :
    load writer h = (.returns w, h) := by
  rw [load, Prog.bind_of_returns (Heap.read_of_live hcell)]
  rfl

theorem loadBytes_run {obj : Nat} {b : Buffer} (hcell : h.cell obj = some (.bytes b)) :
    loadBytes obj h = (.returns b, h) := by
  rw [loadBytes, Prog.bind_of_returns (Heap.read_of_live hcell)]
  rfl

theorem copied_of_le {b : Buffer} {n : Nat} {bytes : Bytes} (hle : n + bytes.length ≤ b.length) :
    copied b n bytes = .returns (b.overwrite n bytes) :=
  if_pos ⟨Int.natCast_nonneg n, hle⟩

namespace Holds

theorem obj_ne (hh : Holds h₀ h writer w data) {obj : Nat} (hobj : w.obj = some obj) :
    obj ≠ writer := by
  rintro rfl
  have hbytes := (hh.bytes obj hobj).1
  rw [hh.cell] at hbytes
  cases hbytes

/-- The fields of the writer are set, but for the buffer. -/
theorem store (hh : Holds h₀ h writer w data) (w' : PyBytesWriter) (hobj : w'.obj = w.obj)
    (hsmall : w'.smallBuffer = w.smallBuffer) :
    ∃ h', PyBytesWriter.store writer w' h = (.returns (), h') ∧ Holds h₀ h' writer w' data ∧
      h'.schedule = h.schedule := by
  have hl : (h.cell writer).isSome := by rw [hh.cell]; rfl
  refine ⟨h.set writer (.writer w') hl, Heap.write_of_live _ hl, ?_, rfl⟩
  refine ⟨?_, ?_, ?_, ?_, hh.new, hh.next_le⟩
  · rw [Heap.cell_set, if_pos rfl]
  · intro hnull
    rw [hsmall]
    exact hh.small (hobj.symm.trans hnull)
  · intro obj hptr
    rw [hobj] at hptr
    rw [Heap.cell_set, if_neg (hh.obj_ne hptr)]
    exact hh.bytes obj hptr
  · intro n hn hptr
    rw [Heap.cell_set, if_neg hn]
    exact hh.other n hn (by rwa [hobj] at hptr)

theorem allocated (hh : Holds h₀ h writer w data) :
    PyBytesWriter.allocated writer h = (.returns (data.length : Int), h) := by
  rw [PyBytesWriter.allocated, Prog.bind_of_returns (load_run hh.cell)]
  cases hptr : w.obj with
  | none =>
    rw [← hh.small hptr, w.length_smallBuffer]
    rfl
  | some obj => exact Prog.bind_of_returns (loadBytes_run (hh.bytes obj hptr).1) _

end Holds

/-! ## Growing -/

theorem le_overallocated {size : Int} (h : 0 ≤ size) : size ≤ overallocated size := by
  unfold overallocated
  split <;> omega

variable (junk : Nat → Nat → UInt8)

theorem fromSize_run {size : Int} (hfits : size ≤ ssizeMax - bytesObjectSize) (h : WriterMemory) :
    (fromSize junk size h
        = (.returns h.next, h.alloc (.bytes (fresh (junk h.next) size.toNat)))) ∨
      (fromSize junk size h = (.throws noMemory, h.refuse) ∧ false ∈ h.schedule) := by
  have hno : ¬ size > ssizeMax - bytesObjectSize := by omega
  unfold fromSize
  rw [if_neg hno]
  cases hs : h.schedule.headD true with
  | true => exact .inl (Prog.bind_of_returns (Heap.malloc_of_true hs _) _)
  | false => exact .inr ⟨Prog.bind_of_returns (Heap.malloc_of_false hs _) _, mem_of_headD hs⟩

/-- The object moves to a block of another size, or is gone. -/
theorem resizeBytes_run {obj : Nat} {b : Buffer} (hcell : h.cell obj = some (.bytes b)) {size : Int}
    (hfits : size ≤ ssizeMax - bytesObjectSize) (hne : (b.length : Int) ≠ size) :
    ∃ h', h'.schedule <:+ h.schedule ∧ h.next ≤ h'.next ∧
      ((resizeBytes junk obj size h = (.returns (some h.next), h') ∧
          ∀ m, h'.cell m = if m = obj then none else if m = h.next then
            some (.bytes ((b ++ fresh (junk h.next) size.toNat).take size.toNat)) else h.cell m) ∨
        (resizeBytes junk obj size h = (.returns none, h') ∧ false ∈ h.schedule ∧
          ∀ m, h'.cell m = if m = obj then none else h.cell m)) := by
  have hno : ¬ size > ssizeMax - bytesObjectSize := by omega
  have hl : (h.cell obj).isSome := by rw [hcell]; rfl
  have hlt := Heap.lt_next_of_isSome hl
  unfold resizeBytes
  rw [Prog.bind_of_returns (loadBytes_run hcell), if_neg hne, if_neg hno]
  cases hs : h.schedule.headD true with
  | true =>
    have hl' : ((h.alloc (.bytes ((b ++ fresh (junk h.next) size.toNat).take size.toNat))).cell
        obj).isSome := by
      rw [Heap.cell_alloc, if_neg hlt.ne]
      exact hl
    refine ⟨(h.alloc _).drop obj hl', List.tail_suffix _, Nat.le_succ _, .inl ⟨?_, fun m => ?_⟩⟩
    · rw [Prog.bind_of_returns (Heap.malloc_of_true hs _),
        Prog.bind_of_returns (Heap.free_of_live hl')]
      rfl
    · rw [Heap.cell_drop, Heap.cell_alloc]
  | false =>
    refine ⟨h.refuse.drop obj hl, List.tail_suffix _, le_rfl, .inr ⟨?_, mem_of_headD hs, fun m => ?_⟩⟩
    · rw [Prog.bind_of_returns (Heap.malloc_of_false hs _),
        Prog.bind_of_returns (Heap.free_of_live (h := h.refuse) hl)]
      rfl
    · exact Heap.cell_drop h.refuse obj hl m

/-- The characters of an object that has grown. -/
theorem prefix_take_append {b : Buffer} {n : Nat} (h : b.length ≤ n) (x : Buffer) :
    b <+: (b ++ x).take n := by
  rw [List.take_append, List.take_of_length_le h]
  exact List.prefix_append _ _

/-- How much memory `resize` asks for. -/
def wanted (size : Int) (overallocate : Bool) : Int :=
  if overallocate then overallocated size else size

theorem le_wanted {size : Int} (h : 0 ≤ size) (overallocate : Bool) :
    size ≤ wanted size overallocate := by
  unfold wanted
  split
  · exact le_overallocated h
  · exact le_rfl

/-- The buffer of the struct is left for an object. -/
theorem Holds.leave (hh : Holds h₀ h writer w data) (hnull : w.obj = none) {size : Int}
    (hmore : 256 < size) (hfits : size ≤ ssizeMax - bytesObjectSize) :
    let x : Prog WriterMemory PyErr Unit := do
      let obj ← fromSize junk size
      PyBytesWriter.store writer { w with obj := some obj }
      if size ≤ 256 then Prog.fault .assertion
      else do
        let b ← Prog.lift (copied (← loadBytes obj) 0 w.smallBuffer)
        Heap.write obj (.bytes b)
    (∃ h' obj data', x h = (.returns (), h') ∧
        Holds h₀ h' writer { w with obj := some obj } data' ∧ data <+: data' ∧
        (data'.length : Int) = size ∧ h'.schedule <:+ h.schedule) ∨
      ∃ h' w' data', x h = (.throws noMemory, h') ∧ Holds h₀ h' writer w' data' ∧
        false ∈ h.schedule := by
  intro x
  have hdata := hh.small hnull
  have hlength := w.length_smallBuffer
  have hlive : (h.cell writer).isSome := by rw [hh.cell]; rfl
  have hlt := Heap.lt_next_of_isSome hlive
  obtain hrun | ⟨hrun, hfalse⟩ := fromSize_run junk hfits h
  · -- the object is made, the writer gets it, and the data is copied
    have hnew : (fresh (junk h.next) size.toNat).length = size.toNat := length_fresh _ _
    generalize fresh (junk h.next) size.toNat = b at hrun hnew
    have hl : ((h.alloc (.bytes b)).cell writer).isSome := by
      rw [Heap.cell_alloc, if_neg hlt.ne]
      exact hlive
    have hcell : ((h.alloc (.bytes b)).set writer (.writer { w with obj := some h.next }) hl).cell
        h.next = some (.bytes b) := by
      rw [Heap.cell_set, if_neg hlt.ne', Heap.cell_alloc, if_pos rfl]
    have hl' : (((h.alloc (.bytes b)).set writer (.writer { w with obj := some h.next }) hl).cell
        h.next).isSome := by rw [hcell]; rfl
    have hfit : 0 + w.smallBuffer.length ≤ b.length := by omega
    have hcopied := copied_of_le (n := 0) hfit
    have hend : x h = (.returns (), ((h.alloc (.bytes b)).set writer
        (.writer { w with obj := some h.next }) hl).set h.next
          (.bytes (b.overwrite 0 w.smallBuffer)) hl') := by
      refine (Prog.bind_of_returns hrun _).trans ?_
      rw [PyBytesWriter.store, Prog.bind_of_returns (Heap.write_of_live _ hl), if_neg (by omega),
        Prog.bind_of_returns (loadBytes_run hcell)]
      refine (Prog.bind_of_returns (congrFun (congrArg Prog.lift hcopied) _) _).trans ?_
      exact Heap.write_of_live _ hl'
    refine .inl ⟨_, h.next, b.overwrite 0 w.smallBuffer, hend,
      ⟨?_, nofun, ?_, ?_, hh.new, ?_⟩, ?_, ?_, List.tail_suffix _⟩
    · rw [Heap.cell_set, if_neg hlt.ne, Heap.cell_set, if_pos rfl]
    · rintro obj ⟨⟩
      rw [Heap.cell_set, if_pos rfl]
      exact ⟨rfl, hh.next_le⟩
    · intro n hn hobj
      have hne : n ≠ h.next := fun hc => hobj (congrArg some hc.symm)
      rw [Heap.cell_set, if_neg hne, Heap.cell_set, if_neg hn, Heap.cell_alloc, if_neg hne]
      exact hh.other n hn (by rw [hnull]; nofun)
    · exact hh.next_le.trans (Nat.le_succ _)
    · rw [← hdata, Buffer.overwrite, List.take_zero, List.nil_append]
      exact List.prefix_append _ _
    · rw [Buffer.length_overwrite hfit, hnew]
      omega
  · exact .inr ⟨h.refuse, w, data, Prog.bind_of_throws hrun _,
      ⟨hh.cell, hh.small, hh.bytes, hh.other, hh.new, hh.next_le⟩, hfalse⟩

/-- The object could not be moved, and is gone. -/
theorem Holds.lost (hh : Holds h₀ h writer w data) {obj : Nat} (hobj : w.obj = some obj)
    {h₁ : WriterMemory} (hnext : h.next ≤ h₁.next)
    (hcell : ∀ m, h₁.cell m = if m = obj then none else h.cell m) :
    ∃ h', PyBytesWriter.store writer { w with obj := none } h₁ = (.returns (), h') ∧
      Holds h₀ h' writer { w with obj := none } w.smallBuffer := by
  have hne := hh.obj_ne hobj
  have hl : (h₁.cell writer).isSome := by
    rw [hcell, if_neg hne.symm, hh.cell]
    rfl
  refine ⟨h₁.set writer (.writer { w with obj := none }) hl, Heap.write_of_live _ hl,
    ⟨?_, fun _ => rfl, nofun, ?_, hh.new, hh.next_le.trans hnext⟩⟩
  · rw [Heap.cell_set, if_pos rfl]
  · intro n hn _
    rw [Heap.cell_set, if_neg hn, hcell]
    rcases eq_or_ne n obj with rfl | hother
    · rw [if_pos rfl, h₀.unused n (hh.bytes n hobj).2]
    · rw [if_neg hother]
      exact hh.other n hn (by rw [hobj]; exact fun hc => hother (Option.some.inj hc).symm)

/-- The object is made larger. -/
theorem Holds.extend (hh : Holds h₀ h writer w data) {obj : Nat} (hobj : w.obj = some obj)
    {size : Int} (hmore : (data.length : Int) < size)
    (hfits : size ≤ ssizeMax - bytesObjectSize) :
    let x : Prog WriterMemory PyErr Unit := do
      let obj ← resizeBytes junk obj size
      PyBytesWriter.store writer { w with obj := obj }
      if obj.isNone then Prog.throw noMemory else return ()
    (∃ h' obj data', x h = (.returns (), h') ∧
        Holds h₀ h' writer { w with obj := some obj } data' ∧ data <+: data' ∧
        (data'.length : Int) = size ∧ h'.schedule <:+ h.schedule) ∨
      ∃ h' w' data', x h = (.throws noMemory, h') ∧ Holds h₀ h' writer w' data' ∧
        false ∈ h.schedule := by
  intro x
  obtain ⟨hcell, hnew⟩ := hh.bytes obj hobj
  have hne := hh.obj_ne hobj
  have hlive : (h.cell writer).isSome := by rw [hh.cell]; rfl
  have hlt := Heap.lt_next_of_isSome hlive
  have hlt' : obj < h.next := Heap.lt_next_of_isSome (by rw [hcell]; rfl)
  obtain ⟨h₁, hschedule, hnext, ⟨hrun, hcell₁⟩ | ⟨hrun, hfalse, hcell₁⟩⟩ :=
    resizeBytes_run junk hcell hfits hmore.ne
  · have hl : (h₁.cell writer).isSome := by
      rw [hcell₁, if_neg hne.symm, if_neg hlt.ne]
      exact hlive
    have hend : x h
        = (.returns (), h₁.set writer (.writer { w with obj := some h.next }) hl) := by
      refine (Prog.bind_of_returns hrun _).trans ?_
      rw [PyBytesWriter.store, Prog.bind_of_returns (Heap.write_of_live _ hl)]
      rfl
    have hle : data.length ≤ size.toNat := by omega
    refine .inl ⟨_, h.next, (data ++ fresh (junk h.next) size.toNat).take size.toNat, hend,
      ⟨?_, nofun, ?_, ?_, hh.new, hh.next_le.trans hnext⟩, prefix_take_append hle _, ?_, hschedule⟩
    · rw [Heap.cell_set, if_pos rfl]
    · rintro obj' ⟨⟩
      rw [Heap.cell_set, if_neg hlt.ne', hcell₁, if_neg hlt'.ne', if_pos rfl]
      exact ⟨rfl, hh.next_le⟩
    · intro n hn hobj'
      have hne' : n ≠ h.next := fun hc => hobj' (congrArg some hc.symm)
      rw [Heap.cell_set, if_neg hn, hcell₁, if_neg hne']
      rcases eq_or_ne n obj with rfl | hother
      · rw [if_pos rfl, h₀.unused n hnew]
      · rw [if_neg hother]
        exact hh.other n hn (by rw [hobj]; exact fun hc => hother (Option.some.inj hc).symm)
    · rw [List.length_take, List.length_append, length_fresh]
      omega
  · obtain ⟨h₂, hstore, hh₂⟩ := hh.lost hobj hnext hcell₁
    refine .inr ⟨h₂, { w with obj := none }, w.smallBuffer, ?_, hh₂, hfalse⟩
    refine (Prog.bind_of_returns hrun _).trans ?_
    exact Prog.bind_of_returns hstore _

/-- **There is room for `size` bytes then**, or there was no memory. -/
theorem Holds.resize (hh : Holds h₀ h writer w data) {size : Int} {overallocate : Bool}
    (hsize : 0 ≤ size) (hmore : (data.length : Int) < size)
    (hfits : wanted size overallocate ≤ ssizeMax - bytesObjectSize) :
    (∃ h' obj data', PyBytesWriter.resize junk writer size overallocate h = (.returns (), h') ∧
        Holds h₀ h' writer { w with obj := some obj } data' ∧ data <+: data' ∧
        (data'.length : Int) = wanted size overallocate ∧ h'.schedule <:+ h.schedule) ∨
      ∃ h' w' data', PyBytesWriter.resize junk writer size overallocate h
          = (.throws noMemory, h') ∧ Holds h₀ h' writer w' data' ∧ false ∈ h.schedule := by
  have hwanted := le_wanted hsize overallocate
  unfold PyBytesWriter.resize
  rw [if_neg (by omega), Prog.bind_of_returns hh.allocated, if_neg (by omega),
    Prog.bind_of_returns (load_run hh.cell)]
  cases hobj : w.obj with
  | none =>
    have hlength : data.length = 256 := by rw [← hh.small hobj, w.length_smallBuffer]
    have hlarge : 256 < wanted size overallocate := by omega
    exact hh.leave junk hobj hlarge hfits
  | some obj => exact hh.extend junk hobj (hmore.trans_le hwanted) hfits

/-! ## Writing -/

/-- The data is overwritten in place. -/
theorem Holds.writeData (hh : Holds h₀ h writer w data) {pos : Nat} {bytes : Bytes}
    (hfit : pos + bytes.length ≤ data.length) :
    ∃ h' w', PyBytesWriter.writeData writer pos bytes h = (.returns (), h') ∧
      Holds h₀ h' writer w' (data.overwrite pos bytes) ∧ w'.size = w.size ∧
      h'.schedule = h.schedule := by
  unfold PyBytesWriter.writeData
  rw [Prog.bind_of_returns (load_run hh.cell)]
  cases hobj : w.obj with
  | some obj =>
    obtain ⟨hcell, hnew⟩ := hh.bytes obj hobj
    have hne := hh.obj_ne hobj
    have hl : (h.cell obj).isSome := by rw [hcell]; rfl
    refine ⟨h.set obj (.bytes (data.overwrite pos bytes)) hl, w, ?_,
      ⟨?_, fun hnull => ?_, ?_, ?_, hh.new, hh.next_le⟩, rfl, rfl⟩
    · refine (Prog.bind_of_returns (loadBytes_run hcell) _).trans ?_
      refine (Prog.bind_of_returns (congrFun (congrArg Prog.lift (copied_of_le hfit)) _) _).trans ?_
      exact Heap.write_of_live _ hl
    · rw [Heap.cell_set, if_neg hne.symm]
      exact hh.cell
    · rw [hobj] at hnull
      cases hnull
    · intro obj' hobj'
      obtain rfl : obj = obj' := Option.some.inj (hobj.symm.trans hobj')
      rw [Heap.cell_set, if_pos rfl]
      exact ⟨rfl, hnew⟩
    · intro n hn hobj'
      have hother : n ≠ obj := fun hc => hobj' (by rw [hobj, hc])
      rw [Heap.cell_set, if_neg hother]
      exact hh.other n hn hobj'
  | none =>
    obtain rfl := hh.small hobj
    have hl : (h.cell writer).isSome := by rw [hh.cell]; rfl
    have hpos : 0 ≤ (pos : Int) ∧ (pos : Int).toNat + bytes.length ≤ w.smallBuffer.length :=
      ⟨Int.natCast_nonneg pos, hfit⟩
    let w' : PyBytesWriter :=
      { smallBuffer := w.smallBuffer.overwrite pos bytes, obj := none, size := w.size,
        length_smallBuffer := (Buffer.length_overwrite hfit).trans w.length_smallBuffer }
    refine ⟨h.set writer (.writer w') hl, w',
      (congrFun (dif_pos hpos) h).trans (Heap.write_of_live _ hl),
      ⟨?_, fun _ => rfl, nofun, ?_, hh.new, hh.next_le⟩, rfl, rfl⟩
    · rw [Heap.cell_set, if_pos rfl]
    · intro n hn _
      rw [Heap.cell_set, if_neg hn]
      exact hh.other n hn (by rw [hobj]; nofun)

/-- What a writer can hold: no encoding is as long as that. -/
def maxLength : Nat := 2 ^ 62

/-- The memory that is asked for when there is no room for `n` bytes. -/
theorem wanted_of_le {n : Nat} (hn : n ≤ maxLength) :
    wanted n true = ((n + n / 4 : Nat) : Int) ∧
      wanted n true ≤ ssizeMax - bytesObjectSize := by
  have hle : n ≤ 4611686018427387904 := hn
  have hmax : ssizeMax = 9223372036854775807 := rfl
  have hsize : bytesObjectSize = 33 := rfl
  have hfits : (n : Int) ≤ ssizeMax - (n : Int) / 4 := by omega
  have hwanted : wanted n true = (n : Int) + (n : Int) / 4 := if_pos hfits
  rw [hwanted]
  constructor <;> omega

/--
The writer has the bytes that were written to it, with room for `capacity` bytes. The other blocks
of memory are as they were.
-/
def Contains (h₀ h : WriterMemory) (writer : Nat) (content : Bytes) (capacity : Nat) : Prop :=
  ∃ w data, Holds h₀ h writer w data ∧ w.size = content.length ∧ content <+: data ∧
    data.length = capacity

/-- `byteswriter_grow`, for `n` bytes in all. -/
theorem Holds.grow (hh : Holds h₀ h writer w data) {m n : Nat} (hsize : w.size = m)
    (hfits : m + n ≤ maxLength) :
    (∃ h' w' data', PyBytesWriter.grow junk writer n h = (.returns (), h') ∧
        Holds h₀ h' writer w' data' ∧ w'.size = (m + n : Nat) ∧ data <+: data' ∧
        m + n ≤ data'.length ∧ h'.schedule <:+ h.schedule ∧
        (data'.length = data.length ∨
          data.length < m + n ∧ data'.length = m + n + (m + n) / 4)) ∨
      ∃ h' w' data', PyBytesWriter.grow junk writer n h = (.throws noMemory, h') ∧
        Holds h₀ h' writer w' data' ∧ false ∈ h.schedule := by
  obtain ⟨hwanted, hwantedle⟩ := wanted_of_le hfits
  have hmax : ssizeMax = 9223372036854775807 := rfl
  have hle : m + n ≤ 4611686018427387904 := hfits
  have hstart : PyBytesWriter.grow junk writer n h = (do
      PyBytesWriter.resize junk writer ((m + n : Nat) : Int) true
      PyBytesWriter.store writer { (← load writer) with size := ((m + n : Nat) : Int) } :
        Prog WriterMemory PyErr Unit) h := by
    unfold PyBytesWriter.grow
    rw [Prog.bind_of_returns (load_run hh.cell), if_neg (by omega), if_neg (by omega), hsize]
    rfl
  rw [hstart]
  by_cases hmore : (data.length : Int) < ((m + n : Nat) : Int)
  · obtain ⟨h₁, obj, data', hrun, hh₁, hinit, hlength, hschedule⟩ |
        ⟨h₁, w', data', hrun, hh₁, hfalse⟩ :=
      hh.resize junk (Int.natCast_nonneg _) hmore hwantedle
    · obtain ⟨h₂, hstore, hh₂, hsame⟩ :=
        hh₁.store { w with obj := some obj, size := ((m + n : Nat) : Int) } rfl rfl
      refine .inl ⟨h₂, _, data', ?_, hh₂, rfl, hinit, by omega, hsame ▸ hschedule, .inr ?_⟩
      · rw [Prog.bind_of_returns hrun, Prog.bind_of_returns (load_run hh₁.cell)]
        exact hstore
      · omega
    · exact .inr ⟨h₁, w', data', Prog.bind_of_throws hrun _, hh₁, hfalse⟩
  · have hrun : PyBytesWriter.resize junk writer ((m + n : Nat) : Int) true h = (.returns (), h) := by
      unfold PyBytesWriter.resize
      rw [if_neg (by omega), Prog.bind_of_returns hh.allocated, if_pos (by omega)]
      rfl
    obtain ⟨h₁, hstore, hh₁, hsame⟩ :=
      hh.store { w with size := ((m + n : Nat) : Int) } rfl rfl
    refine .inl ⟨h₁, _, data, ?_, hh₁, rfl, List.prefix_rfl, by omega, hsame ▸ List.suffix_rfl,
      .inl rfl⟩
    rw [Prog.bind_of_returns hrun, Prog.bind_of_returns (load_run hh.cell)]
    exact hstore

/-- What is behind the content does not matter. -/
theorem prefix_overwrite {content data bytes : Bytes} (hinit : content <+: data)
    (hfit : content.length + bytes.length ≤ data.length) :
    content ++ bytes <+: Buffer.overwrite data content.length bytes := by
  obtain ⟨rest, rfl⟩ := hinit
  rw [Buffer.overwrite, List.take_left]
  exact List.prefix_append _ _

/-- **`PyBytesWriter_WriteBytes` appends**, or there was no memory. -/
theorem Contains.writeBytes {content bytes : Bytes} {capacity : Nat}
    (hc : Contains h₀ h writer content capacity)
    (hfits : (content ++ bytes).length ≤ maxLength) :
    (∃ h' capacity', PyBytesWriter.writeBytes junk writer bytes (Int64.ofNat bytes.length).toInt h
          = (.returns (), h') ∧ Contains h₀ h' writer (content ++ bytes) capacity' ∧
        h'.schedule <:+ h.schedule ∧
        (capacity' = capacity ∨ capacity < (content ++ bytes).length ∧
          capacity' = (content ++ bytes).length + (content ++ bytes).length / 4)) ∨
      ∃ h' w data, PyBytesWriter.writeBytes junk writer bytes (Int64.ofNat bytes.length).toInt h
          = (.throws noMemory, h') ∧ Holds h₀ h' writer w data ∧ false ∈ h.schedule := by
  obtain ⟨w, data, hh, hsize, hinit, rfl⟩ := hc
  rw [List.length_append] at hfits ⊢
  have hle : content.length + bytes.length ≤ 4611686018427387904 := hfits
  have hcast : (Int64.ofNat bytes.length).toInt = bytes.length :=
    Int64.toInt_ofNat_of_lt (by omega)
  have hstart : PyBytesWriter.writeBytes junk writer bytes (Int64.ofNat bytes.length).toInt h = (do
      PyBytesWriter.grow junk writer bytes.length
      if bytes.length ≤ bytes.length then
        PyBytesWriter.writeData writer content.length (bytes.take bytes.length)
      else Prog.fault .undefined : Prog WriterMemory PyErr Unit) h := by
    rw [hcast]
    unfold PyBytesWriter.writeBytes
    rw [if_neg (by omega)]
    refine (Prog.bind_of_returns (load_run hh.cell) _).trans ?_
    rw [hsize]
    rfl
  rw [hstart, if_pos le_rfl, List.take_length]
  obtain ⟨h₁, w₁, data₁, hrun, hh₁, hsize₁, hinit₁, hroom, hschedule, hcapacity⟩ |
      ⟨h₁, w₁, data₁, hrun, hh₁, hfalse⟩ := hh.grow junk hsize hfits
  · obtain ⟨h₂, w₂, hwrite, hh₂, hsame, hschedule₂⟩ := hh₁.writeData hroom
    refine .inl ⟨h₂, data₁.length, ?_, ⟨w₂, _, hh₂, ?_, ?_, ?_⟩, hschedule₂ ▸ hschedule, hcapacity⟩
    · rw [Prog.bind_of_returns hrun]
      exact hwrite
    · rw [hsame, hsize₁, List.length_append]
    · exact prefix_overwrite (hinit.trans hinit₁) hroom
    · exact Buffer.length_overwrite hroom
  · exact .inr ⟨h₁, w₁, data₁, Prog.bind_of_throws hrun _, hh₁, hfalse⟩

/-! ## The beginning and the end -/

/-- `PyBytesWriter_Create(0)` -/
theorem create_run (h : WriterMemory) :
    (h.schedule.headD true = true ∧ ∃ h', create junk 0 h = (.returns h.next, h') ∧
        Contains h h' h.next [] 256 ∧ h'.schedule <:+ h.schedule) ∨
      (h.schedule.headD true = false ∧ create junk 0 h = (.throws noMemory, h.refuse)) := by
  unfold create
  rw [if_neg (lt_irrefl 0)]
  cases hs : h.schedule.headD true with
  | true =>
    let w : PyBytesWriter :=
      { smallBuffer := fresh (junk h.next) 256, obj := none, size := 0,
        length_smallBuffer := length_fresh _ _ }
    refine .inl ⟨rfl, h.alloc (.writer w), Prog.bind_of_returns (Heap.malloc_of_true hs _) _,
      ⟨w, w.smallBuffer, ⟨?_, fun _ => rfl, nofun, ?_, le_rfl, Nat.le_succ _⟩, rfl,
        List.nil_prefix, w.length_smallBuffer⟩, List.tail_suffix _⟩
    · rw [Heap.cell_alloc, if_pos rfl]
    · intro n hn _
      rw [Heap.cell_alloc, if_neg hn]
  | false => exact .inr ⟨rfl, Prog.bind_of_returns (Heap.malloc_of_false hs _) _⟩

/-- The memory of a writer whose object is gone, or was given away. -/
theorem discard_run (hcell : h.cell writer = some (.writer w)) (hnull : w.obj = none)
    (hl : (h.cell writer).isSome) : discard (some writer) h = (.returns (), h.drop writer hl) := by
  rw [discard, Prog.bind_of_returns (load_run hcell), hnull]
  exact Heap.free_of_live hl

/-- **`PyBytesWriter_Discard` gives everything back.** -/
theorem Holds.discard (hh : Holds h₀ h writer w data) :
    ∃ h', PyBytesWriter.discard (some writer) h = (.returns (), h') ∧ Heap.Restored h₀ h' := by
  have hl : (h.cell writer).isSome := by rw [hh.cell]; rfl
  cases hobj : w.obj with
  | none =>
    refine ⟨h.drop writer hl, discard_run hh.cell hobj hl, funext fun n => ?_, hh.next_le⟩
    rw [Heap.cell_drop]
    split
    · rename_i hn
      rw [hn, h₀.unused writer hh.new]
    · rename_i hn
      exact hh.other n hn (by rw [hobj]; nofun)
  | some obj =>
    obtain ⟨hcell, hnew⟩ := hh.bytes obj hobj
    have hne := hh.obj_ne hobj
    have hlobj : (h.cell obj).isSome := by rw [hcell]; rfl
    have hl' : ((h.drop obj hlobj).cell writer).isSome := by
      rw [Heap.cell_drop, if_neg hne.symm]
      exact hl
    refine ⟨(h.drop obj hlobj).drop writer hl', ?_, funext fun n => ?_, hh.next_le⟩
    · rw [PyBytesWriter.discard, Prog.bind_of_returns (load_run hh.cell), hobj]
      refine (Prog.bind_of_returns (Heap.free_of_live hlobj) _).trans ?_
      exact Heap.free_of_live hl'
    · rw [Heap.cell_drop, Heap.cell_drop]
      split
      · rename_i hn
        rw [hn, h₀.unused writer hh.new]
      · rename_i hn
        split
        · rename_i hn'
          rw [hn', h₀.unused obj hnew]
        · rename_i hn'
          exact hh.other n hn (by rw [hobj]; exact fun hc => hn' (Option.some.inj hc).symm)

/-- One object was made, and nothing else is left. -/
structure Made (h₀ h : WriterMemory) (obj : Nat) (content : Bytes) : Prop where
  new : h₀.next ≤ obj
  cell : h.cell = Function.update h₀.cell obj (some (.bytes content))
  next_le : h₀.next ≤ h.next

/-- The writer goes, and the object stays. -/
theorem Made.of_discard {obj : Nat} {content : Bytes}
    (hcell : h.cell writer = some (.writer w)) (hnull : w.obj = none) (hnew : h₀.next ≤ writer)
    (hnext : h₀.next ≤ h.next) (hobj : h.cell obj = some (.bytes content))
    (hnew' : h₀.next ≤ obj) (hother : ∀ n ≠ writer, n ≠ obj → h.cell n = h₀.cell n) :
    ∃ h', discard (some writer) h = (.returns (), h') ∧ Made h₀ h' obj content := by
  have hne : obj ≠ writer := by
    rintro rfl
    rw [hcell] at hobj
    cases hobj
  have hl : (h.cell writer).isSome := by rw [hcell]; rfl
  refine ⟨h.drop writer hl, discard_run hcell hnull hl, hnew', funext fun n => ?_, hnext⟩
  rw [Heap.cell_drop, Function.update_apply]
  rcases eq_or_ne n obj with rfl | hn
  · rw [if_neg hne, if_pos rfl, hobj]
  · rw [if_neg hn]
    rcases eq_or_ne n writer with rfl | hn'
    · rw [if_pos rfl, h₀.unused n hnew]
    · rw [if_neg hn', hother n hn' hn]

/-- The object of the writer is cut to the size of the content. -/
theorem Contains.shrink (hh : Holds h₀ h writer w data) {content : Bytes}
    (hsize : w.size = content.length) (hinit : content <+: data)
    (hfits : content.length ≤ maxLength) {obj : Nat} (hobj : w.obj = some obj) :
    ∃ h₁, h.next ≤ h₁.next ∧
      ((∃ obj', resizeBytes junk obj w.size h = (.returns (some obj'), h₁) ∧ h₀.next ≤ obj' ∧
          obj' ≠ writer ∧ h₁.cell writer = some (.writer w) ∧
          h₁.cell obj' = some (.bytes content) ∧
          ∀ n ≠ writer, n ≠ obj' → h₁.cell n = h₀.cell n) ∨
        (resizeBytes junk obj w.size h = (.returns none, h₁) ∧ false ∈ h.schedule ∧
          ∀ m, h₁.cell m = if m = obj then none else h.cell m)) := by
  obtain ⟨hcell, hnew⟩ := hh.bytes obj hobj
  have hne := hh.obj_ne hobj
  have hlt : writer < h.next := Heap.lt_next_of_isSome (by rw [hh.cell]; rfl)
  have hlt' : obj < h.next := Heap.lt_next_of_isSome (by rw [hcell]; rfl)
  have hother : ∀ n ≠ writer, n ≠ obj → h.cell n = h₀.cell n := fun n hn hn' =>
    hh.other n hn (by rw [hobj]; exact fun hc => hn' (Option.some.inj hc).symm)
  by_cases hsame : (data.length : Int) = w.size
  · have hdata : content = data := hinit.eq_of_length (by omega)
    refine ⟨h, le_rfl, .inl ⟨obj, ?_, hnew, hne, hh.cell, hdata ▸ hcell, hother⟩⟩
    unfold resizeBytes
    rw [Prog.bind_of_returns (loadBytes_run hcell), if_pos hsame]
    rfl
  · have hmax : ssizeMax = 9223372036854775807 := rfl
    have hobject : bytesObjectSize = 33 := rfl
    have hle : content.length ≤ 4611686018427387904 := hfits
    have hshort := hinit.length_le
    obtain ⟨h₁, -, hnext, ⟨hrun, hcell₁⟩ | hlost⟩ :=
      resizeBytes_run junk hcell (by omega) hsame
    · have hnat : w.size.toNat = content.length := by omega
      have htake : (data ++ fresh (junk h.next) w.size.toNat).take w.size.toNat = content := by
        rw [hnat, List.take_append_of_le_length hshort]
        exact (List.prefix_iff_eq_take.mp hinit).symm
      rw [htake] at hcell₁
      refine ⟨h₁, hnext, .inl ⟨h.next, hrun, hh.next_le, hlt.ne', ?_, ?_, fun n hn hn' => ?_⟩⟩
      · rw [hcell₁, if_neg hne.symm, if_neg hlt.ne, hh.cell]
      · rw [hcell₁, if_neg hlt'.ne', if_pos rfl]
      · rw [hcell₁, if_neg hn']
        rcases eq_or_ne n obj with rfl | hn''
        · rw [if_pos rfl, h₀.unused n hnew]
        · rw [if_neg hn'', hother n hn hn'']
    · exact ⟨h₁, hnext, .inr hlost⟩

/-- What `finish` does, but for `PyBytesWriter_Discard`, when the data is in an object. -/
theorem Contains.finish_obj (hh : Holds h₀ h writer w data) {content : Bytes}
    (hsize : w.size = content.length) (hinit : content <+: data)
    (hfits : content.length ≤ maxLength) {obj : Nat} (hobj : w.obj = some obj) :
    let x : Prog WriterMemory PyErr Result := do
      let result ← resizeBytes junk obj w.size
      match result with
      | none => do
        PyBytesWriter.store writer { w with obj := none }
        PyBytesWriter.discard (some writer)
        Prog.throw noMemory
      | some obj => do
        PyBytesWriter.store writer { w with obj := none }
        PyBytesWriter.discard (some writer)
        return .obj obj
    (∃ obj h', x h = (.returns (.obj obj), h') ∧ Made h₀ h' obj content) ∨
      ∃ h', x h = (.throws noMemory, h') ∧ false ∈ h.schedule ∧ Heap.Restored h₀ h' := by
  intro x
  obtain ⟨h₁, hnext, ⟨obj', hrun, hnew, hne, hcell, hbytes, hother⟩ | ⟨hrun, hfalse, hcell⟩⟩ :=
    Contains.shrink junk hh hsize hinit hfits hobj
  · have hl : (h₁.cell writer).isSome := by rw [hcell]; rfl
    have hself : (h₁.set writer (.writer { w with obj := none }) hl).cell writer
        = some (.writer { w with obj := none }) := by rw [Heap.cell_set, if_pos rfl]
    have hkept : (h₁.set writer (.writer { w with obj := none }) hl).cell obj'
        = some (.bytes content) := by rw [Heap.cell_set, if_neg hne, hbytes]
    have hmade : ∃ h₂, PyBytesWriter.discard (some writer)
        (h₁.set writer (.writer { w with obj := none }) hl) = (.returns (), h₂) ∧
          Made h₀ h₂ obj' content :=
      Made.of_discard hself rfl hh.new (hh.next_le.trans hnext) hkept hnew fun n hn hn' => by
        rw [Heap.cell_set, if_neg hn, hother n hn hn']
    obtain ⟨h₂, hdiscard, hmade⟩ := hmade
    refine .inl ⟨obj', h₂, ?_, hmade⟩
    refine (Prog.bind_of_returns hrun _).trans ?_
    refine (Prog.bind_of_returns (Heap.write_of_live _ hl) _).trans ?_
    exact Prog.bind_of_returns hdiscard _
  · obtain ⟨h₂, hstore, hh₂⟩ := hh.lost hobj hnext hcell
    obtain ⟨h₃, hdiscard, hrestored⟩ := hh₂.discard
    refine .inr ⟨h₃, ?_, hfalse, hrestored⟩
    refine (Prog.bind_of_returns hrun _).trans ?_
    refine (Prog.bind_of_returns hstore _).trans ?_
    exact Prog.bind_of_returns hdiscard _

/-- The same when it is in the buffer of the struct. -/
theorem Contains.finish_small (hh : Holds h₀ h writer w data) {content : Bytes}
    (hsize : w.size = content.length) (hinit : content <+: data) (hnull : w.obj = none) :
    let x : Prog WriterMemory PyErr Result := do
      let result ← Prog.catchAll (some <$> fromSize junk w.size) fun _ => return none
      match result with
      | none => do
        PyBytesWriter.discard (some writer)
        Prog.throw noMemory
      | some obj => do
        let b ← Prog.lift (copied (← loadBytes obj) 0 (w.smallBuffer.take w.size.toNat))
        Heap.write obj (.bytes b)
        PyBytesWriter.discard (some writer)
        return .obj obj
    (∃ obj h', x h = (.returns (.obj obj), h') ∧ Made h₀ h' obj content) ∨
      ∃ h', x h = (.throws noMemory, h') ∧ false ∈ h.schedule ∧ Heap.Restored h₀ h' := by
  intro x
  have hmax : ssizeMax = 9223372036854775807 := rfl
  have hobject : bytesObjectSize = 33 := rfl
  have hlength := w.length_smallBuffer
  have hlive : (h.cell writer).isSome := by rw [hh.cell]; rfl
  have hlt := Heap.lt_next_of_isSome hlive
  obtain rfl := hh.small hnull
  have hshort := hinit.length_le
  have hcontent : w.smallBuffer.take w.size.toNat = content := by
    rw [hsize, Int.toNat_natCast]
    exact (List.prefix_iff_eq_take.mp hinit).symm
  have hfits : w.size ≤ ssizeMax - bytesObjectSize := by omega
  obtain hrun | ⟨hrun, hfalse⟩ := fromSize_run junk hfits h
  · have hresult : (Prog.catchAll (some <$> fromSize junk w.size) fun _ => pure none :
        Prog WriterMemory PyErr (Option Nat)) h
          = (.returns (some h.next), h.alloc (.bytes (fresh (junk h.next) w.size.toNat))) :=
      Prog.catchAll_of_returns (Prog.bind_of_returns hrun _) _
    have hnew : (fresh (junk h.next) w.size.toNat).length = content.length := by
      rw [length_fresh, hsize, Int.toNat_natCast]
    generalize fresh (junk h.next) w.size.toNat = b at hresult hnew
    have hcell : (h.alloc (.bytes b)).cell h.next = some (.bytes b) := by
      rw [Heap.cell_alloc, if_pos rfl]
    have hl : ((h.alloc (.bytes b)).cell h.next).isSome := by rw [hcell]; rfl
    have hcopied : copied b 0 (w.smallBuffer.take w.size.toNat) = .returns content := by
      rw [hcontent, ← Int.natCast_zero, copied_of_le (by omega), Buffer.overwrite_all hnew.symm]
    have hself : ((h.alloc (.bytes b)).set h.next (.bytes content) hl).cell writer
        = some (.writer w) := by
      rw [Heap.cell_set, if_neg hlt.ne, Heap.cell_alloc, if_neg hlt.ne, hh.cell]
    have hkept : ((h.alloc (.bytes b)).set h.next (.bytes content) hl).cell h.next
        = some (.bytes content) := by rw [Heap.cell_set, if_pos rfl]
    have hmade : ∃ h₂, PyBytesWriter.discard (some writer)
        ((h.alloc (.bytes b)).set h.next (.bytes content) hl) = (.returns (), h₂) ∧
          Made h₀ h₂ h.next content :=
      Made.of_discard hself hnull hh.new (hh.next_le.trans (Nat.le_succ _)) hkept hh.next_le
        fun n hn hn' => by
          rw [Heap.cell_set, if_neg hn', Heap.cell_alloc, if_neg hn']
          exact hh.other n hn (by rw [hnull]; nofun)
    obtain ⟨h₂, hdiscard, hmade⟩ := hmade
    refine .inl ⟨h.next, h₂, ?_, hmade⟩
    refine (Prog.bind_of_returns hresult _).trans ?_
    refine (Prog.bind_of_returns (loadBytes_run hcell) _).trans ?_
    refine (Prog.bind_of_returns (congrFun (congrArg Prog.lift hcopied) _) _).trans ?_
    refine (Prog.bind_of_returns (Heap.write_of_live _ hl) _).trans ?_
    exact Prog.bind_of_returns hdiscard _
  · have hresult : (Prog.catchAll (some <$> fromSize junk w.size) fun _ => pure none :
        Prog WriterMemory PyErr (Option Nat)) h = (.returns none, h.refuse) :=
      Prog.catchAll_of_throws (Prog.bind_of_throws hrun _) _
    have hh₁ : Holds h₀ h.refuse writer w w.smallBuffer :=
      ⟨hh.cell, hh.small, hh.bytes, hh.other, hh.new, hh.next_le⟩
    obtain ⟨h₂, hdiscard, hrestored⟩ := hh₁.discard
    refine .inr ⟨h₂, ?_, hfalse, hrestored⟩
    refine (Prog.bind_of_returns hresult _).trans ?_
    exact Prog.bind_of_returns hdiscard _

/-- **`PyBytesWriter_Finish` makes an object of the bytes.** -/
theorem Contains.finish {content : Bytes} {capacity : Nat}
    (hc : Contains h₀ h writer content capacity) (hfits : content.length ≤ maxLength) :
    (∃ h', PyBytesWriter.finish junk writer h = (.returns .empty, h') ∧ content = [] ∧
        Heap.Restored h₀ h') ∨
      (∃ obj h', PyBytesWriter.finish junk writer h = (.returns (.obj obj), h') ∧
        Made h₀ h' obj content) ∨
      ∃ h', PyBytesWriter.finish junk writer h = (.throws noMemory, h') ∧ false ∈ h.schedule ∧
        Heap.Restored h₀ h' := by
  obtain ⟨w, data, hh, hsize, hinit, -⟩ := hc
  unfold PyBytesWriter.finish
  rw [Prog.bind_of_returns (load_run hh.cell)]
  by_cases hzero : w.size = 0
  · obtain ⟨h₁, hdiscard, hrestored⟩ := hh.discard
    rw [if_pos hzero]
    refine .inl ⟨h₁, Prog.bind_of_returns hdiscard _, ?_, hrestored⟩
    exact List.length_eq_zero_iff.mp (by omega)
  · rw [if_neg hzero]
    cases hobj : w.obj with
    | none =>
      have hend := Contains.finish_small junk hh hsize hinit hobj
      exact .inr hend
    | some obj =>
      have hend := Contains.finish_obj junk hh hsize hinit hfits hobj
      exact .inr hend

end

end PyBytesWriter

/-! ## `to_bytes` -/

/-- The producer hands the chunks to the callback, and answers zero when all of them were taken. -/
def Drives {σ ε : Type} (writefn : Callback Bytes σ → Prog σ ε Int32) (chunks : List Bytes) :
    Prop :=
  ∀ write s, ∃ answer, writefn write s = (.returns answer, (feed write chunks s).2) ∧
    (answer = 0 ↔ (feed write chunks s).1 = true)

section

variable {σ ε : Type}

theorem scriptPubkey_drives (script : CScript) :
    Drives (Btck.ScriptPubkey.toBytes (some script) : Callback Bytes σ → Prog σ ε Int32)
      [script] := by
  intro write s
  rcases hw : write script s with ⟨r, s'⟩
  have hrun : (Btck.ScriptPubkey.toBytes (some script) write : Prog σ ε Int32) s
      = (.returns r, s') := by
    show ((.returns (write script s).1, (write script s).2) : Outcome ε Int32 × σ) = _
    rw [hw]
  by_cases hr : r = 0
  · subst hr
    exact ⟨0, by rw [hrun, feed_of_taken hw]; rfl, by rw [feed_of_taken hw]; simp [feed]⟩
  · exact ⟨r, by rw [hrun, feed_of_refused hw hr], by rw [feed_of_refused hw hr]; simp [hr]⟩

/-- What the functions of transactions and blocks have in common. -/
theorem stream_drives (chunks : List Bytes) : Drives (fun write : Callback Bytes σ =>
    (Prog.catchAll (do forEach (WriterStream.write write) chunks; pure 0) fun _ => pure (-1) :
      Prog σ ε Int32)) chunks := by
  intro write s
  have hfeed : forEach (WriterStream.write write) chunks s = _ :=
    forEach_offer write ioError chunks s
  rcases hend : feed write chunks s with ⟨all, s'⟩
  rw [hend] at hfeed
  cases all with
  | true =>
    exact ⟨0, Prog.catchAll_of_returns (Prog.bind_of_returns hfeed _) _, by simp⟩
  | false =>
    exact ⟨-1, Prog.catchAll_of_throws (Prog.bind_of_throws hfeed _) _, by simp⟩

end

section

variable (junk : Nat → Nat → UInt8) {writefn : Callback Bytes Writing → Prog Writing PyErr Int32}
  {chunks : List Bytes}

/-- The user data after a chunk was refused. -/
def Refused (h₀ : WriterMemory) (writer : Nat) (s : Writing) : Prop :=
  s.error = some noMemory ∧ s.fault = none ∧ false ∈ h₀.schedule ∧
    ∃ w data, PyBytesWriter.Holds h₀ s.memory writer w data

/-- The user data while all chunks are taken. -/
def Taken (h₀ : WriterMemory) (writer : Nat) (taken : List Bytes) (s : Writing) : Prop :=
  s.error = none ∧ s.fault = none ∧ s.memory.schedule <:+ h₀.schedule ∧
    ∃ capacity, PyBytesWriter.Contains h₀ s.memory writer taken.flatten capacity

/-- The chunks go to the writer, one after the other. -/
theorem feed_writeBytes {h₀ : WriterMemory} {writer : Nat}
    (hfits : chunks.flatten.length ≤ PyBytesWriter.maxLength) {s : Writing}
    (h : Taken h₀ writer [] s) :
    let run := feed (Util.writeBytes junk (some writer)) chunks s
    if run.1 then Taken h₀ writer chunks run.2 else Refused h₀ writer run.2 := by
  refine feed_invariant (Taken h₀ writer) (Refused h₀ writer) (fun taken c s hinit hs => ?_)
    chunks [] s rfl h
  obtain ⟨herror, hfault, hschedule, capacity, hc⟩ := hs
  have hshort : (taken.flatten ++ c).length ≤ PyBytesWriter.maxLength := by
    obtain ⟨rest, rfl⟩ := hinit
    simp only [List.flatten_append, List.length_append, List.flatten_singleton] at hfits ⊢
    omega
  obtain ⟨h', capacity', hrun, hc', hschedule', -⟩ | ⟨h', w, data, hrun, hh, hfalse⟩ :=
    hc.writeBytes junk hshort
  · refine .inl ⟨by rw [Util.writeBytes, hrun], ?_⟩
    rw [Util.writeBytes, hrun]
    refine ⟨herror, hfault, hschedule'.trans hschedule, capacity', ?_⟩
    rw [List.flatten_append, List.flatten_singleton]
    exact hc'
  · have hrefused : (-1 : Int32) ≠ 0 := by decide
    refine .inr ⟨by rw [Util.writeBytes, hrun]; exact hrefused, ?_⟩
    rw [Util.writeBytes, hrun]
    exact ⟨rfl, hfault, hschedule.subset hfalse, w, data, hh⟩

/-- Without a writer, the first chunk is a fault. -/
theorem feed_null (hchunks : chunks ≠ []) {s : Writing} (hfault : s.fault = none) :
    (feed (Util.writeBytes junk none) chunks s).2.fault = some .nullDeref := by
  obtain ⟨c, cs, rfl⟩ := List.exists_cons_of_ne_nil hchunks
  have hw : Util.writeBytes junk none c s = (-1, { s with fault := some .nullDeref }) := by
    rw [Util.writeBytes, hfault]
    rfl
  rw [feed_of_refused hw (by decide)]

/--
What `to_bytes` does, for an object with these bytes. It makes an object of the bytes and leaves
nothing else; or there was no memory, and it leaves nothing. Without memory for the writer itself,
it reads through a null pointer.
-/
def Writes (writefn : Callback Bytes Writing → Prog Writing PyErr Int32) (content : Bytes) : Prop :=
  ∀ h, match Util.toBytes junk writefn h with
    | (.returns .empty, h') => content = [] ∧ Heap.Restored h h'
    | (.returns (.obj obj), h') => PyBytesWriter.Made h h' obj content
    | (.throws e, h') => e = noMemory ∧ false ∈ h.schedule ∧ Heap.Restored h h'
    | (.faults u, _) => u = .nullDeref ∧ h.schedule.headD true = false

theorem toBytes_of_create {h h' : WriterMemory} {writer : Nat} {s : Writing} {answer : Int32}
    (hcreate : PyBytesWriter.create junk 0 h = (.returns writer, h'))
    (hrun : writefn (Util.writeBytes junk (some writer))
      { memory := h', error := none, fault := none } = (.returns answer, s))
    (hfault : s.fault = none) : Util.toBytes junk writefn h
      = if answer ≠ 0 then (do
          PyBytesWriter.discard (some writer)
          Prog.throw (s.error.getD ⟨.systemError, none⟩) :
            Prog WriterMemory PyErr PyBytesWriter.Result) s.memory
        else PyBytesWriter.finish junk writer s.memory := by
  unfold Util.toBytes
  simp only [hcreate, hrun, hfault]

theorem toBytes_of_null {h h' : WriterMemory} {e : PyErr} {s : Writing} {answer : Int32}
    (hcreate : PyBytesWriter.create junk 0 h = (.throws e, h'))
    (hrun : writefn (Util.writeBytes junk none)
      { memory := h', error := some e, fault := none } = (.returns answer, s))
    (hend : s.fault = some .nullDeref ∨ (s.fault = none ∧ answer = 0)) :
    Util.toBytes junk writefn h = (.faults .nullDeref, s.memory) := by
  unfold Util.toBytes
  obtain hfault | ⟨hfault, rfl⟩ := hend
  · simp only [hcreate, hrun, hfault]
  · simp only [hcreate, hrun, hfault]
    rfl

/--
**`to_bytes` makes an object of the bytes**, whatever the chunks and whatever is in new memory.
-/
theorem Drives.writes (hdrives : Drives writefn chunks)
    (hfits : chunks.flatten.length ≤ PyBytesWriter.maxLength) :
    Writes junk writefn chunks.flatten := by
  intro h
  obtain ⟨-, h₁, hcreate, hcontains, hschedule⟩ | ⟨hno, hcreate⟩ := PyBytesWriter.create_run junk h
  · have htaken : Taken h h.next [] { memory := h₁, error := none, fault := none } :=
      ⟨rfl, rfl, hschedule, 256, hcontains⟩
    have hfeed := feed_writeBytes junk hfits htaken
    obtain ⟨answer, hrun, hanswer⟩ := hdrives (Util.writeBytes junk (some h.next))
      { memory := h₁, error := none, fault := none }
    rcases hend : feed (Util.writeBytes junk (some h.next)) chunks
      { memory := h₁, error := none, fault := none } with ⟨all, s⟩
    rw [hend] at hrun hanswer hfeed
    cases all with
    | true =>
      obtain ⟨-, hfault, hschedule', capacity, hc⟩ := hfeed
      rw [toBytes_of_create junk hcreate hrun hfault, if_neg (by simp [hanswer.mpr rfl])]
      obtain ⟨h', hfinish, hempty, hrestored⟩ | ⟨obj, h', hfinish, hmade⟩ |
          ⟨h', hfinish, hfalse, hrestored⟩ := hc.finish junk hfits
      · rw [hfinish]
        exact ⟨hempty, hrestored⟩
      · rw [hfinish]
        exact hmade
      · rw [hfinish]
        exact ⟨rfl, hschedule'.subset hfalse, hrestored⟩
    | false =>
      obtain ⟨herror, hfault, hfalse, w, data, hh⟩ := hfeed
      have hne : answer ≠ 0 := fun hc => Bool.noConfusion (hanswer.mp hc)
      obtain ⟨h', hdiscard, hrestored⟩ := hh.discard
      rw [toBytes_of_create junk hcreate hrun hfault, if_pos hne, Prog.bind_of_returns hdiscard,
        herror]
      exact ⟨rfl, hfalse, hrestored⟩
  · obtain ⟨answer, hrun, hanswer⟩ := hdrives (Util.writeBytes junk none)
      { memory := h.refuse, error := some noMemory, fault := none }
    have hnull := toBytes_of_null junk hcreate hrun
    by_cases hchunks : chunks = []
    · subst hchunks
      rw [hnull (.inr ⟨rfl, hanswer.mpr rfl⟩)]
      exact ⟨rfl, hno⟩
    · rw [hnull (.inl (feed_null junk hchunks rfl))]
      exact ⟨rfl, hno⟩

/-! ## The writer as a list -/

/-- The Python object that `to_bytes` returns. -/
def resultOf (core : BitcoinCore) : Outcome PyErr PyBytesWriter.Result × WriterMemory →
    Outcome PyErr (PyObj core)
  | (.returns .empty, _) => .returns (.bytes [])
  | (.returns (.obj obj), h) =>
    match h.cell obj with
    | some (.bytes b) => .returns (.bytes b)
    | _ => .faults .undefined
  | (.throws e, _) => .throws e
  | (.faults u, _) => .faults u

/-- A world in which only the allocations of CPython may fail. -/
def objectEnv (object : Nat → Bool) : Env where
  native _ := true
  object := object
  grow _ := true
  chars _ := 0
  words := ⟨0, 0, 0, .null⟩

theorem toBytes_of_drives (core : BitcoinCore) (object : Nat → Bool)
    {writefn : Callback Bytes BytesWriter → Prog BytesWriter PyErr Int32}
    (hdrives : Drives writefn chunks) :
    (toBytes (objectEnv object) writefn : Outcome PyErr (PyObj core))
      = if !object 0 then .faults .nullDeref
        else if object 1 then .returns (.bytes chunks.flatten) else .throws noMemory := by
  obtain ⟨answer, hrun, hanswer⟩ := hdrives (writeBytes (objectEnv object).grow)
    { bytes := [], error := none, calls := 0 }
  have htakes : ∀ taken c (s : BytesWriter), taken ++ [c] <+: chunks → s.bytes = taken.flatten →
      ((writeBytes (objectEnv object).grow c s).1 = 0 ∧
        (writeBytes (objectEnv object).grow c s).2.bytes = (taken ++ [c]).flatten) ∨
      ((writeBytes (objectEnv object).grow c s).1 ≠ 0 ∧ False) := by
    intro taken c s _ hs
    rw [List.flatten_append, List.flatten_singleton, ← hs]
    exact .inl ⟨rfl, rfl⟩
  have hfeed := feed_invariant (fun taken (s : BytesWriter) => s.bytes = taken.flatten)
    (fun _ => False) htakes chunks [] ⟨[], none, 0⟩ rfl rfl
  rcases hend : feed (writeBytes (objectEnv object).grow) chunks
    { bytes := [], error := none, calls := 0 } with ⟨all, s⟩
  rw [hend] at hrun hanswer hfeed
  cases all with
  | true =>
    obtain rfl := hanswer.mpr rfl
    have hbytes : s.bytes = chunks.flatten := hfeed
    unfold toBytes
    rw [hrun, ← hbytes]
    rfl
  | false => exact hfeed.elim

/--
The writer of `Btck.Python.ToBytes`, with `writefn'`, can do whatever the writer in memory does,
with `writefn`.
-/
def Refines (core : BitcoinCore) (writefn : Callback Bytes Writing → Prog Writing PyErr Int32)
    (writefn' : Callback Bytes BytesWriter → Prog BytesWriter PyErr Int32) : Prop :=
  ∀ h, ∃ env, toBytes env writefn' = resultOf core (Util.toBytes junk writefn h)

theorem Writes.refines (core : BitcoinCore)
    {writefn' : Callback Bytes BytesWriter → Prog BytesWriter PyErr Int32}
    (hwrites : Writes junk writefn chunks.flatten) (hdrives : Drives writefn' chunks) :
    Refines junk core writefn writefn' := by
  intro h
  have hend := hwrites h
  rcases hrun : Util.toBytes junk writefn h with ⟨out, h'⟩
  rw [hrun] at hend
  cases out with
  | returns result =>
    refine ⟨objectEnv fun _ => true, (toBytes_of_drives core _ hdrives).trans ?_⟩
    cases result with
    | empty =>
      rw [hend.1]
      rfl
    | obj obj =>
      have hcell : h'.cell obj = some (.bytes chunks.flatten) := by
        rw [hend.cell, Function.update_self]
      rw [resultOf, hcell]
      rfl
  | throws e =>
    obtain ⟨rfl, -⟩ := hend
    exact ⟨objectEnv fun n => n == 0, (toBytes_of_drives core _ hdrives).trans rfl⟩
  | faults u =>
    obtain ⟨rfl, -⟩ := hend
    exact ⟨objectEnv fun _ => false, (toBytes_of_drives core _ hdrives).trans rfl⟩

/-! ## What is written -/

/--
**Bytes are written faithfully.** This holds of scripts, transactions and blocks, with the chunks in
which Bitcoin Core serializes them, as long as memory could hold the encoding. The methods of the
module are described with a writer that is a list of bytes, and lose nothing by it.
-/
theorem bytes_written (core : BitcoinCore) :
    (∀ script : CScript, script.length ≤ PyBytesWriter.maxLength →
      Writes junk (Btck.ScriptPubkey.toBytes (some script)) script ∧
      Refines junk core (Btck.ScriptPubkey.toBytes (some script))
        (Btck.ScriptPubkey.toBytes (some script))) ∧
    (∀ tx : core.CTransaction, (core.tx.encode tx).length ≤ PyBytesWriter.maxLength →
      Writes junk (Btck.Transaction.toBytes core (some tx)) (core.tx.encode tx) ∧
      Refines junk core (Btck.Transaction.toBytes core (some tx))
        (Btck.Transaction.toBytes core (some tx))) ∧
    ∀ block : core.CBlock, (core.block.encode block).length ≤ PyBytesWriter.maxLength →
      Writes junk (Btck.Block.toBytes core (some block)) (core.block.encode block) ∧
      Refines junk core (Btck.Block.toBytes core (some block))
        (Btck.Block.toBytes core (some block)) := by
  refine ⟨fun script hfits => ?_, fun tx hfits => ?_, fun block hfits => ?_⟩
  · have hdrives := scriptPubkey_drives (σ := Writing) (ε := PyErr) script
    have hwrites := hdrives.writes junk (by rw [List.flatten_singleton]; exact hfits)
    have hrefines := hwrites.refines junk core (scriptPubkey_drives script)
    rw [List.flatten_singleton] at hwrites
    exact ⟨hwrites, hrefines⟩
  · have hwrites := (stream_drives (core.tx.chunks tx)).writes junk hfits
    exact ⟨hwrites, hwrites.refines junk core (stream_drives (core.tx.chunks tx))⟩
  · have hwrites := (stream_drives (core.block.chunks block)).writes junk hfits
    exact ⟨hwrites, hwrites.refines junk core (stream_drives (core.block.chunks block))⟩

/-- A transaction of the minimal Bitcoin Core. -/
theorem bytes_written_spend :
    Writes (fun _ _ => 0) (Btck.Transaction.toBytes minimalCore (some .spend))
      (minimalCore.tx.encode .spend) ∧
    Refines (fun _ _ => 0) minimalCore (Btck.Transaction.toBytes minimalCore (some .spend))
      (Btck.Transaction.toBytes minimalCore (some .spend)) :=
  (bytes_written (fun _ _ => 0) minimalCore).2.1 .spend (by decide)

/-! ## The cost of growing -/

namespace PyBytesWriter

/-- The bytes that a writer has room for. -/
def capacity (writer : Nat) (h : WriterMemory) : Nat :=
  match allocated writer h with
  | (.returns n, _) => n.toNat
  | _ => 0

/-- The bytes that are moved from one buffer to the next while chunks are written. -/
def moved (writer : Nat) : List Bytes → WriterMemory → Nat
  | [], _ => 0
  | c :: cs, h =>
    match writeBytes junk writer c (Int64.ofNat c.length).toInt h with
    | (.returns (), h') =>
      (if capacity writer h' = capacity writer h then 0 else capacity writer h) + moved writer cs h'
    | _ => 0

theorem capacity_eq {h₀ h : WriterMemory} {writer n : Nat} {content : Bytes}
    (hc : Contains h₀ h writer content n) : capacity writer h = n := by
  obtain ⟨w, data, hh, -, -, rfl⟩ := hc
  rw [capacity, hh.allocated]
  rfl

/-- The memory that a writer has got pays for the moves. -/
theorem moved_le {h₀ : WriterMemory} {writer : Nat} : ∀ (chunks : List Bytes) {h : WriterMemory}
    {content : Bytes} {n : Nat}, Contains h₀ h writer content n →
    (content ++ chunks.flatten).length ≤ maxLength →
    moved junk writer chunks h + 4 * n ≤ max (4 * n) (5 * (content ++ chunks.flatten).length) := by
  intro chunks
  induction chunks with
  | nil =>
    intro h content n hc hfits
    rw [moved, Nat.zero_add]
    exact le_max_left _ _
  | cons c cs ih =>
    intro h content n hc hfits
    have hflatten : content ++ (c :: cs).flatten = (content ++ c) ++ cs.flatten := by simp
    rw [hflatten] at hfits ⊢
    have hshort : (content ++ c).length ≤ (content ++ c ++ cs.flatten).length := by simp
    obtain ⟨h', n', hrun, hc', -, hgrown⟩ | ⟨h', w, data, hrun, -⟩ :=
      hc.writeBytes junk (hshort.trans hfits)
    · have hrest := ih hc' hfits
      have hstep : moved junk writer (c :: cs) h
          = (if n' = n then 0 else n) + moved junk writer cs h' := by
        rw [moved, hrun, ← capacity_eq hc, ← capacity_eq hc']
      rw [hstep]
      obtain rfl | ⟨hmore, rfl⟩ := hgrown
      · rw [if_pos rfl, Nat.zero_add]
        exact hrest
      · split <;> omega
    · rw [moved, hrun, Nat.zero_add]
      exact le_max_left _ _

/--
**To write takes linear time.** However the bytes come in chunks, those that are moved when the
writer grows are no more than five times the bytes that are written.
-/
theorem moved_linear {h h' : WriterMemory} {writer : Nat} (chunks : List Bytes)
    (hcreate : create junk 0 h = (.returns writer, h'))
    (hfits : chunks.flatten.length ≤ maxLength) :
    moved junk writer chunks h' ≤ 5 * chunks.flatten.length := by
  obtain ⟨-, h₁, hrun, hc, -⟩ | ⟨-, hrun⟩ := create_run junk h
  · cases hrun.symm.trans hcreate
    have hle := moved_le junk chunks hc (by rw [List.nil_append]; exact hfits)
    rw [List.nil_append] at hle
    omega
  · cases hrun.symm.trans hcreate

/-- Twenty chunks of forty bytes. -/
theorem moved_linear_chunks : moved (fun _ _ => 0) 0 (List.replicate 20 (List.replicate 40 1))
      (create (fun _ _ => 0) 0 (Heap.empty [])).2
    ≤ 5 * (List.replicate 20 (List.replicate 40 1) : List Bytes).flatten.length := by
  have hcreate : create (fun _ _ => 0) 0 (Heap.empty [])
      = (.returns 0, (create (fun _ _ => 0) 0 (Heap.empty [])).2) := rfl
  have hlength : (List.replicate 20 (List.replicate 40 1) : List Bytes).flatten.length = 800 := by
    rw [List.flatten_replicate_replicate, List.length_replicate]
  exact moved_linear _ _ hcreate (by rw [hlength, maxLength]; omega)

end PyBytesWriter

end

end Btck.Python
