import Btck.Minimal
import Btck.Properties.Index
import Btck.Python.Slice

/-!
# Views and lists

A view should be its list: the same length, the same element for every integer, the same order of
iteration, and the same exceptions. What a view shows is followed from the root down through every
slice; what keeps the two apart is the `item` field of a slice of a view, which nobody sets.

* `Window` — which list a view shows, and whether all its `item` fields happen to be null
* `item_of_clean`, `item_of_stale` — what an access does
* `view_isList_iff` — when a chain of slices gives the same as on a list
-/

namespace Btck.Python

open Infra

variable {core : BitcoinCore}

/-! ## What is to be shown -/

/-- No allocation fails, be it one of the C library or one of CPython. -/
structure Env.Ample (env : Env) : Prop where
  native : ∀ n, env.native n = true
  object : ∀ n, env.object n = true

/-- Memory for everything; a new `_Slice` finds the given word in its `item` field. -/
def Env.leaving (item : ItemFn) : Env where
  native _ := true
  object _ := true
  grow _ := true
  chars _ := 0
  words := { length := 0, start := 0, step := 0, item := item }

theorem Env.ample_leaving (item : ItemFn) : (Env.leaving item).Ample := ⟨fun _ => rfl, fun _ => rfl⟩

/-- Both return, and the results are related, or both raise an exception of the same class. -/
def Agree {α β : Type} (rel : α → β → Prop) : Outcome PyErr α → Outcome PyErr β → Prop
  | .returns a, .returns b => rel a b
  | .throws e, .throws e' => e.type = e'.type
  | _, _ => False

/-- The object `view` behaves as the Python list `list` does. -/
structure IsList (view : PyObj core) (list : List (PyObj core)) : Prop where
  len : Slice.length view = list.length
  item : ∀ (env : Env), env.Ample → ∀ (k : Int) (s : State),
    Agree (· = ·) (Slice.subscript env view (.int k) s).1 (PyList.getItem list k)
  iteration : ∀ (env : Int → Env), (∀ i, (env i).Ample) → ∀ s : State,
    (Slice.iterate env view 0 s).1 = .returns list

/-- The two attributes that are views. -/
inductive Container (core : BitcoinCore) where
  | outputs (tx : core.CTransaction)
  | transactions (block : core.CBlock)

namespace Container

/-- The attribute's value. -/
def view (env : Env) : Container core → Prog State PyErr (PyObj core)
  | outputs tx => Transaction.getOutputs core env (some tx)
  | transactions block => Block.getTransactions core env (some block)

/-- The object that holds them. -/
def obj : Container core → PyObj core
  | outputs tx => .transaction (some tx)
  | transactions block => .block (some block)

def itemFn : Container core → ItemFn
  | outputs _ => .outputsItem
  | transactions _ => .transactionsItem

/-- The Python list of its elements. -/
def elements : Container core → List (PyObj core)
  | outputs tx => (core.vout tx).toList.map fun out => .transactionOutput (some out)
  | transactions block => (core.vtx block).toList.map fun tx => .transaction (some tx)

theorem length_elements_lt (c : Container core) : c.elements.length < ptrdiffMax := by
  cases c with
  | outputs tx => simpa [elements] using (core.vout tx).size_lt
  | transactions block => simpa [elements] using (core.vtx block).size_lt

end Container

/--
The list that a view shows. `clean` says that the `item` field of every slice of a view was null in
the memory it was built in.
-/
inductive Window : PyObj core → List (PyObj core) → Bool → Prop where
  | root (c : Container core) {words : SliceWords} (length : words.length = c.elements.length)
      (item : words.item = c.itemFn) : Window (.slice c.obj words) c.elements true
  | part {self : PyObj core} {list part : List (PyObj core)} {clean : Bool} {words : SliceWords}
      (window : Window self list clean) (length : words.length = part.length)
      (short : part.length ≤ list.length)
      (inside : ∀ i : Nat, i < part.length →
        (0 ≤ words.start + i * words.step ∧ words.start + i * words.step < list.length) ∧
        part[i]? = list[(words.start + i * words.step).toNat]?) :
      Window (.slice self words) part (clean && decide (words.item = .null))

namespace Window

variable {view : PyObj core} {list : List (PyObj core)} {clean : Bool}

theorem length_eq (h : Window view list clean) : Slice.length view = list.length := by
  cases h with
  | root c length item => exact length
  | part window length short inside => exact length

theorem length_lt (h : Window view list clean) : list.length < ptrdiffMax := by
  induction h with
  | root c length item => exact c.length_elements_lt
  | part window length short inside ih => omega

theorem exists_slice (h : Window view list clean) : ∃ obj words, view = .slice obj words := by
  cases h <;> exact ⟨_, _, rfl⟩

end Window

/-! ## `item` -/

section

variable {env : Env}

/-- Outside the view, `item` raises `IndexError`, whatever the view was built from. -/
theorem item_of_out {view : PyObj core} {list : List (PyObj core)} {clean : Bool}
    (h : Window view list clean) {idx : Int} (hout : ¬ (0 ≤ idx ∧ idx < list.length)) (s : State) :
    Slice.item env view idx s = (.throws ⟨.indexError, some "index out of range"⟩, s) := by
  have hlen := h.length_eq
  obtain ⟨obj, words, rfl⟩ := h.exists_slice
  have hlen : words.length = list.length := hlen
  rw [Slice.item, if_pos (by omega)]
  rfl

/-- Inside the view, `item` gets past its check. -/
theorem item_of_in {obj : PyObj core} {words : SliceWords} {list : List (PyObj core)} {clean : Bool}
    (h : Window (.slice obj words) list clean) {i : Nat} (hi : i < list.length) :
    Slice.item env (.slice obj words) i =
      if words.item ≠ .null then Slice.callItem env words.item obj i
      else (do
        let offset ← Prog.lift (ssize (i * words.step))
        let idx ← Prog.lift (ssize (words.start + offset))
        Slice.item env obj idx) := by
  have hlen : words.length = list.length := h.length_eq
  rw [Slice.item, if_neg (by omega)]

/-- An index into a vector survives its way through `size_t`. -/
theorem toNat_index {i : Nat} (h : i < ptrdiffMax) : (Int64.ofInt i).toUInt64.toNat = i := by
  unfold ptrdiffMax at h
  have hcast := toNat_toUInt64 (Int64.ofInt i)
  rw [Int64.toInt_ofInt_of_le (by omega) (by omega)] at hcast
  omega

/-- So an element is found where the list has it. -/
theorem get_index {ε α : Type} (v : Vec α) {i : Nat} (hi : i < v.toList.length) :
    (v.get (Int64.ofInt i).toUInt64.toNat : Outcome ε α) = .returns (v.toList.get ⟨i, hi⟩) := by
  rw [toNat_index (Nat.lt_trans hi v.size_lt), Vec.get_of_lt hi]

theorem newValue_run (he : env.Ample) (o : PyObj core) (s : State) :
    newValue env o s = (.returns o, s) := by
  rw [newValue, if_pos (he.object 0)]
  rfl

/-- A handle is copied, and the copy gets its object. -/
theorem copy_run (he : env.Ample) {α : Type} (x : α) {wrap : Option α → PyObj core}
    {f : Option α × Option ErrorPtr → Prog State PyErr (PyObj core)}
    (hf : f (some x, none) = newObject env wrap (some x)) (s : State) :
    ∃ s', (do pass (some x); create (Api.copy (env.native 0) (some x) true) >>= f) s
      = (.returns (wrap (some x)), s') := by
  rw [he.native 0, Prog.bind_of_returns (pass_run _ s)]
  have hcopy : ∀ t, ∃ s', (create (Api.copy true (some x) true) : Prog State PyErr _) t
      = (.returns (some x, none), s') := fun _ => ⟨_, rfl⟩
  obtain ⟨s', hs'⟩ := hcopy _
  refine ⟨s', ?_⟩
  rw [Prog.bind_of_returns hs', hf, newObject, if_pos (he.object 0)]
  rfl

/-- An element of the root is copied out of its transaction or block. -/
theorem callItem_root (he : env.Ample) (c : Container core) {i : Nat} (hi : i < c.elements.length)
    (s : State) :
    ∃ s', Slice.callItem env c.itemFn c.obj i s = (.returns (c.elements.get ⟨i, hi⟩), s') := by
  cases c with
  | outputs tx =>
    have hi' : i < (core.vout tx).toList.length := by simpa [Container.elements] using hi
    have hget : (Btck.Transaction.getOutput core (some tx) (Int64.ofInt i).toUInt64 :
        Outcome PyErr _) = .returns (some ((core.vout tx).toList.get ⟨i, hi'⟩)) := by
      show ((core.vout tx).get (Int64.ofInt i).toUInt64.toNat >>= _) = _
      rw [get_index _ hi']
      rfl
    have hcall : Slice.callItem env (Container.outputs tx).itemFn (Container.outputs tx).obj i
      = Transaction.outputsItem core env (some tx) i := rfl
    rw [hcall, Transaction.outputsItem, hget, Prog.bind_of_returns (pass_run _ s),
      Prog.bind_of_returns (Prog.lift_run _ _)]
    have helement : (Container.outputs tx).elements.get ⟨i, hi⟩
      = .transactionOutput (some ((core.vout tx).toList.get ⟨i, hi'⟩)) := by
      simp [Container.elements]
    rw [helement]
    exact copy_run he _ rfl _
  | transactions block =>
    have hi' : i < (core.vtx block).toList.length := by simpa [Container.elements] using hi
    have hget : (Btck.Block.getTransaction core (some block) (Int64.ofInt i).toUInt64 :
        Outcome PyErr _) = .returns (some ((core.vtx block).toList.get ⟨i, hi'⟩)) := by
      show ((core.vtx block).get (Int64.ofInt i).toUInt64.toNat >>= _) = _
      rw [get_index _ hi']
      rfl
    have hcall : Slice.callItem env (Container.transactions block).itemFn
      (Container.transactions block).obj i = Block.transactionsItem core env (some block) i := rfl
    rw [hcall, Block.transactionsItem, hget, Prog.bind_of_returns (pass_run _ s),
      Prog.bind_of_returns (Prog.lift_run _ _)]
    have helement : (Container.transactions block).elements.get ⟨i, hi⟩
      = .transaction (some ((core.vtx block).toList.get ⟨i, hi'⟩)) := by
      simp [Container.elements]
    rw [helement]
    exact copy_run he _ rfl _

theorem ssize_of_isSsize {ε : Type} {n : Int} (h : IsSsize n) :
    (ssize n : Outcome ε Int) = .returns n := if_pos h

/-- Inside a part, `item` with a null `item` field asks the view that it is a part of. -/
theorem item_of_part {self : PyObj core} {list part : List (PyObj core)} {clean : Bool}
    {words : SliceWords} (window : Window self list clean) (length : words.length = part.length)
    (short : part.length ≤ list.length)
    (inside : ∀ i : Nat, i < part.length →
      (0 ≤ words.start + i * words.step ∧ words.start + i * words.step < list.length) ∧
      part[i]? = list[(words.start + i * words.step).toNat]?)
    (hnull : words.item = .null) {i : Nat} (hi : i < part.length) (s : State) :
    Slice.item env (.slice self words) i s
      = Slice.item env self ((words.start + i * words.step).toNat : Nat) s := by
  have hlt := window.length_lt
  have hpart : Window (.slice self words) part _ := .part window length short inside
  -- the first element and the element asked for are both in the list, so their distance fits
  obtain ⟨hfirst, -⟩ := inside 0 (by omega)
  obtain ⟨hhere, -⟩ := inside i hi
  unfold ptrdiffMax at hlt
  have hoffset : IsSsize (i * words.step) := by
    unfold IsSsize ssizeMin ssizeMax
    omega
  have hidx : IsSsize (words.start + i * words.step) := by
    unfold IsSsize ssizeMin ssizeMax
    omega
  rw [item_of_in hpart hi, if_neg (by simp [hnull]), ssize_of_isSsize hoffset,
    Prog.bind_of_returns (Prog.lift_run _ _), ssize_of_isSsize hidx,
    Prog.bind_of_returns (Prog.lift_run _ _), Int.toNat_of_nonneg hhere.1]

/-- **Where no `item` field was left over, `item` gives the element of the list.** -/
theorem item_of_clean (he : env.Ample) {view : PyObj core} {list : List (PyObj core)} {clean : Bool}
    (h : Window view list clean) (hclean : clean = true) {i : Nat} (hi : i < list.length)
    (s : State) : ∃ s', Slice.item env view i s = (.returns (list.get ⟨i, hi⟩), s') := by
  induction h generalizing i s with
  | root c length item =>
    have hset : c.itemFn ≠ .null := by cases c <;> simp [Container.itemFn]
    rw [item_of_in (.root c length item) hi, if_pos (by rw [item]; exact hset), item]
    exact callItem_root he c hi s
  | @part self list part clean words window length short inside ih =>
    rw [Bool.and_eq_true, decide_eq_true_eq] at hclean
    obtain ⟨⟨h0, hlt⟩, hget⟩ := inside i hi
    obtain ⟨s', hrun⟩ := ih hclean.1 (i := (words.start + i * words.step).toNat) (by omega) s
    refine ⟨s', ?_⟩
    rw [item_of_part window length short inside hclean.2 hi, hrun]
    rw [List.getElem?_eq_getElem hi, List.getElem?_eq_getElem (by omega), Option.some.injEq] at hget
    simp [hget]

/-- **Where one was left over, every element that is asked for leads into it.** -/
theorem item_of_stale {view : PyObj core} {list : List (PyObj core)} {clean : Bool}
    (h : Window view list clean) (hstale : clean = false) {i : Nat} (hi : i < list.length)
    (s : State) : Slice.item env view i s = (.faults .undefined, s) := by
  induction h generalizing i s with
  | root c length item => simp at hstale
  | @part self list part clean words window length short inside ih =>
    obtain ⟨⟨h0, hlt⟩, -⟩ := inside i hi
    by_cases hnull : words.item = .null
    · -- the call is handed on to the view that this is a part of
      rw [item_of_part window length short inside hnull hi]
      exact ih (by simpa [hnull] using hstale) (by omega) s
    · -- the callback is called with a view instead of a transaction or a block
      rw [item_of_in (.part window length short inside) hi, if_pos hnull]
      obtain ⟨obj, words', rfl⟩ := window.exists_slice
      cases words.item <;> rfl

/-! ## `subscript` and iteration -/

/-- A subscription by an integer checks it, counts from the end where it is negative, and asks
`item`. -/
theorem subscript_int {view : PyObj core} {list : List (PyObj core)} {clean : Bool}
    (h : Window view list clean) {k : Int} (hk : IsSsize k) (s : State) :
    Slice.subscript env view (.int k) s
      = Slice.item env view (if k < 0 then k + list.length else k) s := by
  have hlen := h.length_eq
  have hlt := h.length_lt
  unfold ptrdiffMax at hlt
  have hcall : Slice.subscript env view (.int k) = Slice.subscriptIndex env view k := rfl
  have hindex : PyNumber.asSsize_t k = .returns k := if_pos hk
  rw [hcall, Slice.subscriptIndex, hindex, Prog.bind_of_returns (Prog.lift_run _ s), hlen]
  by_cases hneg : k < 0
  · have hsum : IsSsize (k + list.length) := by
      unfold IsSsize ssizeMin ssizeMax at *
      omega
    rw [if_pos hneg, if_pos hneg, ssize_of_isSsize hsum,
      Prog.bind_of_returns (Prog.lift_run _ s)]
  · rw [if_neg hneg, if_neg hneg, Prog.pure_bind_run]

/-- An integer that no `Py_ssize_t` can hold is out of range for every list. -/
theorem subscript_int_big {view : PyObj core} {k : Int} (hk : ¬ IsSsize k) (s : State) :
    Slice.subscript env view (.int k) s
      = (.throws ⟨.indexError, some "cannot fit 'int' into an index-sized integer"⟩, s) := by
  have hcall : Slice.subscript env view (.int k) = Slice.subscriptIndex env view k := rfl
  have hindex : PyNumber.asSsize_t k
    = .throws ⟨.indexError, some "cannot fit 'int' into an index-sized integer"⟩ := if_neg hk
  rw [hcall, Slice.subscriptIndex, hindex, Prog.bind_of_throws (Prog.lift_run _ s)]

theorem getItem_of_in {list : List (PyObj core)} {k : Int} {i : Nat}
    (hk : (if k < 0 then k + list.length else k) = i) (hi : i < list.length) :
    PyList.getItem list k = .returns (list.get ⟨i, hi⟩) := by
  unfold PyList.getItem
  dsimp only
  rw [hk, if_neg (by omega), Int.toNat_natCast, List.getElem?_eq_getElem hi]
  rfl

theorem getItem_of_out {list : List (PyObj core)} {k : Int}
    (hk : ¬ (0 ≤ (if k < 0 then k + list.length else k) ∧
      (if k < 0 then k + list.length else k) < list.length)) :
    PyList.getItem list k = .throws ⟨.indexError, some "list index out of range"⟩ := by
  unfold PyList.getItem
  dsimp only
  generalize (if k < 0 then k + (list.length : Int) else k) = j at hk
  by_cases hneg : j < 0
  · rw [if_pos hneg]
  · rw [if_neg hneg, List.getElem?_eq_none (by omega)]

variable {view : PyObj core} {list : List (PyObj core)} {clean : Bool}

/-- Every integer subscript agrees with the list, once `item` does inside the view. -/
theorem agree_item (h : Window view list clean)
    (hitem : ∀ (i : Nat) (hi : i < list.length) (s : State),
      ∃ s', Slice.item env view i s = (.returns (list.get ⟨i, hi⟩), s')) (k : Int) (s : State) :
    Agree (· = ·) (Slice.subscript env view (.int k) s).1 (PyList.getItem list k) := by
  have hlt := h.length_lt
  unfold ptrdiffMax at hlt
  by_cases hk : IsSsize k
  · rw [subscript_int h hk]
    by_cases hin : 0 ≤ (if k < 0 then k + (list.length : Int) else k) ∧
        (if k < 0 then k + (list.length : Int) else k) < list.length
    · obtain ⟨i, hi⟩ := Int.eq_ofNat_of_zero_le hin.1
      have hlen : i < list.length := by omega
      obtain ⟨s', hrun⟩ := hitem i hlen s
      rw [getItem_of_in hi hlen, hi, hrun]
      rfl
    · rw [getItem_of_out hin, item_of_out h hin]
      rfl
  · have hout : ¬ (0 ≤ (if k < 0 then k + (list.length : Int) else k) ∧
        (if k < 0 then k + (list.length : Int) else k) < list.length) := by
      unfold IsSsize ssizeMin ssizeMax at hk
      split <;> omega
    rw [subscript_int_big hk, getItem_of_out hout]
    rfl

/-- The iterator goes on behind an element. -/
theorem iterate_of_returns {env : Int → Env} {idx : Int} {o : PyObj core} {s s' s'' : State}
    {os : List (PyObj core)} (hitem : Slice.item (env idx) view idx s = (.returns o, s'))
    (hrest : Slice.iterate env view (idx + 1) s' = (.returns os, s'')) :
    Slice.iterate env view idx s = (.returns (o :: os), s'') := by
  rw [Slice.iterate]
  split
  · rename_i o' t heq
    rw [hitem] at heq
    obtain ⟨rfl, rfl⟩ : o = o' ∧ s' = t := by simpa using heq
    rw [hrest]
  all_goals
    rename_i heq
    rw [hitem] at heq
    simp at heq

/-- It stops at the first `IndexError`. -/
theorem iterate_of_indexError {env : Int → Env} {idx : Int} {e : PyErr} {s s' : State}
    (hitem : Slice.item (env idx) view idx s = (.throws e, s')) (he : e.type = .indexError) :
    Slice.iterate env view idx s = (.returns [], s') := by
  rw [Slice.iterate]
  split
  · rename_i heq
    rw [hitem] at heq
    simp at heq
  · rename_i e' t heq
    rw [hitem] at heq
    obtain ⟨rfl, rfl⟩ : e = e' ∧ s' = t := by simpa using heq
    rw [if_pos he]
  · rename_i heq
    rw [hitem] at heq
    simp at heq

/-- Iteration from an index on gives the rest of the list. -/
theorem iterate_eq (h : Window view list clean) {env : Int → Env}
    (hitem : ∀ (i : Nat) (hi : i < list.length) (s : State),
      ∃ s', Slice.item (env i) view i s = (.returns (list.get ⟨i, hi⟩), s')) :
    ∀ (n i : Nat), i + n = list.length → ∀ s : State,
      ∃ s', Slice.iterate env view i s = (.returns (list.drop i), s')
  | 0, i, hn, s => by
    have hend : Slice.item (env i) view i s = _ := item_of_out h (by omega) s
    exact ⟨s, by rw [iterate_of_indexError hend rfl, List.drop_of_length_le (by omega)]⟩
  | n + 1, i, hn, s => by
    have hi : i < list.length := by omega
    obtain ⟨s', hrun⟩ := hitem i hi s
    obtain ⟨s'', hrest⟩ := iterate_eq h hitem n (i + 1) (by omega) s'
    refine ⟨s'', ?_⟩
    rw [iterate_of_returns hrun hrest, List.drop_eq_getElem_cons hi]
    rfl

/-- **A view whose elements can all be read is its list.** -/
theorem isList_of_items (h : Window view list clean)
    (hitem : ∀ (env : Env), env.Ample → ∀ (i : Nat) (hi : i < list.length) (s : State),
      ∃ s', Slice.item env view i s = (.returns (list.get ⟨i, hi⟩), s')) : IsList view list where
  len := h.length_eq
  item env he := agree_item h (hitem env he)
  iteration env he s := by
    obtain ⟨s', hrun⟩ := iterate_eq h (fun i => hitem (env i) (he i) i) list.length 0 (by omega) s
    exact congrArg Prod.fst hrun

/--
A view with an element and a left-over `item` field is not a list: the first element shows it.
-/
theorem not_isList_of_stale (h : Window view list false) (hne : list ≠ []) :
    ¬ IsList view list := by
  intro hlist
  have hpos := List.length_pos_iff.mpr hne
  have hfirst := hlist.item _ (Env.ample_leaving .null) 0 ⟨Heap.empty [], []⟩
  have hfault : Slice.item (.leaving .null) view (0 : Nat) ⟨Heap.empty [], []⟩ = _ :=
    item_of_stale h rfl hpos ⟨Heap.empty [], []⟩
  rw [subscript_int h (by decide), if_neg (by decide)] at hfirst
  rw [Int.ofNat_zero] at hfault
  rw [hfault] at hfirst
  exact hfirst

/-! ## Slices of views -/

/-- A `filterMap` that drops nothing keeps the positions. -/
theorem filterMap_of_isSome {α β : Type} {f : α → Option β} : ∀ {l : List α},
    (∀ a ∈ l, (f a).isSome) →
      (l.filterMap f).length = l.length ∧ ∀ i : Nat, (l.filterMap f)[i]? = l[i]?.bind f
  | [], _ => by simp
  | a :: l, hsome => by
    obtain ⟨b, hb⟩ := Option.isSome_iff_exists.mp (hsome a (by simp))
    obtain ⟨hlen, hget⟩ := filterMap_of_isSome (l := l) fun x hx => hsome x (by simp [hx])
    rw [List.filterMap_cons_some hb]
    refine ⟨by simp [hlen], ?_⟩
    intro i
    cases i with
    | zero => simp [hb]
    | succ i => simpa using hget i

/-- The elements that a walk along the list passes. -/
theorem getSlice_of_indices {s : Slice} {start stop step : Int}
    (hindices : PyList.indices list.length s = .returns (start, stop, step))
    (hinside : ∀ k : Nat, k < Progression.count start stop step →
      0 ≤ start + k * step ∧ start + k * step < list.length) :
    ∃ part, PyList.getSlice list s = .returns part ∧
      part.length = Progression.count start stop step ∧
      ∀ k : Nat, k < Progression.count start stop step →
        part[k]? = list[(start + k * step).toNat]? := by
  have hsome : ∀ i ∈ Progression.members start stop step, (list[i.toNat]?).isSome := by
    intro i hi
    obtain ⟨k, hk, rfl⟩ : ∃ k, k < Progression.count start stop step ∧ start + k * step = i := by
      simpa [Progression.members] using hi
    have hin := hinside k hk
    rw [List.getElem?_eq_getElem (by omega)]
    rfl
  obtain ⟨hlen, hget⟩ := filterMap_of_isSome hsome
  refine ⟨_, ?_, hlen.trans Progression.length_members, ?_⟩
  · unfold PyList.getSlice
    rw [hindices]
    rfl
  · intro k hk
    rw [hget]
    simp [Progression.members, hk]

/--
**A subscription by a slice object** raises what the list raises, or gives a view of the part that
the list gives. Its `item` field is what the memory held.
-/
theorem subscript_slice {env : Env} (he : env.Ample) (h : Window view list clean) (s : Slice)
    (st : State) :
    (∃ e, PyList.getSlice list s = .throws e ∧
      Slice.subscript env view (.sliceObject s) st = (.throws e, st)) ∨
    ∃ words part, PyList.getSlice list s = .returns part ∧
      Slice.subscript env view (.sliceObject s) st = (.returns (.slice view words), st) ∧
      words.item = env.words.item ∧
      Window (.slice view words) part (clean && decide (words.item = .null)) := by
  have hlt := h.length_lt
  unfold ptrdiffMax at hlt
  have h0 : (0 : Int) ≤ list.length := Int.natCast_nonneg _
  have hmax : (list.length : Int) ≤ ssizeMax := by
    unfold ssizeMax
    omega
  have hcall : Slice.subscript env view (.sliceObject s) = Slice.subscriptSlice env view s := rfl
  rw [hcall, Slice.subscriptSlice, h.length_eq]
  rcases unpack_walks h0 hmax s with ⟨e, hu, hl⟩ | ⟨u, start, stop, step, hu, hl, hw⟩
  · refine .inl ⟨e, ?_, ?_⟩
    · unfold PyList.getSlice
      rw [hl]
      rfl
    · rw [hu, Prog.bind_of_throws (Prog.lift_run _ st)]
  · have hstart : (PySlice.adjustIndices list.length u).1 = start := hw.start_eq
    have hcount := hw.count_eq h0 hmax
    obtain ⟨part, hslice, hlen, hget⟩ := getSlice_of_indices hl fun k hk => (hw.member h0 hmax hk).2
    -- what `subscript` writes; the `item` field is not among it
    let words : SliceWords :=
      { env.words with
        length := (PySlice.adjustIndices list.length u).2.2
        start := (PySlice.adjustIndices list.length u).1
        step := u.step }
    refine .inr ⟨words, part, hslice, ?_, ?_, .part h ?_ ?_ ?_⟩
    · rw [hu, Prog.bind_of_returns (Prog.lift_run _ st)]
      exact newValue_run he _ st
    · rfl
    · show (PySlice.adjustIndices list.length u).2.2 = _
      rw [hcount, hlen]
    · have hle := Progression.count_le start stop step
      have hspan := hw.span_le h0
      omega
    · intro i hi
      obtain ⟨heq, hin⟩ := hw.member h0 hmax (hlen ▸ hi)
      -- the step that is stored may be a clipped one, and passes the same elements
      have hplace : words.start + i * words.step = start + i * step := by
        rw [← heq, ← hstart]
      rw [hplace]
      exact ⟨hin, hget i (hlen ▸ hi)⟩

/-- A size that a vector can have survives its way through `size_t`. -/
theorem toInt_size {n : Nat} (h : n < ptrdiffMax) : (UInt64.ofNat n).toInt64.toInt = n := by
  unfold ptrdiffMax at h
  have hnat : (UInt64.ofNat n).toNat = n := by
    rw [UInt64.toNat_ofNat']
    omega
  rw [toInt_toInt64, hnat, if_pos (by omega)]

/-- The attribute gives the view of all elements. -/
theorem view_run {env : Env} (he : env.Ample) (c : Container core) (st : State) :
    ∃ v st', c.view env st = (.returns v, st') ∧ Window v c.elements true := by
  cases c with
  | outputs tx =>
    let words : SliceWords :=
      { env.words with
        length := (UInt64.ofNat (core.vout tx).size).toInt64.toInt
        item := .outputsItem }
    have hrun : Transaction.getOutputs core env (some tx) st
        = (.returns (.slice (.transaction (some tx)) words), _) := newValue_run he _ _
    refine ⟨_, _, hrun, .root (.outputs tx) ?_ rfl⟩
    exact (toInt_size (core.vout tx).size_lt).trans (by simp [Container.elements])
  | transactions block =>
    let words : SliceWords :=
      { env.words with
        length := (UInt64.ofNat (core.vtx block).size).toInt64.toInt
        item := .transactionsItem }
    have hrun : Block.getTransactions core env (some block) st
        = (.returns (.slice (.block (some block)) words), _) := newValue_run he _ _
    refine ⟨_, _, hrun, .root (.transactions block) ?_ rfl⟩
    exact (toInt_size (core.vtx block).size_lt).trans (by simp [Container.elements])

/--
A chain of slices raises what the chain on the list raises, or ends in a view of the list that it
ends in there. It is clean if and only if no new view found a word in its `item` field.
-/
theorem subscripts_run : ∀ (args : List (Env × Slice)), (∀ p ∈ args, p.1.Ample) →
    ∀ {view : PyObj core} {list : List (PyObj core)} {clean : Bool}, Window view list clean →
    ∀ st : State,
      (∃ e, PyList.getSlices list (args.map Prod.snd) = .throws e ∧
        Slice.subscripts view args st = (.throws e, st)) ∨
      ∃ v part, PyList.getSlices list (args.map Prod.snd) = .returns part ∧
        Slice.subscripts view args st = (.returns v, st) ∧
        Window v part (clean && args.all fun p => decide (p.1.words.item = .null))
  | [], _, view, list, clean, h, st => .inr ⟨view, list, rfl, rfl, by simpa using h⟩
  | (env, s) :: args, hample, view, list, clean, h, st => by
    have hcall : Slice.subscripts view ((env, s) :: args)
      = (Slice.subscript env view (.sliceObject s) >>= fun v => Slice.subscripts v args) := rfl
    have hlist : PyList.getSlices list (s :: args.map Prod.snd)
      = (PyList.getSlice list s >>= fun l => PyList.getSlices l (args.map Prod.snd)) := rfl
    rw [List.map_cons, hcall, hlist]
    rcases subscript_slice (hample (env, s) (by simp)) h s st with
      ⟨e, hl, hv⟩ | ⟨words, part, hl, hv, hitem, hpart⟩
    · refine .inl ⟨e, ?_, Prog.bind_of_throws hv _⟩
      rw [hl]
      rfl
    · rw [hl, Prog.bind_of_returns hv, Outcome.returns_bind, List.all_cons, ← Bool.and_assoc]
      rw [hitem] at hpart
      exact subscripts_run args (fun p hp => hample p (by simp [hp])) hpart st

/-- A chain of slices of an attribute. -/
def Container.slices (c : Container core) (env : Env) (args : List (Env × Slice)) :
    Prog State PyErr (PyObj core) := do
  let view ← c.view env
  Slice.subscripts view args

/--
**A chain of slices gives the same as on a list, if and only if** the list is empty at its end, or
the `item` field of every view that a slice made was null in the memory it was built in. (Where the
chain on the list raises, there is nothing to ask for.)
-/
theorem view_isList_iff (c : Container core) {env : Env} (he : env.Ample)
    (args : List (Env × Slice)) (hample : ∀ p ∈ args, p.1.Ample) (st : State) :
    Agree IsList (c.slices env args st).1 (PyList.getSlices c.elements (args.map Prod.snd)) ↔
      ∀ list, PyList.getSlices c.elements (args.map Prod.snd) = .returns list →
        list = [] ∨ ∀ p ∈ args, p.1.words.item = .null := by
  obtain ⟨v, st', hview, hw⟩ := view_run he c st
  have hcall : c.slices env args st = Slice.subscripts v args st' := Prog.bind_of_returns hview _
  rw [hcall]
  rcases subscripts_run args hample hw st' with ⟨e, hl, hv⟩ | ⟨w, part, hl, hv, hpart⟩
  · rw [hl, hv]
    simp [Agree]
  · rw [hl, hv]
    have hclean : (args.all fun p => decide (p.1.words.item = .null)) = true ↔
        ∀ p ∈ args, p.1.words.item = .null := by simp
    rw [Bool.true_and] at hpart
    simp only [Agree, Outcome.returns.injEq, forall_eq', ← hclean]
    generalize (args.all fun p => decide (p.1.words.item = .null)) = clean at hpart
    constructor
    · intro hlist
      cases clean with
      | true => exact .inr rfl
      | false =>
        -- an element that is there cannot be read
        exact .inl (by_contra fun hne => not_isList_of_stale hpart hne hlist)
    · rintro (rfl | rfl)
      · exact isList_of_items hpart fun _ _ i hi => absurd hi (Nat.not_lt_zero i)
      · exact isList_of_items hpart fun env he i hi s => item_of_clean he hpart rfl hi s

end

/-! ## A copy of a view -/

/-- The slice object of `[:]`. -/
def wholeSlice : Slice := ⟨.none, .none, .none⟩

/-- In zeroed memory, `tx.outputs[:]` is the list of the outputs. -/
theorem view_isList_zeroed :
    Agree IsList
      ((Container.outputs .spend : Container minimalCore).slices (.leaving .null)
        [(.leaving .null, wholeSlice)] ⟨Heap.empty [], []⟩).1
      (PyList.getSlices (Container.outputs .spend : Container minimalCore).elements [wholeSlice]) :=
  (view_isList_iff (Container.outputs .spend : Container minimalCore) (Env.ample_leaving .null)
    [(.leaving .null, wholeSlice)] (by simp [Env.ample_leaving]) ⟨Heap.empty [], []⟩).mpr
    fun _ _ => .inr (by simp [Env.leaving])

/-- **In any other memory, `tx.outputs[:][0]` calls whatever the memory held.** -/
theorem view_calls_leftover :
    ((do
      let view ← (Container.outputs .spend : Container minimalCore).slices (.leaving .null)
        [(.leaving (.other 1), wholeSlice)]
      Slice.subscript (.leaving .null) view (.int 0)) ⟨Heap.empty [], []⟩).1 = .faults .undefined ∧
    ¬ Agree IsList
      ((Container.outputs .spend : Container minimalCore).slices (.leaving .null)
        [(.leaving (.other 1), wholeSlice)] ⟨Heap.empty [], []⟩).1
      (PyList.getSlices (Container.outputs .spend : Container minimalCore).elements [wholeSlice]) := by
  refine ⟨rfl, ?_⟩
  intro hagree
  exact (hagree.item (.leaving .null) (Env.ample_leaving .null) 0 ⟨Heap.empty [], []⟩)

end Btck.Python
