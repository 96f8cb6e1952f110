import Btck.Infra.Triple
import Mathlib.Data.Multiset.AddSub
import Mathlib.Data.Multiset.Count

/-!
# A ledger of resources

What a program acquires and gives back is written down in the order in which it happens. `settle`
adds it up, and fails when something is given back that is not held. So in a ledger that settles
nothing was given back twice, and what is left at the end has not been given back at all.

* `Posting`, `settle` — ledgers
* `Held` — what is held in a state, as an assertion for triples
* `Settles` — programs that keep what they return and nothing else
-/

namespace Infra

variable {ρ : Type}

/-- An entry of a ledger. -/
inductive Posting (ρ : Type) where
  | acquire (r : ρ)
  | release (r : ρ)
  deriving DecidableEq, Repr

variable [DecidableEq ρ]

/-- What is held after the postings. -/
def settle : List (Posting ρ) → Multiset ρ → Option (Multiset ρ)
  | [], held => some held
  | .acquire r :: ps, held => settle ps (r ::ₘ held)
  | .release r :: ps, held => if r ∈ held then settle ps (held.erase r) else none

theorem settle_append (ps qs : List (Posting ρ)) :
    ∀ held : Multiset ρ, settle (ps ++ qs) held = (settle ps held).bind (settle qs) := by
  induction ps with
  | nil => intro _; rfl
  | cons p ps ih =>
    intro held
    cases p with
    | acquire r => exact ih (r ::ₘ held)
    | release r =>
      rw [List.cons_append, settle, settle]
      split
      · exact ih (held.erase r)
      · rfl

/-- **Nothing is lost**: what was held or acquired is held, or has been released. -/
theorem count_of_settle : ∀ {ps : List (Posting ρ)} {held held' : Multiset ρ},
    settle ps held = some held' → ∀ r, held.count r + ps.count (.acquire r)
      = held'.count r + ps.count (.release r)
  | [], held, held', h, r => by
    rw [settle, Option.some.injEq] at h
    simp [h]
  | .acquire a :: ps, held, held', h, r => by
    have hs : settle ps (a ::ₘ held) = some held' := h
    have hrest := count_of_settle hs r
    rcases eq_or_ne a r with rfl | ha
    · rw [Multiset.count_cons_self] at hrest
      rw [List.count_cons_self, List.count_cons_of_ne (by simp)]
      omega
    · rw [Multiset.count_cons_of_ne ha.symm] at hrest
      rw [List.count_cons_of_ne (by simpa using ha), List.count_cons_of_ne (by simp)]
      exact hrest
  | .release a :: ps, held, held', h, r => by
    rw [settle] at h
    split at h
    · rename_i hmem
      have hrest := count_of_settle h r
      rcases eq_or_ne a r with rfl | ha
      · have hpos := Multiset.count_pos.mpr hmem
        rw [Multiset.count_erase_self] at hrest
        rw [List.count_cons_self, List.count_cons_of_ne (by simp)]
        omega
      · rw [Multiset.count_erase_of_ne ha.symm] at hrest
        rw [List.count_cons_of_ne (by simp), List.count_cons_of_ne (by simpa using ha)]
        exact hrest
    · cases h

/-! ## Programs -/

variable {σ ε α β : Type} (log : σ → List (Posting ρ))

/-- The ledger of the state settles, and this is what is held. -/
def Held (held : Multiset ρ) (s : σ) : Prop := settle (log s) 0 = some held

/--
A program that holds `held` when it returns and nothing when it does not. What was held before is
still held.
-/
def Settles (x : Prog σ ε α) (held : α → Multiset ρ) : Prop :=
  ∀ m, Triple (Held log m) x
    ⟨fun a => Held log (held a + m), fun _ => Held log m, fun _ => Held log m⟩

variable {log}

namespace Held

variable {m m' : Multiset ρ} {s s' : σ} {r : ρ}

theorem unique (h : Held log m s) (h' : Held log m' s) : m = m' :=
  Option.some.inj (h.symm.trans h')

theorem acquire (h : Held log m s) (hlog : log s' = log s ++ [.acquire r]) :
    Held log (r ::ₘ m) s' := by
  have hs : settle (log s) 0 = some m := h
  rw [Held, hlog, settle_append, hs]
  rfl

theorem release (h : Held log (r ::ₘ m) s) (hlog : log s' = log s ++ [.release r]) :
    Held log m s' := by
  have hs : settle (log s) 0 = some (r ::ₘ m) := h
  rw [Held, hlog, settle_append, hs, Option.bind_some, settle, if_pos (Multiset.mem_cons_self r m),
    Multiset.erase_cons_head, settle]

end Held

namespace Settles

variable {held : β → Multiset ρ}

theorem bind {x : Prog σ ε α} {f : α → Prog σ ε β} (hx : Settles log x fun _ => 0)
    (hf : ∀ a, Settles log (f a) held) : Settles log (x >>= f) held := fun m =>
  Triple.bind (hx m) fun a => by rw [Multiset.zero_add]; exact hf a m

theorem pure {b : β} (h : held b = 0) : Settles log (Pure.pure b : Prog σ ε β) held := fun m =>
  Triple.pure fun _ hs => by rw [h, Multiset.zero_add]; exact hs

theorem throw (e : ε) : Settles log (Prog.throw e) held := fun _ => Triple.throw fun _ hs => hs

theorem fault (u : Fault) : Settles log (Prog.fault u : Prog σ ε β) held := fun _ =>
  Triple.fault fun _ hs => hs

theorem lift {x : Outcome ε β} (h : ∀ b, x = .returns b → held b = 0) :
    Settles log (Prog.lift x) held := fun _ =>
  Triple.lift (fun b _ hb hs => by rw [h b hb, Multiset.zero_add]; exact hs) (fun _ _ _ hs => hs)
    fun _ _ _ hs => hs

end Settles

end Infra
