import Btck.Infra.Outcome

/-!
# A producer that feeds a callback

A C callback takes a chunk and its user data and answers zero for success. A producer hands it
one chunk after the other and stops, with an exception of its own, when an answer is not zero.

* `traced` — the same callback, with a log of its calls and answers in the user data
* `Delivery` — what may be read off such a log
* `feed`, `feed_invariant` — what a callback keeps as long as it takes the chunks
* `feed_delivery` — feeding delivers, whatever the callback does
-/

namespace Infra

variable {χ σ ε : Type}

/-- A callback with user data of type `σ`. -/
abbrev Callback (χ σ : Type) := χ → σ → Int32 × σ

/-- A callback that also writes down what it was called with and what it answered. -/
def traced (write : Callback χ σ) : Callback χ (σ × List (χ × Int32)) := fun chunk s =>
  let (answer, user) := write chunk s.1
  (answer, (user, s.2 ++ [(chunk, answer)]))

/-- Call the callback, and throw `e` when it refuses. -/
def offer (write : Callback χ σ) (e : ε) (chunk : χ) : Prog σ ε Unit := fun s =>
  let (answer, s') := write chunk s
  if answer ≠ 0 then (.throws e, s') else (.returns (), s')

/-- Do the same for every element in order. -/
def forEach (f : χ → Prog σ ε Unit) : List χ → Prog σ ε Unit
  | [] => pure ()
  | c :: cs => do
    f c
    forEach f cs

/-- Hand over the chunks until one is refused. Were all of them taken? -/
def feed (write : Callback χ σ) : List χ → σ → Bool × σ
  | [], s => (true, s)
  | c :: cs, s =>
    let (answer, s') := write c s
    if answer ≠ 0 then (false, s') else feed write cs s'

/-- The log of a delivery that was asked to hand over `chunks`, and that ended well or not. -/
structure Delivery (chunks : List χ) (log : List (χ × Int32)) (ok : Prop) : Prop where
  /-- The calls are a prefix of the chunks, in order. -/
  is_prefix : log.map Prod.fst <+: chunks
  /-- Nothing follows the first refusal. -/
  stops : ∀ before c answer after, log = before ++ (c, answer) :: after → answer ≠ 0 → after = []
  /-- The end is good exactly when every chunk was taken. -/
  ok_iff : ok ↔ log.map Prod.fst = chunks ∧ ∀ entry ∈ log, entry.2 = 0

theorem offer_of_refused {write : Callback χ σ} {e : ε} {c : χ} {s s' : σ} {r : Int32}
    (hw : write c s = (r, s')) (hr : r ≠ 0) : offer write e c s = (.throws e, s') := by
  simp [offer, hw, hr]

theorem offer_of_taken {write : Callback χ σ} {e : ε} {c : χ} {s s' : σ}
    (hw : write c s = (0, s')) : offer write e c s = (.returns (), s') := by
  simp [offer, hw]

theorem feed_of_refused {write : Callback χ σ} {c : χ} {cs : List χ} {s s' : σ} {r : Int32}
    (hw : write c s = (r, s')) (hr : r ≠ 0) : feed write (c :: cs) s = (false, s') := by
  simp [feed, hw, hr]

theorem feed_of_taken {write : Callback χ σ} {c : χ} {cs : List χ} {s s' : σ}
    (hw : write c s = (0, s')) : feed write (c :: cs) s = feed write cs s' := by
  simp [feed, hw]

/-- A loop of offers feeds the callback. -/
theorem forEach_offer (write : Callback χ σ) (e : ε) : ∀ (chunks : List χ) (s : σ),
    forEach (offer write e) chunks s
      = (if (feed write chunks s).1 then .returns () else .throws e, (feed write chunks s).2)
  | [], _ => rfl
  | c :: cs, s => by
    rcases hw : write c s with ⟨r, s'⟩
    by_cases hr : r = 0
    · subst hr
      rw [forEach, Prog.bind_of_returns (offer_of_taken hw), forEach_offer write e cs s',
        feed_of_taken hw]
    · rw [forEach, Prog.bind_of_throws (offer_of_refused hw hr), feed_of_refused hw hr]
      rfl

/--
**The invariant rule.** The callback keeps `inv`, which may speak of the chunks that it has taken,
or it refuses a chunk and leaves `left`.
-/
theorem feed_invariant {write : Callback χ σ} (inv : List χ → σ → Prop) (left : σ → Prop)
    {chunks : List χ} (hstep : ∀ taken c s, taken ++ [c] <+: chunks → inv taken s →
      ((write c s).1 = 0 ∧ inv (taken ++ [c]) (write c s).2) ∨
      ((write c s).1 ≠ 0 ∧ left (write c s).2)) :
    ∀ (cs taken : List χ) (s : σ), taken ++ cs = chunks → inv taken s →
      if (feed write cs s).1 then inv chunks (feed write cs s).2 else left (feed write cs s).2
  | [], taken, s, htaken, h => by
    rw [← htaken, List.append_nil]
    exact h
  | c :: cs, taken, s, htaken, h => by
    have hstart : taken ++ [c] <+: chunks := ⟨cs, by rw [← htaken]; simp⟩
    rcases hw : write c s with ⟨r, s'⟩
    have hcase := hstep taken c s hstart h
    rw [hw] at hcase
    obtain ⟨hr, hinv⟩ | ⟨hr, hleft⟩ := hcase
    · obtain rfl : r = 0 := hr
      rw [feed_of_taken hw]
      exact feed_invariant inv left hstep cs (taken ++ [c]) s' (by rw [← htaken]; simp) hinv
    · rw [feed_of_refused hw hr]
      exact hleft

theorem traced_of {write : Callback χ σ} {c : χ} {s s' : σ} {r : Int32}
    (hw : write c s = (r, s')) (log : List (χ × Int32)) :
    traced write c (s, log) = (r, (s', log ++ [(c, r)])) := by
  simp [traced, hw]

namespace Delivery

variable {chunks : List χ} {log : List (χ × Int32)} {ok ok' : Prop}

theorem nil (hok : ok) : Delivery ([] : List χ) [] ok where
  is_prefix := List.prefix_rfl
  stops := by simp
  ok_iff := by simp [hok]

/-- One chunk that was refused. -/
theorem refused (c : χ) (cs : List χ) {r : Int32} (hr : r ≠ 0) (hok : ¬ ok) :
    Delivery (c :: cs) [(c, r)] ok where
  is_prefix := by simp
  stops := by
    intro before c' answer after heq _
    cases before with
    | nil => exact (List.cons.inj heq).2.symm
    | cons _ _ => simp at heq
  ok_iff := by simp [hok, hr]

/-- One chunk that was taken, and then the others. -/
theorem taken (c : χ) (hd : Delivery chunks log ok) : Delivery (c :: chunks) ((c, 0) :: log) ok where
  is_prefix := by simpa using hd.is_prefix
  stops := by
    intro before c' answer after heq hne
    cases before with
    | nil =>
      obtain ⟨hentry, -⟩ := List.cons.inj heq
      exact absurd (congrArg Prod.snd hentry).symm hne
    | cons b bs => exact hd.stops bs c' answer after (List.cons.inj heq).2 hne
  ok_iff := by simpa using hd.ok_iff

theorem congr (hd : Delivery chunks log ok) (h : ok' ↔ ok) : Delivery chunks log ok' where
  is_prefix := hd.is_prefix
  stops := hd.stops
  ok_iff := h.trans hd.ok_iff

end Delivery

/--
**Feeding delivers.** The traced callback sees a delivery of the chunks, and tracing changes
neither the end nor what becomes of the user data.
-/
theorem feed_delivery (write : Callback χ σ) (e : ε) : ∀ (chunks : List χ) (s : σ)
    (log₀ : List (χ × Int32)), ∃ out s' log,
      forEach (offer (traced write) e) chunks (s, log₀) = (out, (s', log₀ ++ log)) ∧
      forEach (offer write e) chunks s = (out, s') ∧
      (out = .returns () ∨ out = .throws e) ∧ Delivery chunks log (out = .returns ())
  | [], s, log₀ => ⟨.returns (), s, [], by simp [forEach], rfl, .inl rfl, .nil rfl⟩
  | c :: cs, s, log₀ => by
    rcases hw : write c s with ⟨r, s₁⟩
    have hwt := traced_of hw log₀
    by_cases hr : r = 0
    · subst hr
      obtain ⟨out, s', log, ht, hp, hout, hd⟩ := feed_delivery write e cs s₁ (log₀ ++ [(c, 0)])
      refine ⟨out, s', (c, 0) :: log, ?_, ?_, hout, hd.taken c⟩
      · rw [forEach, Prog.bind_of_returns (offer_of_taken hwt), ht]
        simp
      · rw [forEach, Prog.bind_of_returns (offer_of_taken hw), hp]
    · refine ⟨.throws e, s₁, [(c, r)], ?_, ?_, .inr rfl, .refused c cs hr (by simp)⟩
      · rw [forEach, Prog.bind_of_throws (offer_of_refused hwt hr)]
      · rw [forEach, Prog.bind_of_throws (offer_of_refused hw hr)]

end Infra
