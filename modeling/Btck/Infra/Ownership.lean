import Mathlib.Logic.Function.Basic
import Mathlib.Tactic.Common

/-!
# Exclusive ownership

Some resources are live, and every owner holds at most one resource. `Exclusive` says that the
two sides match: what is live is held, what is held is live, and nobody shares.

* `transfer`, `acquire`, `release` — the changes that keep it
-/

namespace Infra

variable {ι α : Type}

/-- The live resources and those that somebody owns are the same, and each has one owner. -/
structure Exclusive (live : α → Bool) (owns : ι → Option α) : Prop where
  live_iff : ∀ a, live a = true ↔ ∃ i, owns i = some a
  unique : ∀ i j a, owns i = some a → owns j = some a → i = j

namespace Exclusive

variable {live : α → Bool} {owns : ι → Option α} {i j : ι} {a : α}

theorem empty : Exclusive (fun _ : α => false) (fun _ : ι => none) where
  live_iff := by simp
  unique := by simp

theorem live_of_owns (h : Exclusive live owns) (hi : owns i = some a) : live a = true :=
  (h.live_iff a).mpr ⟨i, hi⟩

theorem not_owns_of_dead (h : Exclusive live owns) (ha : live a = false) : owns i ≠ some a := by
  intro hi
  rw [h.live_of_owns hi] at ha
  simp at ha

section

variable [DecidableEq ι]

/-- What one owner has goes to another one that has nothing. -/
theorem transfer (h : Exclusive live owns) (hij : i ≠ j) (hi : owns i = none) :
    Exclusive live (Function.update (Function.update owns j none) i (owns j)) where
  live_iff := by
    intro b
    rw [h.live_iff]
    constructor
    · rintro ⟨k, hk⟩
      by_cases hkj : k = j
      · exact ⟨i, by rw [Function.update_self, ← hkj, hk]⟩
      · have hki : k ≠ i := by
          rintro rfl
          rw [hi] at hk
          simp at hk
        exact ⟨k, by rw [Function.update_of_ne hki, Function.update_of_ne hkj, hk]⟩
    · rintro ⟨k, hk⟩
      by_cases hki : k = i
      · rw [hki, Function.update_self] at hk
        exact ⟨j, hk⟩
      · rw [Function.update_of_ne hki] at hk
        by_cases hkj : k = j
        · rw [hkj, Function.update_self] at hk
          simp at hk
        · rw [Function.update_of_ne hkj] at hk
          exact ⟨k, hk⟩
  unique := by
    -- Move every owner back to where its resource came from.
    have hback : ∀ k b, Function.update (Function.update owns j none) i (owns j) k = some b →
        k = i ∧ owns j = some b ∨ k ≠ i ∧ k ≠ j ∧ owns k = some b := by
      intro k b hk
      by_cases hki : k = i
      · rw [hki, Function.update_self] at hk
        exact .inl ⟨hki, hk⟩
      · rw [Function.update_of_ne hki] at hk
        by_cases hkj : k = j
        · rw [hkj, Function.update_self] at hk
          simp at hk
        · rw [Function.update_of_ne hkj] at hk
          exact .inr ⟨hki, hkj, hk⟩
    intro k l b hk hl
    rcases hback k b hk with ⟨hk, hkb⟩ | ⟨-, hkj, hkb⟩ <;>
      rcases hback l b hl with ⟨hl, hlb⟩ | ⟨-, hlj, hlb⟩
    · rw [hk, hl]
    · exact absurd (h.unique l j b hlb hkb) hlj
    · exact absurd (h.unique k j b hkb hlb) hkj
    · exact h.unique k l b hkb hlb

variable [DecidableEq α]

/-- Somebody who owns nothing takes a resource that is not live. -/
theorem acquire (h : Exclusive live owns) (hi : owns i = none) (ha : live a = false) :
    Exclusive (Function.update live a true) (Function.update owns i (some a)) where
  live_iff := by
    intro b
    by_cases hb : b = a
    · subst hb
      simpa using ⟨i, Function.update_self ..⟩
    · rw [Function.update_of_ne hb, h.live_iff]
      constructor
      · rintro ⟨k, hk⟩
        have hki : k ≠ i := by
          rintro rfl
          rw [hi] at hk
          simp at hk
        exact ⟨k, by rw [Function.update_of_ne hki, hk]⟩
      · rintro ⟨k, hk⟩
        by_cases hki : k = i
        · subst hki
          rw [Function.update_self] at hk
          exact absurd (Option.some.inj hk).symm hb
        · exact ⟨k, by rw [← hk, Function.update_of_ne hki]⟩
  unique := by
    intro k l b hk hl
    by_cases hki : k = i <;> by_cases hli : l = i
    · rw [hki, hli]
    · -- an old owner cannot have what was not live
      rw [hki, Function.update_self] at hk
      rw [Function.update_of_ne hli, ← hk] at hl
      exact absurd hl (h.not_owns_of_dead ha)
    · rw [hli, Function.update_self] at hl
      rw [Function.update_of_ne hki, ← hl] at hk
      exact absurd hk (h.not_owns_of_dead ha)
    · rw [Function.update_of_ne hki] at hk
      rw [Function.update_of_ne hli] at hl
      exact h.unique k l b hk hl

/-- An owner gives its resource back, and it is no longer live. -/
theorem release (h : Exclusive live owns) (hi : owns i = some a) :
    Exclusive (Function.update live a false) (Function.update owns i none) where
  live_iff := by
    intro b
    by_cases hb : b = a
    · subst hb
      rw [Function.update_self]
      constructor
      · intro hc
        simp at hc
      · rintro ⟨k, hk⟩
        by_cases hki : k = i
        · rw [hki, Function.update_self] at hk
          simp at hk
        · -- nobody else can have owned it
          rw [Function.update_of_ne hki] at hk
          exact absurd (h.unique k i b hk hi) hki
    · rw [Function.update_of_ne hb, h.live_iff]
      constructor
      · rintro ⟨k, hk⟩
        have hki : k ≠ i := by
          rintro rfl
          exact hb (Option.some.inj (hk.symm.trans hi))
        exact ⟨k, by rw [Function.update_of_ne hki, hk]⟩
      · rintro ⟨k, hk⟩
        have hki : k ≠ i := by
          rintro rfl
          rw [Function.update_self] at hk
          simp at hk
        exact ⟨k, by rw [← hk, Function.update_of_ne hki]⟩
  unique := by
    intro k l b hk hl
    have hki : k ≠ i := by
      rintro rfl
      rw [Function.update_self] at hk
      simp at hk
    have hli : l ≠ i := by
      rintro rfl
      rw [Function.update_self] at hl
      simp at hl
    rw [Function.update_of_ne hki] at hk
    rw [Function.update_of_ne hli] at hl
    exact h.unique k l b hk hl

end

end Exclusive

end Infra
