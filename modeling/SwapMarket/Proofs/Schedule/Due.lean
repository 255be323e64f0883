import SwapMarket.Schedule.Due
import SwapMarket.Proofs.Run
import Mathlib.Data.Option.Basic

/-!
# What two times say about an item

Of the builds of an item only the last attempt and the last success are noted. An item is ready
(**`IsReady`**) once the time to live is over since the success, and the retry interval since an
attempt after the success. `isDue` finds out whether it is (`isDue_eq_ok`) if the durations that it
looks at end within the calendar, and only then (**`EndsInCalendar`**, `exists_isDue_iff`).
-/

namespace SwapMarket.Schedule

/-- An item may be built again: its time to live is over, and so is the retry interval since an
attempt after the last success. -/
def IsReady (ttl retry : Nat) (s : Stamps) (now : Int) : Prop :=
  (∀ c ∈ s.lastBuilt, c + ttl ≤ now) ∧
    ∀ a ∈ s.lastAttempt, (∀ c ∈ s.lastBuilt, c < a) → a + retry ≤ now

/-- The notes leave room for durations up to the last second of the calendar. -/
structure HasRoom (ttl retry : Nat) (s : Stamps) : Prop where
  /-- The time to live ends. -/
  ttl : ∀ c ∈ s.lastBuilt, c + ttl ≤ greatestTime
  /-- The retry interval ends. -/
  retry : ∀ a ∈ s.lastAttempt, a + retry ≤ greatestTime

/-- A duration that is not too long is itself. -/
theorem duration_of_le {n : Nat} (h : n ≤ greatestDuration) : duration n = n := if_pos h

/-- A duration that ends within the calendar is counted as it is. -/
theorem le_greatestDuration {now : Int} {n : Nat} (hnow : 0 ≤ now) (h : now + n ≤ greatestTime) :
    n ≤ greatestDuration := by
  unfold greatestTime at h
  unfold greatestDuration
  omega

/-- A later time is found exactly if it is in range. -/
theorem later_ok_iff {t u : Int} {n : Nat} :
    later t n = .ok u ↔ t + n ≤ greatestTime ∧ t + n = u := by
  unfold later
  split <;> simp_all

variable {ttl retry : Nat} {s : Stamps} {now : Int}

/-- What an attempt says about an item that was never built. -/
theorem isDue_attempted (ttl retry : Nat) (a now : Int) :
    isDue ttl retry ⟨none, some a⟩ now
      = (later a (duration retry)).map fun t => decide (t ≤ now) := rfl

/-- While an item is fresh it is not due, and then what the last attempt says counts. -/
theorem isDue_built (ttl retry : Nat) (c : Int) (attempt : Option Int) (now : Int) :
    isDue ttl retry ⟨some c, attempt⟩ now = (later c (duration ttl) >>= fun t =>
      if now < t then .ok false
      else
        match attempt with
        | some a =>
          if c < a then (later a (duration retry)).map fun t => decide (t ≤ now) else .ok true
        | none => .ok true) := by
  unfold isDue
  dsimp only
  cases later c (duration ttl) with
  | error e => rfl
  | ok t => cases attempt <;> by_cases h : now < t <;> simp [Except.map, h]

/-- An item is due if and only if it is ready. -/
theorem isDue_eq_ok (ht : ttl ≤ greatestDuration) (hr : retry ≤ greatestDuration) {due : Bool}
    (h : isDue ttl retry s now = .ok due) : due = true ↔ IsReady ttl retry s now := by
  obtain ⟨built, attempt⟩ := s
  cases built with
  | none =>
    cases attempt with
    | none =>
      cases h
      simp [IsReady]
    | some a =>
      rw [isDue_attempted, duration_of_le hr] at h
      obtain ⟨t, ha, rfl⟩ := Run.map_ok_iff.1 h
      obtain ⟨-, rfl⟩ := later_ok_iff.1 ha
      simp [IsReady]
  | some c =>
    rw [isDue_built, duration_of_le ht, duration_of_le hr] at h
    obtain ⟨t, hc, h⟩ := Run.bind_ok_iff.1 h
    obtain ⟨-, rfl⟩ := later_ok_iff.1 hc
    by_cases hfresh : now < c + ttl
    · rw [if_pos hfresh] at h
      cases h
      simp [IsReady, hfresh]
    · rw [if_neg hfresh] at h
      have hold : c + ttl ≤ now := Int.not_lt.1 hfresh
      cases attempt with
      | none =>
        cases h
        simp [IsReady, hold]
      | some a =>
        by_cases hca : c < a
        · simp only [if_pos hca] at h
          obtain ⟨t, ha, rfl⟩ := Run.map_ok_iff.1 h
          obtain ⟨-, rfl⟩ := later_ok_iff.1 ha
          simp [IsReady, hold, hca]
        · simp only [if_neg hca] at h
          cases h
          simp [IsReady, hold, hca]

/-- The durations that are looked at end within the calendar. -/
structure EndsInCalendar (ttl retry : Nat) (s : Stamps) (now : Int) : Prop where
  /-- The time to live after the last success. -/
  built : ∀ c ∈ s.lastBuilt, c + duration ttl ≤ greatestTime
  /-- The retry interval, of an item that is not fresh, after an attempt that follows the last
  success. -/
  attempt : ∀ a ∈ s.lastAttempt, (∀ c ∈ s.lastBuilt, c + duration ttl ≤ now ∧ c < a) →
    a + duration retry ≤ greatestTime

theorem exists_later_iff {t : Int} {n : Nat} {f : Int → Bool} :
    (∃ due, (later t n).map f = .ok due) ↔ t + n ≤ greatestTime := by
  simp only [Run.map_ok_iff, later_ok_iff]
  constructor
  · rintro ⟨-, -, ⟨h, -⟩, -⟩
    exact h
  · intro h
    exact ⟨_, _, ⟨h, rfl⟩, rfl⟩

/-- It is found out whether an item is due if and only if the durations that are looked at end
within the calendar. -/
theorem exists_isDue_iff :
    (∃ due, isDue ttl retry s now = .ok due) ↔ EndsInCalendar ttl retry s now := by
  obtain ⟨built, attempt⟩ := s
  cases built with
  | none =>
    cases attempt with
    | none => exact iff_of_true ⟨true, rfl⟩ ⟨nofun, nofun⟩
    | some a =>
      rw [isDue_attempted, exists_later_iff]
      constructor
      · intro h
        exact ⟨nofun, fun _ ha _ => Option.some.inj ha ▸ h⟩
      · intro h
        exact h.attempt a rfl nofun
  | some c =>
    rw [isDue_built]
    by_cases hc : c + duration ttl ≤ greatestTime
    · rw [later_ok_iff.2 ⟨hc, rfl⟩, Run.ok_bind]
      have hbuilt : ∀ c' ∈ some c, c' + (duration ttl : Int) ≤ greatestTime := fun _ h =>
        Option.some.inj h ▸ hc
      split
      · next hfresh =>
        exact iff_of_true ⟨false, rfl⟩ ⟨hbuilt, fun a _ h => absurd (h c rfl).1 (Int.not_le.2 hfresh)⟩
      · next hold =>
        cases attempt with
        | none => exact iff_of_true ⟨true, rfl⟩ ⟨hbuilt, nofun⟩
        | some a =>
          simp only
          split
          · next hca =>
            rw [exists_later_iff]
            constructor
            · intro h
              exact ⟨hbuilt, fun _ ha _ => Option.some.inj ha ▸ h⟩
            · intro h
              exact h.attempt a rfl fun _ hb => Option.some.inj hb ▸ ⟨Int.not_lt.1 hold, hca⟩
          · next hca =>
            refine iff_of_true ⟨true, rfl⟩ ⟨hbuilt, fun b hb h => ?_⟩
            exact absurd (Option.some.inj hb ▸ (h c rfl).2) hca
    · refine iff_of_false ?_ fun h => hc (h.built c rfl)
      rintro ⟨due, h⟩
      obtain ⟨t, ht, -⟩ := Run.bind_ok_iff.1 h
      exact hc (later_ok_iff.1 ht).1

/-- With room for the durations, it is found out whether an item is due. -/
theorem exists_isDue (ht : ttl ≤ greatestDuration) (hr : retry ≤ greatestDuration)
    (h : HasRoom ttl retry s) : ∃ due, isDue ttl retry s now = .ok due := by
  rw [exists_isDue_iff]
  constructor
  · rw [duration_of_le ht]
    exact h.ttl
  · rw [duration_of_le hr]
    exact fun a ha _ => h.retry a ha

end SwapMarket.Schedule
