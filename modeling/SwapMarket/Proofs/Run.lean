import SwapMarket.Fault
import Mathlib.Tactic.Common

/-!
# Runs in steps

When a run of several steps has a value, every step had one (**`Run.bind_ok_iff`**). A run is
**`Faultless`** if it has a value unless a number leaves its range: it may be cut short, but it
finds nothing wrong. It **`FailsOnly`** with certain faults if it finds nothing else wrong.
-/

namespace SwapMarket

namespace Run

variable {α β : Type}

@[simp] theorem ok_bind (a : α) (f : α → Run β) : ((.ok a : Run α) >>= f) = f a := rfl

@[simp] theorem error_bind (s : Stop) (f : α → Run β) : ((.error s : Run α) >>= f) = .error s := rfl

@[simp] theorem pure_eq_ok (a : α) : (pure a : Run α) = .ok a := rfl

/-- A run that gives a value is successful. -/
theorem toOption_eq_some {r : Run α} {v : α} : r.toOption = some v ↔ r = .ok v := by
  cases r with
  | error s =>
    constructor
    · intro h
      cases h
    · intro h
      cases h
  | ok a =>
    constructor
    · intro h
      exact congrArg Except.ok (Option.some.inj h)
    · intro h
      exact congrArg some (Except.ok.inj h)

/-- A run of two steps has a value if and only if both steps have one. -/
theorem bind_ok_iff {r : Run α} {f : α → Run β} {v : β} :
    (r >>= f) = .ok v ↔ ∃ a, r = .ok a ∧ f a = .ok v := by
  cases r with
  | error s =>
    constructor
    · intro h
      cases h
    · rintro ⟨a, h, -⟩
      cases h
  | ok a =>
    constructor
    · intro h
      exact ⟨a, rfl, h⟩
    · rintro ⟨b, h, hv⟩
      cases h
      exact hv

/-- A fault does not cut a run short. -/
theorem cut?_ne_fault (r : Run α) (f : Fault) : r.cut? ≠ some (.fault f) := by
  cases r with
  | ok v => exact nofun
  | error s =>
    cases s with
    | fault g => exact nofun
    | overflow | unsettable => exact nofun

/-- A run has a value, finds a fault, or is cut short. -/
theorem ok_or_fail_or_cut (r : Run α) :
    (∃ v, r = .ok v) ∨ (∃ f, r = Run.fail f) ∨ ∃ s, r.cut? = some s := by
  cases r with
  | ok v => exact .inl ⟨v, rfl⟩
  | error s =>
    cases s with
    | fault f => exact .inr (.inl ⟨f, rfl⟩)
    | _ => exact .inr (.inr ⟨_, rfl⟩)

/-- A run whose value is changed has a value if and only if the run has one. -/
theorem map_ok_iff {r : Run α} {f : α → β} {v : β} :
    r.map f = .ok v ↔ ∃ a, r = .ok a ∧ f a = v := by
  cases r with
  | error s =>
    constructor
    · intro h
      cases h
    · rintro ⟨a, h, -⟩
      cases h
  | ok a =>
    constructor
    · intro h
      exact ⟨a, rfl, Except.ok.inj h⟩
    · rintro ⟨b, h, rfl⟩
      cases h
      rfl

/-- A value is in range exactly if there is one. -/
theorem inRange_ok_iff {o : Option α} {v : α} : inRange o = .ok v ↔ o = some v := by
  cases o with
  | none =>
    constructor
    · intro h
      cases h
    · intro h
      cases h
  | some a =>
    constructor
    · intro h
      exact congrArg some (Except.ok.inj h)
    · intro h
      cases h
      rfl

/-- A count is in range exactly if 64 bits hold it. -/
theorem nat64_ok_iff {n m : Nat} : nat64 n = .ok m ↔ n < Nat.pow 2 64 ∧ n = m := by
  unfold nat64
  split
  · next h => simp only [h, true_and, Except.ok.injEq]
  · next h => simp only [h, false_and, reduceCtorEq]

theorem int64_ok_iff {n m : Int} :
    int64 n = .ok m ↔ (Text.Bounds.signed 64).holds n = true ∧ n = m := by
  unfold int64
  split
  · next h => simp only [h, true_and, Except.ok.injEq]
  · next h => simp only [h, false_and, reduceCtorEq]

/-- A run that ends in no fault. -/
def Faultless (r : Run α) : Prop := ∀ f, r ≠ .error (.fault f)

/-- A value is no fault. -/
theorem faultless_ok (a : α) : Faultless (.ok a : Run α) := by
  intro f h
  cases h

/-- To leave the range is no fault. -/
theorem faultless_inRange (o : Option α) : (inRange o).Faultless := by
  intro f h
  cases o <;> cases h

/-- Two runs without a fault are a run without a fault. -/
theorem Faultless.bind {r : Run α} {f : α → Run β} (h : r.Faultless)
    (hf : ∀ a, r = .ok a → (f a).Faultless) : (r >>= f).Faultless := by
  cases r with
  | ok a => exact hf a rfl
  | error s =>
    intro c hc
    exact h c (congrArg Except.error (Except.error.inj hc))

/-- A changed value is no fault. -/
theorem Faultless.map {r : Run α} (h : r.Faultless) (f : α → β) :
    Faultless (r.map f : Run β) := by
  cases r with
  | ok a => exact faultless_ok _
  | error s =>
    intro c hc
    exact h c (congrArg Except.error (Except.error.inj hc))

/-- A whole number is held, or leaves the range. -/
theorem faultless_int64 (n : Int) : (int64 n).Faultless := by
  intro f h
  unfold int64 at h
  split at h <;> cases h

/-- A run finds nothing wrong but what has a property. -/
def FailsOnly (p : Fault → Prop) (r : Run α) : Prop := ∀ f, r = .error (.fault f) → p f

variable {p : Fault → Prop}

/-- A run without a fault fails for no other reason. -/
theorem Faultless.failsOnly {r : Run α} (h : r.Faultless) : r.FailsOnly p :=
  fun f hf => absurd hf (h f)

/-- Two runs fail for a reason of one of them. -/
theorem FailsOnly.bind {r : Run α} {f : α → Run β} (h : r.FailsOnly p)
    (hf : ∀ a, r = .ok a → (f a).FailsOnly p) : (r >>= f).FailsOnly p := by
  cases r with
  | ok a => exact hf a rfl
  | error s =>
    intro c hc
    exact h c (congrArg Except.error (Except.error.inj hc))

/-- What cuts the first of two steps short cuts both short. -/
theorem cut?_of_bind {r : Run α} {f : α → Run β} (h : (r >>= f).cut? = none) :
    r.cut? = none := by
  cases r with
  | ok a => rfl
  | error s =>
    cases s with
    | fault c => rfl
    | overflow | unsettable => cases h

/-- A run that finds nothing wrong has a value unless it is cut short. -/
theorem Faultless.exists_ok_iff {r : Run α} (h : r.Faultless) :
    (∃ v, r = .ok v) ↔ r.cut? = none := by
  constructor
  · rintro ⟨v, rfl⟩
    rfl
  · intro hc
    rcases r.ok_or_fail_or_cut with hv | ⟨f, hf⟩ | ⟨s, hs⟩
    · exact hv
    · exact absurd hf (h f)
    · rw [hc] at hs
      cases hs

end Run

/-- A result is a run with the same value. -/
theorem Result.toRun_ok_iff {α : Type} {r : Result α} {v : α} : r.toRun = .ok v ↔ r = .ok v := by
  cases r with
  | error f =>
    constructor
    · intro h
      cases h
    · intro h
      cases h
  | ok a =>
    constructor
    · intro h
      exact congrArg Except.ok (Except.ok.inj h)
    · intro h
      cases h
      rfl

/-- A result fails for its own reason. -/
theorem Result.failsOnly_toRun {α : Type} {p : Fault → Prop} {r : Result α}
    (h : ∀ f, r = .error f → p f) : Run.FailsOnly p r.toRun := by
  intro f hf
  cases r with
  | ok v => cases hf
  | error g =>
    cases hf
    exact h _ rfl

end SwapMarket
