import SwapMarket.Fault

/-!
# When an item is due

An item is built again when its time to live has run out since it was last built, and after a
failed attempt when the retry interval has. Of an attempt only the time is noted: an attempt after
the last success is one that failed, or one that still runs.

Times are whole seconds. A duration of more than `greatestDuration` counts as a hundred years, and
a time after `greatestTime` ends the run, as does a look at a clock (**`clock`**) that shows such a
time or one before the first second.
-/

namespace SwapMarket.Schedule

/-- What is noted of the builds of an item. -/
structure Stamps where
  /-- When the item was last built. -/
  lastBuilt : Option Int
  /-- When a build was last attempted. -/
  lastAttempt : Option Int
  deriving DecidableEq, Repr

instance : Inhabited Stamps := ⟨⟨none, none⟩⟩

/-- The last second of the calendar. -/
def greatestTime : Int := 8210266876799

/-- The time that a clock shows. -/
def clock (now : Int) : Run Int :=
  if 0 ≤ now ∧ now ≤ greatestTime then .ok now else .error .overflow

/-- What is done again and again is done at an interval above zero. -/
def rounds (interval : Nat) : Run Unit := if interval = 0 then .error .overflow else .ok ()

/-- The greatest number of seconds that a duration has. -/
def greatestDuration : Nat := 9223372036854775

/-- The seconds of a hundred years of 365 days. -/
def century : Nat := 36500 * 86400

/-- The seconds that a duration counts. -/
def duration (seconds : Nat) : Nat :=
  if seconds ≤ greatestDuration then seconds else century

/-- The time some seconds after another. -/
def later (t : Int) (seconds : Nat) : Run Int :=
  if t + seconds ≤ greatestTime then .ok (t + seconds) else .error .overflow

/-- Whether an item is due. -/
def isDue (ttl retry : Nat) (s : Stamps) (now : Int) : Run Bool := do
  let fresh ← match s.lastBuilt with
    | some built => (later built (duration ttl)).map fun t => decide (now < t)
    | none => pure false
  if fresh then return false
  match s.lastAttempt, s.lastBuilt with
  | some attempt, some built =>
    if built < attempt then (later attempt (duration retry)).map fun t => decide (t ≤ now)
    else return true
  | some attempt, none => (later attempt (duration retry)).map fun t => decide (t ≤ now)
  | none, _ => return true

end SwapMarket.Schedule
