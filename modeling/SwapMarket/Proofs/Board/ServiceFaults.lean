import SwapMarket.Proofs.Board.Books

/-!
# Faults of services and replicas

A run that sends requests **`FailsOnly`** with certain faults if it finds nothing else wrong,
whichever requests were sent before. A request fails with the faults of its service
(**`Fault.IsOfService`**, `Asking.failsOnly_ask`), and so does what looks into an answer and finds
it unusable. A query of replicas has one fault only.
-/

namespace SwapMarket

/-! ## Runs that send requests, and their faults -/

namespace Asking

variable {α β : Type} {a : Asking α} {p : Fault → Prop}

/-- A run finds nothing wrong but what has a property, whichever requests were sent before. -/
def FailsOnly (p : Fault → Prop) (a : Asking α) : Prop := ∀ log, Run.FailsOnly p (a.run.run log).1

theorem failsOnly_ofRun {r : Run α} (h : r.FailsOnly p) : (ofRun r).FailsOnly p := fun _ => h

theorem failsOnly_pure (v : α) : (pure v : Asking α).FailsOnly p :=
  failsOnly_ofRun (Run.faultless_ok v).failsOnly

/-- A result fails for its own reason only. -/
theorem failsOnly_ofResult {r : Result α} (h : ∀ f, r = .error f → p f) :
    (ofResult r).FailsOnly p :=
  failsOnly_ofRun (Result.failsOnly_toRun h)

/-- A run of two steps fails for a reason of one of them. -/
theorem FailsOnly.bind {f : α → Asking β} (h : a.FailsOnly p) (hf : ∀ v, (f v).FailsOnly p) :
    (a >>= f).FailsOnly p := by
  intro log
  rw [run_bind]
  have ha := h log
  cases hr : a.run.run log with
  | mk r l =>
    rw [hr] at ha
    cases r with
    | error s =>
      intro g hg
      cases hg
      exact ha g rfl
    | ok v => exact hf v l

/-- What fails at once sends no request. -/
theorem outcome_fail_bind (s : Stop) (f : α → Asking β) :
    (ofRun (.error s : Run α) >>= f).outcome = (.error s, []) := rfl

/-- A known value is given to the rest of the run. -/
theorem outcome_ok_bind (v : α) (f : α → Asking β) :
    (ofRun (.ok v : Run α) >>= f).outcome = (f v).outcome := rfl

end Asking

open Asking (failsOnly_ofRun failsOnly_pure failsOnly_ofResult)

/-! ## What services and replicas do wrong -/

/-- A service cannot be reached, takes too long, refuses, or answers what cannot be used. -/
def Fault.IsOfService (f : Fault) : Prop :=
  f.kind ∈ [FaultKind.transport, .timeout, .refusal, .answer]

instance (f : Fault) : Decidable f.IsOfService :=
  inferInstanceAs (Decidable (f.kind ∈ [FaultKind.transport, .timeout, .refusal, .answer]))

/-- A request fails for a reason of the service. -/
theorem Network.isOfService_of_body {w : Network} {timeout : Nat} {r : Request} {f : Fault}
    (h : w.body timeout r = .error f) : f.IsOfService := by
  unfold body at h
  simp only at h
  split at h
  · cases h
    exact List.mem_cons_self
  split at h
  · cases h
    exact List.mem_cons_self
  split at h
  · cases h
    exact List.mem_cons_self
  split at h
  · cases h
    exact List.mem_cons_of_mem _ List.mem_cons_self
  split at h
  · cases h
    exact List.mem_cons_of_mem _ (List.mem_cons_of_mem _ List.mem_cons_self)
  · cases h

/-- A request fails through its service. -/
theorem Asking.failsOnly_ask {α : Type} {p : Fault → Prop} (hp : ∀ f, f.IsOfService → p f)
    (w : Network) (timeout : Nat) (decode : Json → Option α) (r : Request) :
    (ask w timeout decode r).FailsOnly p := by
  unfold ask
  split
  on_goal 1 => refine FailsOnly.bind (fun log f h => nomatch h) fun _ => ?_
  all_goals
    refine (failsOnly_ofResult fun f h => hp f (Network.isOfService_of_body h)).bind fun body => ?_
    split
    · exact failsOnly_pure _
    · refine failsOnly_ofRun fun f h => ?_
      cases h
      exact hp _ (by decide)

/-- The only fault of a query is that of a replica. -/
theorem queryFiles_error {d : Disk} {q : ReplicaQuery} {ps : List String} {f : Fault}
    (h : queryFiles d q ps = .error f) : f = .replica := by
  induction ps with
  | nil => cases h
  | cons p ps ih =>
    unfold queryFiles at h
    split at h
    · next g hg =>
      cases h
      unfold queryFile at hg
      split at hg
      · split at hg
        · cases hg
        · cases hg
          rfl
      · cases hg
        rfl
    · cases hr : queryFiles d q ps with
      | error g =>
        rw [hr] at h
        cases h
        exact ih hr
      | ok ss =>
        rw [hr] at h
        cases h

theorem queryReplicas_error {s : Settings} {d : Disk} {w : Networks} {q : ReplicaQuery}
    {f : Fault} (h : queryReplicas s d w q = .error f) : f = .replica := by
  unfold queryReplicas at h
  cases hr : queryFiles d q (replicaFiles s d w) with
  | error g =>
    rw [hr] at h
    cases h
    exact queryFiles_error hr
  | ok ss =>
    rw [hr] at h
    cases h

/-- What is wrong with an answer is the fault of its service. -/
theorem completeEntries_error {es : CoinEntries} {f : Fault} (h : completeEntries es = .error f) :
    f.IsOfService := by
  unfold completeEntries at h
  split at h
  · cases h
    decide
  · cases h

/-- A list of coins that cannot be read is a fault of the service. -/
theorem listedCoins_error {cs : List ListedCoin} {f : Fault} (h : listedCoins cs = .error f) :
    f.IsOfService := by
  unfold listedCoins at h
  split at h
  · cases h
    decide
  · cases h

theorem spotPrices_error {ps : List SpotPrice} {f : Fault} (h : spotPrices ps = .error f) :
    f.IsOfService := by
  unfold spotPrices at h
  split at h
  · cases h
    decide
  · cases h

theorem Rates.ofAnswer_error {a : RatesAnswer} {f : Fault} (h : ofAnswer a = .error f) :
    f.IsOfService := by
  unfold ofAnswer at h
  split at h
  · split at h <;> cases h <;> simp [Fault.IsOfService, Fault.kind]
  split at h
  · cases h
    decide
  split at h
  · cases h
    decide
  simp only at h
  split at h
  · cases h
    simp [Fault.IsOfService, Fault.kind]
  · cases h

end SwapMarket
