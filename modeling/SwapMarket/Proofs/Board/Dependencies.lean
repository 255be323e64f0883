import SwapMarket.Proofs.Board.Books
import SwapMarket.Proofs.Board.Inputs
import SwapMarket.Proofs.Board.ServiceFaults
import SwapMarket.Proofs.Market.Faultless
import SwapMarket.Proofs.Market.Totals

/-!
# Producers demand what their items depend on

The table of dependencies is apart from the producers, but they agree: a build fails for a missing
snapshot exactly if one of the dependencies of its item has none. It names the first of them
(**`Board.firstMissing`**), before any service is asked and any replica is queried, and nothing but
its times is noted.

With all dependencies in place, a build succeeds or fails in one of a few ways
(**`Board.Explains`**). Main statement: `dependencies_demanded`.
-/

namespace SwapMarket

open Asking (failsOnly_ofRun failsOnly_pure failsOnly_ofResult outcome_fail_bind outcome_ok_bind)

/-! ## What producers ask -/

/-- The addresses that the producer of an item asks. -/
inductive Item.Asks (s : Settings) : Item → Result Url → Prop
  /-- The service of the configuration of the tickers. -/
  | entries : Asks s .coinEntries (Settings.address s.coinEntriesUrl)
  /-- The service of the older list of coins. -/
  | coins : Asks s .listedCoins (Settings.address s.coinsUrl)
  /-- The list of the identifiers that have prices. -/
  | listings : Asks s .coinPrices s.listingsUrl
  /-- The prices of some identifiers. -/
  | quotes (ids : List String) : Asks s .coinPrices (s.quotesUrl ids)
  /-- The service of the rates. -/
  | rates : Asks s .rates s.ratesUrl
  /-- The exchange. -/
  | spotPrices : Asks s .spotPrices s.spotPricesUrl

/-- Whether a producer fails if a replica cannot be queried. -/
def Item.readsReplicas : Item → Bool
  | .lastTrades | .dayPrices | .dayVolumes | .fortnightVolumes => true
  | .coinEntries | .listedCoins | .coinPrices | .rates | .spotPrices | .orderbooks | .summary =>
    false

/-- A text that is not an address is at fault itself. -/
theorem Settings.address_error {t : String} {f : Fault} (h : address t = .error f) :
    ∃ c, f = .address c := by
  unfold address at h
  cases hu : Url.parse t with
  | error c =>
    rw [hu] at h
    cases h
    exact ⟨c, rfl⟩
  | ok u =>
    rw [hu] at h
    cases h

theorem Settings.address_map_error {t : String} {g : Url → Url} {f : Fault}
    (h : (address t).map g = .error f) : ∃ c, f = .address c := by
  cases hu : address t with
  | error c =>
    rw [hu] at h
    cases h
    exact address_error hu
  | ok u =>
    rw [hu] at h
    cases h

/-- What is wrong with an address is that its text is none. -/
theorem Item.Asks.error {n : Item} {s : Settings} {u : Result Url} (h : n.Asks s u) {f : Fault}
    (hu : u = .error f) : ∃ c, f = .address c := by
  cases h with
  | entries | coins | listings | spotPrices => exact Settings.address_error hu
  | quotes | rates => exact Settings.address_map_error hu

namespace Board

variable {b : Board} {n m k : Item} {p : Fault → Prop}

/-- What a fault of a build comes from that has all its dependencies. -/
inductive Explains (b : Board) : Item → Fault → Prop
  /-- The file of the item cannot be written. -/
  | file {n : Item} (h : b.canKeep n = false) : b.Explains n .file
  /-- An address in the settings is none. -/
  | address {n : Item} {c : UrlFault} (h : n.Asks b.settings (.error (.address c))) :
    b.Explains n (.address c)
  /-- There is no key for the rates. -/
  | noKey (h : b.settings.rateKey = "") : b.Explains .rates (.keyMissing "FIXER_API_KEY")
  /-- A service that is asked fails. -/
  | service {n : Item} {u : Result Url} {f : Fault} (h : n.Asks b.settings u)
    (hf : f.IsOfService) : b.Explains n f
  /-- A replica cannot be queried. -/
  | replica {n : Item} {q : ReplicaQuery} (h : n.readsReplicas = true)
    (hq : queryReplicas b.settings b.disk .all q = .error .replica) : b.Explains n .replica
  /-- A dollar figure of a book is not a decimal. -/
  | figure {books : Table Orderbook} {k : String} {r : Orderbook} {e : DecimalFault}
    (hb : b.slots .orderbooks = some books) (hr : books.find? k = some r) (h : ¬ r.HasDollars) :
    b.Explains .summary (.decimal e)

/-- A missing snapshot is not among these faults. -/
theorem Explains.kind_ne {f : Fault} (h : b.Explains n f) : f.kind ≠ .itemMissing := by
  cases h with
  | service _ hf =>
    intro hkind
    rw [Fault.IsOfService, hkind] at hf
    revert hf
    decide
  | file | address | noKey | replica | figure =>
    intro hkind
    cases hkind

/-! ## Missing snapshots -/

/-- The first of some items that has no snapshot. -/
def missingAmong (b : Board) (ns : List Item) : Option Item := ns.find? fun m => (b.slots m).isNone

/-- The first dependency of an item that has no snapshot. -/
def firstMissing (b : Board) (n : Item) : Option Item := b.missingAmong n.dependencies

/-- The first item that is missing, from the front of the list. -/
theorem missingAmong_cons {ns : List Item} : b.missingAmong (k :: ns) = some m ↔
    (b.slots k = none ∧ k = m) ∨ (b.slots k).isSome = true ∧ b.missingAmong ns = some m := by
  unfold missingAmong
  cases hk : b.slots k with
  | none => simp [hk]
  | some v => simp [hk]

/-- Nothing is missing among no items. -/
theorem missingAmong_nil : b.missingAmong [] ≠ some m := nofun

/-- Nothing is missing exactly if all dependencies have snapshots. -/
theorem firstMissing_eq_none_iff :
    b.firstMissing n = none ↔ ∀ m ∈ n.dependencies, b.slots m ≠ none := by
  unfold firstMissing missingAmong
  simp only [List.find?_eq_none, Option.isNone_iff_eq_none, ne_eq]

/-- Without a snapshot the item is reported as missing, by its name. -/
theorem require_of_none (h : b.slots m = none) :
    b.require m = .error (.fault (.itemMissing m.name)) := by
  unfold require
  rw [h]
  rfl

/-- With a snapshot the item is there. -/
theorem require_of_isSome (h : (b.slots m).isSome = true) : ∃ v, b.require m = .ok v := by
  obtain ⟨v, hv⟩ := Option.isSome_iff_exists.1 h
  exact ⟨v, require_ok_iff.2 hv⟩

/-- An item that is there cannot fail. -/
theorem failsOnly_require (h : b.slots m ≠ none) : (b.require m).FailsOnly p := by
  obtain ⟨v, hv⟩ := require_of_isSome (Option.isSome_iff_ne_none.2 h)
  rw [hv]
  exact (Run.faultless_ok v).failsOnly

/-! ## Producers with all they depend on -/

/-- A request to a service of the item fails for a reason that the item explains. -/
theorem failsOnly_askService {α : Type} {u : Result Url} (h : n.Asks b.settings u)
    (decode : Json → Option α) : (b.askService decode u).FailsOnly (b.Explains n) := by
  unfold askService
  refine (failsOnly_ofResult fun f hf => ?_).bind fun v => ?_
  · obtain ⟨c, rfl⟩ := h.error hf
    subst hf
    exact .address h
  · exact Asking.failsOnly_ask (fun f hf => .service h hf) _ _ _ _

/-- The requests for quotes fail for a reason that the prices explain. -/
theorem failsOnly_askQuotes (gs : List (List String)) :
    (b.askQuotes gs).FailsOnly (b.Explains .coinPrices) := by
  induction gs with
  | nil => exact failsOnly_pure _
  | cons g gs ih =>
    unfold askQuotes
    refine (failsOnly_askService (.quotes g) _).bind fun qs => ?_
    exact ih.bind fun rest => failsOnly_pure _

/-- With tickers and last trades in place there is a context. -/
theorem failsOnly_context (he : b.slots .coinEntries ≠ none) (hl : b.slots .lastTrades ≠ none) :
    b.context.FailsOnly p := by
  unfold context
  refine (failsOnly_require he).bind fun entries _ => (failsOnly_require hl).bind fun last _ => ?_
  refine (faultless_candidates _ _ _ _).failsOnly.bind fun ms _ => ?_
  exact (Run.faultless_ok _).failsOnly

/-- Reading the replicas fails for a reason that the item explains. -/
theorem failsOnly_swapsOfDays (h : n.readsReplicas = true) (days : Int) :
    (b.swapsOfDays days).FailsOnly (b.Explains n) := by
  unfold swapsOfDays
  refine (Run.faultless_int64 _).failsOnly.bind fun since _ => Result.failsOnly_toRun fun f hf => ?_
  unfold swapsBetween at hf
  cases hq : queryReplicas b.settings b.disk .all (.finishedAfter since) with
  | error g =>
    rw [hq] at hf
    cases hf
    obtain rfl := queryReplicas_error hq
    exact .replica h hq
  | ok ss =>
    rw [hq] at hf
    cases hf

/-- The producer of volumes fails for such a reason only, once its dependencies are there. -/
theorem failsOnly_produceVolumes (h : n.readsReplicas = true)
    (he : b.slots .coinEntries ≠ none) (hl : b.slots .lastTrades ≠ none) (days : Int) :
    (b.produceVolumes days).FailsOnly (b.Explains n) := by
  unfold produceVolumes
  refine (failsOnly_context he hl).bind fun x _ => ?_
  exact (failsOnly_swapsOfDays h days).bind fun ss _ => (faultless_volumes _ _ _).failsOnly

/-- Records of books do not fail: what is not answered is an empty book. -/
theorem failsOnly_bookRecords (x : Context) (prices : Table DayPrices) (vols : Table Volume)
    (ms : List (String × String)) : (b.bookRecords x prices vols ms).FailsOnly p := by
  induction ms with
  | nil => exact failsOnly_pure _
  | cons m ms ih =>
    unfold bookRecords
    refine Asking.FailsOnly.bind (fun log f hf => ?_) fun book => ?_
    · rw [run_bookOf] at hf
      cases hf
    · refine (failsOnly_ofRun faultless_bookRecord.failsOnly).bind fun r => ?_
      exact ih.bind fun rs => failsOnly_pure _

/-- The summary fails for such a reason only, once books and last trades are there. -/
theorem failsOnly_produceSummary (hb : b.slots .orderbooks ≠ none)
    (hl : b.slots .lastTrades ≠ none) : b.produceSummary.FailsOnly (b.Explains .summary) := by
  unfold produceSummary
  refine (failsOnly_require hb).bind fun books hbooks => ?_
  refine (failsOnly_require hl).bind fun last _ => fun f hf => ?_
  obtain ⟨-, ho⟩ | ⟨-, ⟨-, ho⟩ | ⟨⟨k, r, hr, hd⟩, e, ho⟩⟩ := Summary.ofBooks_cases books last b.now
  · rw [ho] at hf
    cases hf
  · rw [ho] at hf
    cases hf
  · rw [ho] at hf
    cases hf
    exact .figure (require_ok_iff.1 hbooks) hr hd

/-- A producer whose item has all it depends on fails in one of a few ways. -/
theorem failsOnly_produce (h : b.firstMissing n = none) :
    (b.produce n).FailsOnly (b.Explains n) := by
  have hall := firstMissing_eq_none_iff.1 h
  cases n with
  | coinEntries =>
    refine (failsOnly_askService .entries _).bind fun es => failsOnly_ofResult fun f hf => ?_
    exact .service .entries (completeEntries_error hf)
  | listedCoins =>
    refine (failsOnly_askService .coins _).bind fun cs => failsOnly_ofResult fun f hf => ?_
    exact .service .coins (listedCoins_error hf)
  | coinPrices =>
    refine (failsOnly_ofRun (failsOnly_require (hall _ (by decide)))).bind fun entries => ?_
    refine (failsOnly_askService .listings _).bind fun listings => ?_
    exact (failsOnly_askQuotes _).bind fun qs => failsOnly_pure _
  | rates =>
    show b.produceRates.FailsOnly _
    unfold produceRates
    split
    · next hkey =>
      refine failsOnly_ofResult fun f hf => ?_
      cases hf
      exact .noKey hkey
    · refine (failsOnly_askService .rates _).bind fun a => failsOnly_ofResult fun f hf => ?_
      exact .service .rates (Rates.ofAnswer_error hf)
  | spotPrices =>
    refine (failsOnly_askService .spotPrices _).bind fun ps => failsOnly_ofResult fun f hf => ?_
    exact .service .spotPrices (spotPrices_error hf)
  | lastTrades =>
    refine failsOnly_ofRun ((failsOnly_require (hall _ (by decide))).bind fun entries _ => ?_)
    refine Run.FailsOnly.bind (Result.failsOnly_toRun fun f hf => ?_) fun ss _ =>
      (faultless_lastTrades _ _).failsOnly
    obtain rfl := queryReplicas_error hf
    exact .replica rfl hf
  | dayPrices =>
    refine failsOnly_ofRun ?_
    refine (failsOnly_context (hall _ (by decide)) (hall _ (by decide))).bind fun x _ => ?_
    exact (failsOnly_swapsOfDays rfl 1).bind fun ss _ => (faultless_dayPrices _ _ _).failsOnly
  | dayVolumes | fortnightVolumes =>
    exact failsOnly_ofRun
      (failsOnly_produceVolumes rfl (hall _ (by decide)) (hall _ (by decide)) _)
  | orderbooks =>
    refine (failsOnly_ofRun (failsOnly_context (hall _ (by decide)) (hall _ (by decide)))).bind
      fun x => ?_
    refine (failsOnly_ofRun (failsOnly_require (hall _ (by decide)))).bind fun prices => ?_
    refine (failsOnly_ofRun (failsOnly_require (hall _ (by decide)))).bind fun vols => ?_
    exact (failsOnly_bookRecords _ _ _ _).bind fun rs => failsOnly_pure _
  | summary =>
    exact failsOnly_ofRun (failsOnly_produceSummary (hall _ (by decide)) (hall _ (by decide)))

/-! ## Producers without a dependency -/

section Missing

variable {ns : List Item}

/-- A run that starts with a snapshot fails with the first item that has none. -/
theorem require_bind_of_missing {α : Type} {f : k.Value → Run α}
    (h : b.missingAmong (k :: ns) = some m)
    (hf : ∀ v, b.missingAmong ns = some m → f v = Run.fail (.itemMissing m.name)) :
    (b.require k >>= f) = Run.fail (.itemMissing m.name) := by
  obtain ⟨hk, rfl⟩ | ⟨hk, hrest⟩ := missingAmong_cons.1 h
  · rw [require_of_none hk]
    rfl
  · obtain ⟨v, hv⟩ := require_of_isSome hk
    rw [hv]
    exact hf v hrest

/-- So does a run that sends requests, before it sends any. -/
theorem outcome_require_bind_of_missing {α : Type} {f : k.Value → Asking α}
    (h : b.missingAmong (k :: ns) = some m)
    (hf : ∀ v, b.missingAmong ns = some m →
      (f v).outcome = (Run.fail (.itemMissing m.name), [])) :
    (Asking.ofRun (b.require k) >>= f).outcome = (Run.fail (.itemMissing m.name), []) := by
  obtain ⟨hk, rfl⟩ | ⟨hk, hrest⟩ := missingAmong_cons.1 h
  · rw [require_of_none hk]
    exact outcome_fail_bind _ f
  · obtain ⟨v, hv⟩ := require_of_isSome hk
    rw [hv, outcome_ok_bind]
    exact hf v hrest

/-- Without what a context is made of there is none, and with it nothing is wrong with it. -/
theorem context_cases (h : b.missingAmong (.coinEntries :: .lastTrades :: ns) = some m) :
    b.context = Run.fail (.itemMissing m.name) ∨
      b.missingAmong ns = some m ∧ b.context.Faultless := by
  obtain ⟨he, rfl⟩ | ⟨he, h'⟩ := missingAmong_cons.1 h
  · left
    unfold context
    rw [require_of_none he]
    rfl
  obtain ⟨hl, rfl⟩ | ⟨hl, hrest⟩ := missingAmong_cons.1 h'
  · left
    obtain ⟨entries, hentries⟩ := require_of_isSome he
    unfold context
    rw [hentries, require_of_none hl]
    rfl
  · rw [Option.isSome_iff_ne_none] at he hl
    exact .inr ⟨hrest, fun f hf => failsOnly_context (p := fun _ => False) he hl f hf⟩

/-- What is made of a context and nothing else fails where the context misses a snapshot. -/
theorem context_bind_of_missing {α : Type} {f : Context → Run α}
    (h : b.missingAmong [.coinEntries, .lastTrades] = some m) :
    (b.context >>= f) = Run.fail (.itemMissing m.name) := by
  obtain hc | ⟨hrest, -⟩ := context_cases h
  · rw [hc]
    rfl
  · exact absurd hrest missingAmong_nil

/-- A producer names the first dependency that has no snapshot, and sends no request. The context
of the orderbooks, which comes before two of their dependencies, must not be cut short. -/
theorem outcome_produce_of_missing (h : b.firstMissing n = some m)
    (hc : n = .orderbooks → b.context.cut? = none) :
    (b.produce n).outcome = (Run.fail (.itemMissing m.name), []) := by
  cases n with
  | coinEntries | listedCoins | rates | spotPrices => exact absurd h missingAmong_nil
  | coinPrices =>
    exact outcome_require_bind_of_missing h fun v hrest => absurd hrest missingAmong_nil
  | lastTrades =>
    exact congrArg (·, []) (require_bind_of_missing h fun v hrest => absurd hrest missingAmong_nil)
  | dayPrices | dayVolumes | fortnightVolumes =>
    exact congrArg (·, []) (context_bind_of_missing h)
  | orderbooks =>
    show b.produceOrderbooks.outcome = _
    unfold produceOrderbooks
    obtain hx | ⟨hrest, hx⟩ := context_cases h
    · rw [hx]
      exact outcome_fail_bind _ _
    · obtain ⟨x, hx⟩ := hx.exists_ok_iff.2 (hc rfl)
      rw [hx, outcome_ok_bind]
      refine outcome_require_bind_of_missing hrest fun prices hrest => ?_
      exact outcome_require_bind_of_missing hrest fun vols hrest => absurd hrest missingAmong_nil
  | summary =>
    refine congrArg (·, []) (require_bind_of_missing h fun books hrest => ?_)
    exact require_bind_of_missing hrest fun last hrest => absurd hrest missingAmong_nil

/-- What cuts the context short cuts the orderbooks short. -/
theorem cut?_context (h : (b.produce .orderbooks).outcome.1.cut? = none) :
    b.context.cut? = none := by
  have ho : (b.produce .orderbooks).outcome.1 = _ := outcome_produceOrderbooks b
  rw [ho] at h
  exact Run.cut?_of_bind h

end Missing

/-! ## Builds -/

/-- A build that starts ends as its producer does, or with the file of the item. -/
theorem build_of_starts (hs : b.starts n = .ok true) :
    (b.build n).2 = ((b.produce n).outcome.1 >>= fun _ =>
      if b.canKeep n then .ok .built else Run.fail .file, (b.produce n).outcome.2) := by
  unfold build buildReading
  simp only [runBuild, hs]
  cases (b.produce n).outcome.1 with
  | error s => rfl
  | ok v => exact congrArg (·, _) (complete_outcome (b.begin n) n v)

/-- A build starts that finds the token and is not cut short. -/
theorem starts_of_cut (hfree : b.building n = false) (h : (b.build n).2.1.cut? = none) :
    b.starts n = .ok true := by
  by_cases ht : 0 ≤ b.now ∧ b.now ≤ Schedule.greatestTime
  · unfold starts time Schedule.clock
    rw [hfree, if_pos ht]
    rfl
  · have hs : b.starts n = .error .overflow := by
      unfold starts time Schedule.clock
      rw [hfree, if_neg ht]
      rfl
    unfold build buildReading at h
    rw [hs] at h
    cases h

/-- With all dependencies in place, a build ends in one of a few ways. -/
theorem build_of_noneMissing (hs : b.starts n = .ok true) (h : b.firstMissing n = none)
    (hcut : (b.produce n).outcome.1.cut? = none) :
    (b.build n).2.1 = .ok .built ∨ ∃ f, (b.build n).2.1 = Run.fail f ∧ b.Explains n f := by
  rw [build_of_starts hs]
  cases ho : (b.produce n).outcome.1 with
  | ok v =>
    cases hk : b.canKeep n with
    | true => exact .inl rfl
    | false => exact .inr ⟨.file, rfl, .file hk⟩
  | error s =>
    cases s with
    | fault f => exact .inr ⟨f, rfl, failsOnly_produce h [] f ho⟩
    | overflow | unsettable =>
      rw [ho] at hcut
      cases hcut

/-- Without a dependency, a producer fails whatever is on the disk and in the network. -/
theorem outcome_produce_elsewhere (h : b.firstMissing n = some m)
    (hcut : (b.produce n).outcome.1.cut? = none) (d : Disk) (w : Network) :
    (({ b with disk := d, network := w } : Board).produce n).outcome
      = (Run.fail (.itemMissing m.name), []) := by
  refine outcome_produce_of_missing h ?_
  rintro rfl
  exact (cut?_context hcut : b.context.cut? = none)

end Board

open Board

/-- A build that finds the token and is not cut short fails for a missing snapshot if and only if
one of the dependencies of its item has none. It names the first of them, whatever is on the disk
and in the network, sends no request, and leaves everything but its times as it was. With all
dependencies in place, it succeeds, or fails because of the file of the item, an address, the key
for the rates, a service, a replica, or a dollar figure of a book. -/
theorem dependencies_demanded (b : Board) (n : Item) (hfree : b.building n = false)
    (hrun : (b.build n).2.1.cut? = none) :
    ((∃ f, (b.build n).2.1 = Run.fail f ∧ f.kind = .itemMissing) ↔
        ∃ m ∈ n.dependencies, b.slots m = none) ∧
      (∀ m, b.firstMissing n = some m →
        (∀ d w, (({ b with disk := d, network := w } : Board).build n).2
          = (Run.fail (.itemMissing m.name), [])) ∧
        ∃ s, (b.build n).1 = { b with stamps := s }) ∧
      ((∀ m ∈ n.dependencies, b.slots m ≠ none) →
        (b.build n).2.1 = .ok .built ∨ ∃ f, (b.build n).2.1 = Run.fail f ∧ b.Explains n f) := by
  have hs := starts_of_cut hfree hrun
  have hcut : (b.produce n).outcome.1.cut? = none := by
    rw [build_of_starts hs] at hrun
    exact Run.cut?_of_bind hrun
  have hmissing : ∀ m, b.firstMissing n = some m → ∀ d w,
      (({ b with disk := d, network := w } : Board).build n).2
        = (Run.fail (.itemMissing m.name), []) := by
    intro m hm d w
    rw [build_of_starts (b := { b with disk := d, network := w }) hs,
      outcome_produce_elsewhere hm hcut d w]
    rfl
  have hall : (∀ m ∈ n.dependencies, b.slots m ≠ none) →
      (b.build n).2.1 = .ok .built ∨ ∃ f, (b.build n).2.1 = Run.fail f ∧ b.Explains n f :=
    fun h => build_of_noneMissing hs (firstMissing_eq_none_iff.2 h) hcut
  refine ⟨⟨?_, ?_⟩, fun m hm => ⟨hmissing m hm, ?_⟩, hall⟩
  case refine_1 =>
    rintro ⟨f, hf, hkind⟩
    by_contra hno
    push Not at hno
    obtain hbuilt | ⟨g, hg, hexplained⟩ := hall hno
    · rw [hbuilt] at hf
      cases hf
    · rw [hg] at hf
      cases hf
      exact hexplained.kind_ne hkind
  case refine_2 =>
    rintro ⟨m, hm, hslot⟩
    cases hfirst : b.firstMissing n with
    | none => exact absurd hslot (firstMissing_eq_none_iff.1 hfirst m hm)
    | some k => exact ⟨_, congrArg Prod.fst (hmissing k hfirst b.disk b.network), rfl⟩
  case refine_3 =>
    obtain ⟨s, hb, -⟩ | ⟨v, d, s, ho, -, -⟩ := buildReading_cases b b n
    · exact ⟨s, hb⟩
    · rw [outcome_produce_elsewhere hm hcut b.disk b.network] at ho
      cases ho

/-- With coins and last trades in place, orderbooks name the prices of the day. -/
theorem dependencies_demanded_orderbooks :
    let b := ((Board.start default .empty .empty default 0).publish .coinEntries .empty).publish
      .lastTrades .empty
    b.building .orderbooks = false ∧ (b.build .orderbooks).2.1.cut? = none ∧
      (b.build .orderbooks).2 = (Run.fail (.itemMissing "pair_prices_24hr"), []) := by
  intro b
  have hrun : (b.build .orderbooks).2.1.cut? = none := by decide
  exact ⟨rfl, hrun, ((dependencies_demanded b .orderbooks rfl hrun).2.1 .dayPrices rfl).1 _ _⟩

/-- Without a key, an address or a figure, a build with all dependencies in place fails, and the
kind of its fault is none of those of services, replicas and files. -/
theorem dependencies_demanded_unless_usable :
    let b := Board.start default .empty .empty default 0
    let c := (b.publish .lastTrades .empty).publish .orderbooks
      (.ofList [("KMD_LTC", { Orderbook.blank "KMD" "LTC" with volumeUsd := "x" })])
    (b.firstMissing .rates = none ∧
        (b.build .rates).2 = (Run.fail (.keyMissing "FIXER_API_KEY"), [])) ∧
      (b.firstMissing .coinEntries = none ∧
        (b.build .coinEntries).2 = (Run.fail (.address .noScheme), [])) ∧
      (c.firstMissing .summary = none ∧
        ∃ cause, (c.build .summary).2 = (Run.fail (.decimal cause), [])) ∧
      ∀ f : Fault, f.IsOfService ∨ f.kind = .replica ∨ f.kind = .file →
        f.kind ∉ [.keyMissing, .address, .decimal] := by
  refine ⟨⟨rfl, rfl⟩, ⟨rfl, rfl⟩, ⟨rfl, _, rfl⟩, ?_⟩
  intro f
  unfold Fault.IsOfService
  generalize f.kind = k
  cases k <;> decide

end SwapMarket
