import SwapMarket.Proofs.Board.Calls
import SwapMarket.Proofs.Schedule.Levels

/-!
# A refresh among other calls

A refresh builds the items of its levels by calls of its own, level after level. The calls of one
level ask for their tokens in any order and run at the same time, beside each other and beside any
other calls, and a level begins when all calls of the level before are over (**`Refresh.Step`**).
What carries the proofs is **`Refresh.Fits`**: the calls of the levels before are over, and those
still to come wait.

* `Refresh.Fits.over_of_asked`: a call of a level that has asked for its token finds the calls of
  all levels before over.
* `Refresh.exists_run_of_refreshLevels`: what `Board.refreshLevels` does is such a refresh, unless
  it is cut short.

The main statement **`levels_of_table`** says how any table of items is arranged, what of it is due,
and that a refresh of what is due builds no item before its dependencies.
-/

namespace SwapMarket

open Schedule

/-- Whether a call is over. -/
def Phase.isOver {n : Item} (p : Phase n) : Bool := p.outcome?.isSome

/-- A call that is over does not go on. -/
theorem Phase.Next.isOver_eq_false {n : Item} {p q : Phase n} (h : p.Next q) :
    p.isOver = false := by
  cases h with
  | @fail p hp =>
    cases p with
    | producing | produced => rfl
    | _ => cases hp
  | _ => rfl

/-- What a build leaves is what a build with the same producer leaves. -/
theorem Board.buildReading_fst (source b : Board) (n : Item) :
    (source.buildReading b n).1 = (b.runBuild n fun b => (b, (source.produce n).outcome.1)).1 := by
  unfold buildReading runBuild
  cases b.starts n with
  | error s => rfl
  | ok starts => cases starts <;> rfl

/-- A producer is run once, on the board on which the build has begun. -/
theorem Board.runBuild_congr {b : Board} {n : Item} {p q : Board → Board × Run n.Value}
    (h : p (b.begin n) = q (b.begin n)) : b.runBuild n p = b.runBuild n q := by
  unfold runBuild
  rw [h]

namespace Calls

variable {item : Nat → Item}

/-- A call that is over stays so. -/
theorem isOver_step {s : Calls item} {c : Nat} (h : (s.phase c).isOver = true) (m : Move item) :
    ((s.step m).phase c).isOver = true := by
  rcases (s.step_effect m).phase_next c with hp | hp
  · rw [hp]
    exact h
  · rw [hp.isOver_eq_false] at h
    cases h

/-- A build, with a producer that reads its inputs off some board, is what a call does on its
own. -/
theorem exists_run_of_buildReading {s : Calls item} {c : Nat} (hw : s.phase c = .waiting)
    (source : Board) :
    ∃ ms : List (Move item), (∀ m ∈ ms, m.call? = some c ∧ ∀ d, m ≠ .ask d) ∧
      let t := (s.step (.ask c)).run ms
      (t.phase c).isOver = true ∧ t.board = (source.buildReading s.board (item c)).1 := by
  by_cases hs : s.board.starts (item c) = .ok true
  · have hnone : ∀ m ∈ ([] : List (Move item)), m.call? ≠ some c := by simp
    obtain ⟨o, ho, hb⟩ := runBuild_eq_run hw hs hnone (source.produce (item c)).outcome.1
    refine ⟨[.produce c (source.produce (item c)).outcome.1, .write c none, .publish c, .finish c],
      by simp [Move.call?], ?_, ?_⟩
    · exact Option.isSome_iff_exists.2 ⟨o, ho⟩
    · rw [Board.buildReading_fst]
      refine (congrArg Prod.fst hb).symm.trans (congrArg Prod.fst (Board.runBuild_congr ?_))
      rw [run_cons, run_nil, step_ask hw hs, setPhase_board]
  · obtain ⟨o, ho, hb⟩ := runBuild_eq_ask hw hs fun b => (b, (source.produce (item c)).outcome.1)
    refine ⟨[], by simp, ?_, ?_⟩
    · exact Option.isSome_iff_exists.2 ⟨o, ho⟩
    · rw [Board.buildReading_fst, hb, run_nil]

end Calls

/-- A refresh under way. -/
structure Refresh (item : Nat → Item) where
  /-- All calls. -/
  calls : Calls item
  /-- The calls of the present level that have asked for their tokens. -/
  asked : List Nat
  /-- The calls of the present level that have not. -/
  waiting : List Nat
  /-- The calls of the levels to come. -/
  later : List (List Nat)

namespace Refresh

variable {item : Nat → Item} {plan : List (List Nat)} {r r' : Refresh item} {s : Calls item}

/-- A refresh that has not begun. -/
def start (s : Calls item) (plan : List (List Nat)) : Refresh item := ⟨s, [], [], plan⟩

/-- How a refresh goes on. -/
inductive Step : Refresh item → Refresh item → Prop where
  /-- A call of the present level asks for its token. -/
  | ask {s : Calls item} {c : Nat} {asked after : List Nat} {later : List (List Nat)}
    (before : List Nat) :
    Step ⟨s, asked, before ++ c :: after, later⟩
      ⟨s.step (.ask c), asked ++ [c], before ++ after, later⟩
  /-- Anything else is done, by these calls or by others. -/
  | move {s : Calls item} {asked waiting : List Nat} {later : List (List Nat)} (m : Move item)
    (h : ∀ c ∈ waiting ++ later.flatten, m ≠ .ask c) :
    Step ⟨s, asked, waiting, later⟩ ⟨s.step m, asked, waiting, later⟩
  /-- The next level begins. -/
  | level {s : Calls item} {asked level : List Nat} {later : List (List Nat)}
    (h : ∀ c ∈ asked, (s.phase c).isOver = true) :
    Step ⟨s, asked, [], level :: later⟩ ⟨s, [], level, later⟩

/-- What holds of a refresh at any time. -/
structure Fits (plan : List (List Nat)) (r : Refresh item) : Prop where
  /-- All calls of the levels before are over. -/
  finished : ∃ done present, [] :: plan = done ++ present :: r.later ∧
    present.Perm (r.asked ++ r.waiting) ∧ ∀ c ∈ done.flatten, (r.calls.phase c).isOver = true
  /-- All calls still to come wait. -/
  waiting : ∀ c ∈ r.waiting ++ r.later.flatten, r.calls.phase c = .waiting

/-- At the start no call of the plan has asked yet. -/
theorem Fits.start (h : ∀ c ∈ plan.flatten, s.phase c = .waiting) : Fits plan (start s plan) :=
  ⟨⟨[], [], rfl, .refl _, by simp⟩, h⟩

/-- What is still to come stands once in a plan. -/
theorem Fits.nodup (h : Fits plan r) (hn : plan.flatten.Nodup) :
    (r.waiting ++ r.later.flatten).Nodup := by
  obtain ⟨⟨done, present, hplan, hpresent, -⟩, -⟩ := h
  have hflat : plan.flatten = done.flatten ++ (present ++ r.later.flatten) := by
    simpa using congrArg List.flatten hplan
  rw [hflat] at hn
  have hlevel := ((hpresent.append_right _).nodup_iff).1 (List.nodup_append.1 hn).2.1
  rw [List.append_assoc] at hlevel
  exact (List.nodup_append.1 hlevel).2.1

/-- A step of the refresher keeps the plan. -/
theorem Fits.step (h : Fits plan r) (hn : plan.flatten.Nodup) (hs : Step r r') : Fits plan r' := by
  have hlater := h.nodup hn
  obtain ⟨⟨done, present, hplan, hpresent, hover⟩, hwaiting⟩ := h
  cases hs with
  | @ask s c asked after later before =>
    refine ⟨⟨done, present, hplan, ?_, fun d hd => s.isOver_step (hover d hd) _⟩, fun d hd => ?_⟩
    · refine hpresent.trans ?_
      simpa using List.perm_middle.append_left asked
    · rw [List.append_assoc] at hd hlater hwaiting
      refine s.waiting_step (hwaiting d ?_) ?_
      · exact (List.sublist_cons_self c _).append_left before |>.mem (by simpa using hd)
      · rintro ⟨rfl⟩
        exact (List.nodup_middle.1 hlater).notMem hd
  | move m hm =>
    exact ⟨⟨done, present, hplan, hpresent, fun d hd => Calls.isOver_step (hover d hd) m⟩,
      fun d hd => Calls.waiting_step (hwaiting d hd) (hm d hd)⟩
  | @level s asked level later hasked =>
    refine ⟨⟨done ++ [present], level, by simpa using hplan, .refl _, fun d hd => ?_⟩, hwaiting⟩
    rw [List.flatten_append, List.flatten_singleton, List.mem_append] at hd
    rcases hd with hd | hd
    · exact hover d hd
    · exact hasked d (by simpa using hpresent.mem_iff.1 hd)

theorem Fits.run (h : Fits plan r) (hn : plan.flatten.Nodup)
    (hr : Relation.ReflTransGen Step r r') : Fits plan r' := by
  induction hr with
  | refl => exact h
  | tail _ hs ih => exact ih.step hn hs

/-- A call that has asked for its token finds those of all levels before over. -/
theorem Fits.over_of_asked (h : Fits plan r) {pre post : List (List Nat)}
    {level : List Nat} (hp : plan = pre ++ level :: post) {c d : Nat} (hc : c ∈ level)
    (hw : r.calls.phase c ≠ .waiting) (hd : d ∈ pre.flatten) :
    (r.calls.phase d).isOver = true := by
  obtain ⟨⟨done, present, hplan, -, hover⟩, hwaiting⟩ := h
  rw [hp, ← List.cons_append] at hplan
  rcases List.append_eq_append_iff.1 hplan with ⟨more, hdone, -⟩ | ⟨rest, hpre, hlater⟩
  · refine hover d ?_
    rw [hdone]
    simp [hd]
  · cases rest with
    | nil =>
      refine hover d ?_
      rw [List.append_nil] at hpre
      rw [← hpre]
      exact hd
    | cons present rest =>
      -- The level is still to come.
      obtain ⟨-, hlater⟩ := List.cons_eq_cons.1 hlater
      refine absurd (hwaiting c (List.mem_append_right _ ?_)) hw
      rw [hlater]
      simp [hc]

/-- A call that is over stays so. -/
theorem isOver_run (hr : Relation.ReflTransGen Step r r') {c : Nat}
    (h : (r.calls.phase c).isOver = true) : (r'.calls.phase c).isOver = true := by
  induction hr with
  | refl => exact h
  | tail _ hs ih =>
    cases hs with
    | ask | move => exact Calls.isOver_step ih _
    | level => exact ih

/-! ## The refresh that runs -/

/-- Moves that ask for no token are part of a refresh. -/
theorem run_moves (s : Calls item) (asked waiting : List Nat) (later : List (List Nat))
    {ms : List (Move item)} (h : ∀ m ∈ ms, ∀ d, m ≠ .ask d) :
    Relation.ReflTransGen Step ⟨s, asked, waiting, later⟩ ⟨s.run ms, asked, waiting, later⟩ := by
  induction ms generalizing s with
  | nil => exact .refl
  | cons m ms ih =>
    obtain ⟨hm, hms⟩ := List.forall_mem_cons.1 h
    exact .head (.move m fun c _ => hm c) (ih (s.step m) hms)

/-- Builds one after the other are what the calls of a level do one after the other. -/
theorem exists_run_of_buildAll (source : Board) {level : List Nat}
    (hw : ∀ c ∈ level, s.phase c = .waiting) (hn : level.Nodup) (asked : List Nat)
    (later : List (List Nat)) :
    ∃ t : Calls item,
      Relation.ReflTransGen Step ⟨s, asked, level, later⟩ ⟨t, asked ++ level, [], later⟩ ∧
        t.board = (Board.buildAll source s.board (level.map item)).1 ∧
          (∀ c ∈ level, (t.phase c).isOver = true) ∧ ∀ c ∉ level, t.phase c = s.phase c := by
  induction level generalizing s asked with
  | nil =>
    refine ⟨s, ?_, rfl, by simp, fun _ _ => rfl⟩
    rw [List.append_nil]
  | cons c level ih =>
    obtain ⟨hc, hlevel⟩ := List.nodup_cons.1 hn
    obtain ⟨hwc, hw⟩ := List.forall_mem_cons.1 hw
    obtain ⟨ms, hms, hover, hboard⟩ := s.exists_run_of_buildReading hwc source
    have hothers : ∀ d, d ≠ c → ((s.step (.ask c)).run ms).phase d = s.phase d := by
      intro d hd
      show (s.run (.ask c :: ms)).phase d = s.phase d
      refine Calls.phase_run_of_ne (List.forall_mem_cons.2 ⟨?_, ?_⟩) s
      · exact fun he => hd (Option.some.inj he).symm
      · intro m hm he
        exact hd (Option.some.inj (he.symm.trans (hms m hm).1))
    have hrun : Relation.ReflTransGen Step ⟨s, asked, c :: level, later⟩
        ⟨(s.step (.ask c)).run ms, asked ++ [c], level, later⟩ :=
      .head (.ask []) (run_moves _ _ _ _ fun m hm => (hms m hm).2)
    generalize (s.step (.ask c)).run ms = u at hover hboard hothers hrun
    obtain ⟨t, ht, hb, hlast, hrest⟩ := ih (s := u)
      (fun d hd => (hothers d fun he => hc (he ▸ hd)).trans (hw d hd)) hlevel (asked ++ [c])
    refine ⟨t, hrun.trans (by simpa using ht), ?_, ?_, ?_⟩
    · rw [hb, hboard]
      rfl
    · exact List.forall_mem_cons.2 ⟨by rw [hrest c hc]; exact hover, hlast⟩
    · intro d hd
      rw [List.mem_cons, not_or] at hd
      rw [hrest d hd.2, hothers d hd.1]

/-- A refresh that is not cut short is one in which the calls of each level come one after the
other. -/
theorem exists_run_of_refreshLevels {b : Board} {requests : List Request}
    (hw : ∀ c ∈ plan.flatten, s.phase c = .waiting) (hn : plan.flatten.Nodup)
    (h : s.board.refreshLevels (plan.map (List.map item)) = (b, .ok (), requests))
    (asked : List Nat) (ha : ∀ c ∈ asked, (s.phase c).isOver = true) :
    ∃ t asked', Relation.ReflTransGen Step ⟨s, asked, [], plan⟩ ⟨t, asked', [], []⟩ ∧
      t.board = b ∧ ∀ c ∈ plan.flatten, (t.phase c).isOver = true := by
  induction plan generalizing s asked requests with
  | nil =>
    cases h
    exact ⟨s, asked, .refl, rfl, by simp⟩
  | cons level later ih =>
    rw [List.flatten_cons] at hw hn
    obtain ⟨hlevel, hlater, hdisjoint⟩ := List.nodup_append.1 hn
    obtain ⟨hwlevel, hwlater⟩ := List.forall_mem_append.1 hw
    obtain ⟨u, hu, hboard, hover, hothers⟩ :=
      exists_run_of_buildAll s.board hwlevel hlevel [] later
    rw [List.map_cons] at h
    unfold Board.refreshLevels Board.refreshLevel at h
    cases hall : Board.buildAll s.board s.board (level.map item) with
    | mk d rest =>
      obtain ⟨cut, requests₁⟩ := rest
      rw [hall] at h hboard
      cases cut with
      | some stop => cases h
      | none =>
        simp only [Prod.mk.injEq] at h hboard
        obtain ⟨hd, hr, -⟩ := h
        subst hboard
        have hmem : ∀ c ∈ later.flatten, c ∉ level := fun c hc hcl => hdisjoint c hcl c hc rfl
        obtain ⟨t, asked', ht, hb, hlast⟩ := ih (s := u)
          (fun c hc => (hothers c (hmem c hc)).trans (hwlater c hc)) hlater
          (Prod.ext hd (Prod.ext hr rfl)) level hover
        refine ⟨t, asked', (Relation.ReflTransGen.head (.level ha) hu).trans ht, hb, ?_⟩
        exact List.forall_mem_append.2 ⟨fun c hc => isOver_run ht (hover c hc), hlast⟩

end Refresh

/-! ## Main statement -/

section Faults

variable {rows : List (Row Item)}

/-- Levels are refused for a missing item exactly if a dependency is not in the table. -/
theorem exists_itemMissing_iff :
    (∃ f, (levels rows).mapError Item.levelsFault = .error f ∧ f.kind = .itemMissing) ↔
      ∃ a d, levels rows = .error (.unregistered a d) := by
  cases levels rows with
  | ok ls => simp [Except.mapError]
  | error e => cases e <;> simp [Except.mapError, Item.levelsFault, Fault.kind]

/-- Levels are refused as a configuration exactly if there is a cycle. -/
theorem exists_configuration_iff :
    (∃ f, (levels rows).mapError Item.levelsFault = .error f ∧ f.kind = .configuration) ↔
      levels rows = .error .cycle := by
  cases levels rows with
  | ok ls => simp [Except.mapError]
  | error e => cases e <;> simp [Except.mapError, Item.levelsFault, Fault.kind]

/-- Levels that are found are found, whatever a fault would be called. -/
theorem levels_mapError_eq_ok_iff {ls : List (List Item)} :
    (levels rows).mapError Item.levelsFault = .ok ls ↔ levels rows = .ok ls := by
  cases levels rows <;> simp [Except.mapError]

end Faults

/-- In a refresh of what is due, a call that has asked for its token finds the calls for all
dependencies over that are due. -/
theorem Refresh.Fits.exists_over {rows : List (Row Item)} {ls : List (List Item)} {due : List Item}
    {item : Nat → Item} {plan : List (List Nat)} {r : Refresh item} (h : r.Fits plan)
    (ha : IsArranged rows ls) (hc : IsSelfContained rows)
    (hplan : plan.map (List.map item) = dueLevels ls due) {c : Nat} (hcp : c ∈ plan.flatten)
    (hw : r.calls.phase c ≠ .waiting) {d : Item} (hd : d ∈ due) (had : DependsOn rows (item c) d) :
    ∃ e ∈ plan.flatten, item e = d ∧ (r.calls.phase e).isOver = true := by
  obtain ⟨level, hlevel, hcl⟩ := List.mem_flatten.1 hcp
  obtain ⟨pre, post, rfl⟩ := List.append_of_mem hlevel
  rw [List.map_append, List.map_cons] at hplan
  have hdp := ha.mem_of_dueLevels hc hplan.symm (List.mem_map_of_mem hcl) had hd
  rw [← List.map_flatten] at hdp
  obtain ⟨e, he, rfl⟩ := List.mem_map.1 hdp
  exact ⟨e, by simp [he], rfl, h.over_of_asked rfl hcl hw he⟩

/-- Any table of different items, whatever they depend on:

* the search for depths ends, since more passes than rows find nothing more;
* the table is reported to miss an item if and only if it misses a dependency;
* if it misses none, it is reported to have a cycle if and only if an item depends on itself,
  directly or through others;
* if there is no cycle either, there are levels, on which every item is once, each on the level that
  is the length of its longest chain of dependencies, and no level is empty;
* of the levels, what is due of the table is kept, each item once, and everything due that an item
  depends on is on a level before its own;
* whatever else is done meanwhile, a refresh of what is due lets a call ask for its token only after
  the calls for all dependencies that are due are over, and the refresh of a board is such a refresh
  unless it is cut short. -/
theorem levels_of_table (rows : List (Row Item)) (hn : (items rows).Nodup) :
    let result := (levels rows).mapError Item.levelsFault
    (∀ k, rows.length ≤ k → settle rows k [] = settle rows rows.length []) ∧
    ((∃ f, result = .error f ∧ f.kind = .itemMissing) ↔
      ∃ a d, DependsOn rows a d ∧ d ∉ items rows) ∧
    ((∀ a d, DependsOn rows a d → d ∈ items rows) →
      ((∃ f, result = .error f ∧ f.kind = .configuration) ↔
        ∃ a, Relation.TransGen (DependsOn rows) a a) ∧
      ((¬∃ a, Relation.TransGen (DependsOn rows) a a) → ∃ ls, result = .ok ls)) ∧
    ∀ ls, result = .ok ls →
      ls.flatten.Perm (items rows) ∧
      (∀ n l, ls[n]? = some l → l ≠ [] ∧ ∀ a ∈ l, HasDepth rows a n) ∧
      ∀ due : List Item,
        (dueLevels ls due).flatten.Perm ((items rows).filter fun a => due.contains a) ∧
        (∀ pre level post, dueLevels ls due = pre ++ level :: post →
          ∀ a ∈ level, ∀ d ∈ due, DependsOn rows a d → d ∈ pre.flatten) ∧
        ∀ (item : Nat → Item) (plan : List (List Nat)) (s : Calls item),
          plan.map (List.map item) = dueLevels ls due →
          (∀ c ∈ plan.flatten, s.phase c = .waiting) →
            (∀ r, Relation.ReflTransGen Refresh.Step (.start s plan) r →
              ∀ c ∈ plan.flatten, r.calls.phase c ≠ .waiting →
                ∀ d ∈ due, DependsOn rows (item c) d →
                  ∃ e ∈ plan.flatten, item e = d ∧ (r.calls.phase e).isOver = true) ∧
            ∀ b requests, s.board.refreshLevels (dueLevels ls due) = (b, .ok (), requests) →
              ∃ r, Relation.ReflTransGen Refresh.Step (.start s plan) r ∧ r.calls.board = b ∧
                ∀ c ∈ plan.flatten, (r.calls.phase c).isOver = true := by
  intro result
  refine ⟨fun k hk => settle_of_length_le hn hk, ?_, fun hc => ⟨?_, fun hcycle => ?_⟩, ?_⟩
  · rw [exists_itemMissing_iff, levels_unregistered_iff]
    simp [IsSelfContained]
  · rw [exists_configuration_iff]
    exact levels_cycle_iff hn hc
  · obtain ⟨ls, hls⟩ := exists_levels hn hc hcycle
    exact ⟨ls, levels_mapError_eq_ok_iff.2 hls⟩
  · intro ls hls
    rw [levels_mapError_eq_ok_iff] at hls
    have ha := isArranged_of_levels hn hls
    have hc := isSelfContained_of_levels hls
    refine ⟨ha.perm, fun n l hl => ⟨ha.ne_nil l (List.mem_of_getElem? hl), ha.depth n l hl⟩,
      fun due => ⟨?_, ?_, ?_⟩⟩
    · rw [flatten_dueLevels]
      exact ha.perm.filter _
    · intro pre level post hp a hal d hd had
      exact ha.mem_of_dueLevels hc hp hal had hd
    · intro item plan s hplan hw
      have hdistinct : plan.flatten.Nodup := by
        have hdue : (dueLevels ls due).flatten.Nodup := by
          rw [flatten_dueLevels]
          exact (ha.perm.nodup_iff.2 hn).filter _
        rw [← hplan, ← List.map_flatten] at hdue
        exact hdue.of_map item
      constructor
      · intro r hr c hcp hasked d hd had
        exact ((Refresh.Fits.start hw).run hdistinct hr).exists_over ha hc hplan hcp hasked hd had
      · intro b requests hb
        rw [← hplan] at hb
        obtain ⟨t, asked, ht, hboard, hover⟩ :=
          Refresh.exists_run_of_refreshLevels hw hdistinct hb [] (by simp)
        exact ⟨_, ht, hboard, hover⟩

/-- Four items, each before what it depends on. -/
def lateDependencies : List (Row Item) :=
  [⟨.summary, [.coinEntries, .lastTrades]⟩, ⟨.dayPrices, []⟩, ⟨.lastTrades, [.coinEntries]⟩,
    ⟨.coinEntries, []⟩]

/-- Call 0 builds the configuration of all tickers, and all others the summary. -/
def itemOfRefreshCall : Nat → Item
  | 0 => .coinEntries
  | _ => .summary

/-- In this refresh the first build fails. -/
theorem levels_of_table_lateDependencies :
    (items lateDependencies).Nodup ∧
    (levels lateDependencies).mapError Item.levelsFault
      = .ok [[.dayPrices, .coinEntries], [.lastTrades], [.summary]] ∧
    HasDepth lateDependencies .summary 2 ∧
    (let s : Calls itemOfRefreshCall :=
      (Calls.start (.start default .empty .empty default 0)).run
        [.ask 0, .produce 0 (.error .overflow), .ask 1]
    s.phase 1 = .producing ∧
      ∃ e ∈ [0, 1], itemOfRefreshCall e = .coinEntries ∧ (s.phase e).isOver = true) := by
  have hn : (items lateDependencies).Nodup := by decide
  obtain ⟨-, -, -, h⟩ := levels_of_table lateDependencies hn
  obtain ⟨-, hdepth, hdue⟩ := h [[.dayPrices, .coinEntries], [.lastTrades], [.summary]] rfl
  refine ⟨hn, rfl, (hdepth 2 [.summary] rfl).2 .summary (by simp), rfl, ?_⟩
  obtain ⟨-, -, hrefresh⟩ := hdue [.summary, .coinEntries]
  obtain ⟨hover, -⟩ := hrefresh itemOfRefreshCall [[0], [1]]
    (.start (.start default .empty .empty default 0)) rfl fun _ _ => rfl
  refine hover ⟨_, [1], [], []⟩ ?_ 1 (by simp) (fun h => by cases h) .coinEntries (by simp)
    ⟨_, List.mem_cons_self, rfl, by simp⟩
  refine .head (.level (by simp)) (.head (.ask []) (.head
    (.move (.produce 0 (.error .overflow)) ?_) (.head (.level ?_) (.single (.ask [])))))
  · intro c hc h
    cases h
  · intro c hc
    obtain rfl : c = 0 := by simpa using hc
    rfl

end SwapMarket
