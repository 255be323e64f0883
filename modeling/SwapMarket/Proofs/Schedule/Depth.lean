import SwapMarket.Schedule.Levels
import Mathlib.Data.Fintype.EquivFin
import Mathlib.Data.Set.Finite.List
import Mathlib.Order.Bounds.Basic

/-!
# Depths of dependent items

The depth of an item is the length of its longest chain of dependencies (**`HasDepth`**). It is
above the depths of all dependencies and next to the greatest of them, so an item has a depth if
its dependencies have one (`hasDepth_of_dependencies`). An item that depends on itself through
others has chains of every length, and no depth (`not_hasDepth_of_cycle`).

What the passes over a table find are depths (**`AreDepths`**, kept by every pass), and a search
with as many passes as rows ends where a further pass finds nothing (`pass_settle`). What it leaves
out depends on something else that it leaves out, so there is a cycle (`exists_cycle`).
-/

namespace SwapMarket.Schedule

variable {α : Type}

/-! ## Chains of dependencies -/

/-- The items of a table. -/
def items (rows : List (Row α)) : List α := rows.map Row.item

/-- An item of the table depends on another. -/
def DependsOn (rows : List (Row α)) (a d : α) : Prop :=
  ∃ r ∈ rows, r.item = a ∧ d ∈ r.dependencies

/-- The items after `a` in a chain each of which depends on the next. -/
def IsChainFrom (rows : List (Row α)) (a : α) (ds : List α) : Prop :=
  (a :: ds).IsChain (DependsOn rows)

/-- The longest chain of dependencies of an item has a length. -/
def HasDepth (rows : List (Row α)) (a : α) (n : Nat) : Prop :=
  IsGreatest {k | ∃ ds, IsChainFrom rows a ds ∧ ds.length = k} n

section Chains

variable {rows : List (Row α)} {a d : α} {ds : List α} {n m : Nat}

theorem isChainFrom_nil (rows : List (Row α)) (a : α) : IsChainFrom rows a [] :=
  List.IsChain.singleton a

/-- A chain begins with a dependency. -/
theorem isChainFrom_cons :
    IsChainFrom rows a (d :: ds) ↔ DependsOn rows a d ∧ IsChainFrom rows d ds :=
  List.isChain_cons_cons

/-- A dependency is less deep. -/
theorem HasDepth.lt (ha : HasDepth rows a n) (h : DependsOn rows a d) (hd : HasDepth rows d m) :
    m < n := by
  obtain ⟨⟨ds, hds, rfl⟩, -⟩ := hd
  exact ha.2 ⟨d :: ds, isChainFrom_cons.2 ⟨h, hds⟩, rfl⟩

/-- An item of some depth above zero has a dependency of the depth before. -/
theorem HasDepth.exists_pred (h : HasDepth rows a (n + 1)) :
    ∃ d, DependsOn rows a d ∧ HasDepth rows d n := by
  obtain ⟨⟨ds, hds, hlength⟩, hgreatest⟩ := h
  cases ds with
  | nil => simp at hlength
  | cons d ds =>
    obtain ⟨had, hds⟩ := isChainFrom_cons.1 hds
    refine ⟨d, had, ⟨ds, hds, by simpa using hlength⟩, ?_⟩
    rintro k ⟨es, hes, rfl⟩
    have hle := hgreatest ⟨d :: es, isChainFrom_cons.2 ⟨had, hes⟩, rfl⟩
    simpa using hle

/-- Below an item there are items of every smaller depth, which others depend on. -/
theorem HasDepth.exists_below (h : HasDepth rows a n) (hm : m < n) :
    ∃ d, HasDepth rows d m ∧ ∃ b, DependsOn rows b d := by
  induction n generalizing a with
  | zero => omega
  | succ n ih =>
    obtain ⟨d, had, hd⟩ := h.exists_pred
    by_cases hmn : m = n
    · subst hmn
      exact ⟨d, hd, a, had⟩
    · exact ih hd (by omega)

/-- The depth of an item is found from those of its dependencies. -/
theorem hasDepth_of_dependencies
    (hbelow : ∀ d, DependsOn rows a d → ∃ m, HasDepth rows d m ∧ m < n)
    (hnext : n = 0 ∨ ∃ d m, DependsOn rows a d ∧ HasDepth rows d m ∧ n = m + 1) :
    HasDepth rows a n := by
  constructor
  · rcases hnext with rfl | ⟨d, m, had, ⟨⟨ds, hds, rfl⟩, -⟩, rfl⟩
    · exact ⟨[], isChainFrom_nil rows a, rfl⟩
    · exact ⟨d :: ds, isChainFrom_cons.2 ⟨had, hds⟩, rfl⟩
  · rintro k ⟨ds, hds, rfl⟩
    cases ds with
    | nil => exact Nat.zero_le n
    | cons d ds =>
      obtain ⟨had, hds⟩ := isChainFrom_cons.1 hds
      obtain ⟨m, hd, hm⟩ := hbelow d had
      exact Nat.lt_of_le_of_lt (hd.2 ⟨ds, hds, rfl⟩) hm

/-- What an item depends on through others starts shorter chains only. -/
theorem exists_longer_chain (h : Relation.TransGen (DependsOn rows) a d)
    (hds : IsChainFrom rows d ds) : ∃ es, IsChainFrom rows a es ∧ ds.length < es.length := by
  induction h generalizing ds with
  | single had => exact ⟨_ :: ds, isChainFrom_cons.2 ⟨had, hds⟩, Nat.lt_succ_self _⟩
  | tail _ hde ih =>
    obtain ⟨es, hes, hlt⟩ := ih (isChainFrom_cons.2 ⟨hde, hds⟩)
    exact ⟨es, hes, Nat.lt_of_succ_lt hlt⟩

/-- An item that depends on itself has no depth. -/
theorem not_hasDepth_of_cycle (h : Relation.TransGen (DependsOn rows) a a) (n : Nat) :
    ¬HasDepth rows a n := by
  rintro ⟨⟨ds, hds, rfl⟩, hgreatest⟩
  obtain ⟨es, hes, hlt⟩ := exists_longer_chain h hds
  exact absurd (hgreatest ⟨es, hes, rfl⟩) (Nat.not_le.2 hlt)

end Chains

/-! ## What is found -/

section Found

variable [DecidableEq α] {rows : List (Row α)} {ds : Depths α} {a : α} {deps : List α} {n : Nat}

/-- The depth that is found of an item is noted, if none is noted twice. -/
theorem depthOf?_eq_some_iff (h : (ds.map Prod.fst).Nodup) :
    depthOf? ds a = some n ↔ (a, n) ∈ ds := by
  unfold depthOf?
  constructor
  · intro hf
    obtain ⟨⟨b, m⟩, hfind, rfl⟩ := Option.map_eq_some_iff.1 hf
    obtain rfl : b = a := by simpa using List.find?_some hfind
    exact List.mem_of_find?_eq_some hfind
  · intro hm
    cases hf : ds.find? fun e => e.1 = a with
    | none => exact absurd (List.find?_eq_none.1 hf _ hm) (by simp)
    | some e =>
      have he : e.1 = a := by simpa using List.find?_some hf
      rw [List.inj_on_of_nodup_map h (List.mem_of_find?_eq_some hf) hm he]
      rfl

/-- No depth is found exactly if none is noted. -/
theorem depthOf?_eq_none_iff : depthOf? ds a = none ↔ a ∉ ds.map Prod.fst := by
  unfold depthOf?
  rw [Option.map_eq_none_iff, List.find?_eq_none, List.mem_map]
  constructor
  · rintro h ⟨e, he, rfl⟩
    exact h e he (by simp)
  · intro h e he hea
    exact h ⟨e, he, by simpa using hea⟩

/-- The next depth after some, and after one at least, is above all of them and next to one. -/
theorem foldl_next (ns : List Nat) (k : Nat) :
    let n := ns.foldl (fun m n => max m (n + 1)) k
    k ≤ n ∧ (∀ m ∈ ns, m < n) ∧ (n = k ∨ ∃ m ∈ ns, n = m + 1) := by
  induction ns generalizing k with
  | nil => simp
  | cons m ns ih =>
    obtain ⟨hle, hlt, heq⟩ := ih (max k (m + 1))
    refine ⟨by simp only [List.foldl_cons]; omega, List.forall_mem_cons.2 ⟨?_, hlt⟩, ?_⟩
    · simp only [List.foldl_cons]
      omega
    · rcases heq with heq | ⟨m', hm', heq⟩
      · rcases Nat.le_total k (m + 1) with hk | hk
        · refine .inr ⟨m, List.mem_cons_self, heq.trans (Nat.max_eq_right hk)⟩
        · exact .inl (heq.trans (Nat.max_eq_left hk))
      · exact .inr ⟨m', List.mem_cons_of_mem _ hm', heq⟩

/-- The depths of all items of a list, if all are found. -/
theorem mapM_depthOf?_eq_some {ns : List Nat} (h : deps.mapM (depthOf? ds) = some ns) :
    (∀ d ∈ deps, ∃ m ∈ ns, depthOf? ds d = some m) ∧
      ∀ m ∈ ns, ∃ d ∈ deps, depthOf? ds d = some m := by
  induction deps generalizing ns with
  | nil =>
    obtain rfl : [] = ns := by simpa using h
    simp
  | cons d deps ih =>
    simp only [List.mapM_cons, Option.bind_eq_bind, Option.bind_eq_some_iff, Option.pure_def,
      Option.some.injEq] at h
    obtain ⟨m, hm, ms, hms, rfl⟩ := h
    obtain ⟨hdeps, hns⟩ := ih hms
    constructor
    · refine List.forall_mem_cons.2 ⟨⟨m, List.mem_cons_self, hm⟩, fun d' hd' => ?_⟩
      obtain ⟨m', hm', hf⟩ := hdeps d' hd'
      exact ⟨m', List.mem_cons_of_mem _ hm', hf⟩
    · refine List.forall_mem_cons.2 ⟨⟨d, List.mem_cons_self, hm⟩, fun m' hm' => ?_⟩
      obtain ⟨d', hd', hf⟩ := hns m' hm'
      exact ⟨d', List.mem_cons_of_mem _ hd', hf⟩

/-- An item that is ready is next to the deepest of its dependencies. -/
theorem readyDepth?_eq_some (h : readyDepth? ds deps = some n) :
    (∀ d ∈ deps, ∃ m, depthOf? ds d = some m ∧ m < n) ∧
      (n = 0 ∨ ∃ d ∈ deps, ∃ m, depthOf? ds d = some m ∧ n = m + 1) := by
  obtain ⟨ns, hns, rfl⟩ := Option.map_eq_some_iff.1 h
  obtain ⟨hdeps, hfound⟩ := mapM_depthOf?_eq_some hns
  obtain ⟨-, hlt, heq⟩ := foldl_next ns 0
  constructor
  · intro d hd
    obtain ⟨m, hm, hf⟩ := hdeps d hd
    exact ⟨m, hf, hlt m hm⟩
  · rcases heq with heq | ⟨m, hm, heq⟩
    · exact .inl heq
    · obtain ⟨d, hd, hf⟩ := hfound m hm
      exact .inr ⟨d, hd, m, hf, heq⟩

/-- An item that is not ready waits for a dependency. -/
theorem exists_of_readyDepth?_eq_none (h : readyDepth? ds deps = none) :
    ∃ d ∈ deps, depthOf? ds d = none := by
  induction deps with
  | nil => simp [readyDepth?] at h
  | cons d deps ih =>
    cases hd : depthOf? ds d with
    | none => exact ⟨d, List.mem_cons_self, hd⟩
    | some m =>
      have hrest : readyDepth? ds deps = none := by
        unfold readyDepth? at h ⊢
        rw [Option.map_eq_none_iff] at h ⊢
        rw [List.mapM_cons, hd] at h
        cases hms : deps.mapM (depthOf? ds) with
        | none => rfl
        | some ms =>
          rw [hms] at h
          cases h
      obtain ⟨d', hd', hf⟩ := ih hrest
      exact ⟨d', List.mem_cons_of_mem _ hd', hf⟩

end Found

/-- What is found are items of the table with their depths, each once. -/
structure AreDepths (rows : List (Row α)) (ds : Depths α) : Prop where
  /-- No item is found twice. -/
  nodup : (ds.map Prod.fst).Nodup
  /-- Each item is one of the table. -/
  subset : ds.map Prod.fst ⊆ items rows
  /-- Each item has its depth. -/
  depth : ∀ e ∈ ds, HasDepth rows e.1 e.2

section Tables

variable {rows : List (Row α)} {ds : Depths α} {a : α}

theorem AreDepths.nil (rows : List (Row α)) : AreDepths rows [] :=
  ⟨.nil, by simp, by simp⟩

/-- No more is found than there is in the table. -/
theorem AreDepths.length_le (h : AreDepths rows ds) : ds.length ≤ rows.length := by
  simpa [items] using (List.subperm_of_subset h.nodup h.subset).length_le

/-- If as much is found as there is in the table, everything is found. -/
theorem AreDepths.perm (h : AreDepths rows ds) (hl : rows.length ≤ ds.length) :
    (ds.map Prod.fst).Perm (items rows) :=
  (List.subperm_of_subset h.nodup h.subset).perm_of_length_le (by simpa [items])

/-- In a table of different items, the dependencies of an item are those of its row. -/
theorem dependsOn_iff (hn : (items rows).Nodup) {r : Row α} (hr : r ∈ rows) {d : α} :
    DependsOn rows r.item d ↔ d ∈ r.dependencies := by
  constructor
  · rintro ⟨r', hr', he, hd⟩
    rwa [List.inj_on_of_nodup_map hn hr' hr he] at hd
  · intro hd
    exact ⟨r, hr, rfl, hd⟩

end Tables

/-! ## Passes -/

section Passes

variable [DecidableEq α] {rows : List (Row α)} {ds : Depths α} {a : α} {n : Nat}

/-- A depth that is noted is the depth. -/
theorem AreDepths.hasDepth (h : AreDepths rows ds) (hf : depthOf? ds a = some n) :
    HasDepth rows a n :=
  h.depth (a, n) ((depthOf?_eq_some_iff h.nodup).1 hf)

/-- An item that gets ready is found with its depth. -/
theorem AreDepths.concat (h : AreDepths rows ds) (hn : (items rows).Nodup) {r : Row α}
    (hr : r ∈ rows) (hnew : depthOf? ds r.item = none)
    (hready : readyDepth? ds r.dependencies = some n) : AreDepths rows (ds ++ [(r.item, n)]) := by
  obtain ⟨hbelow, hnext⟩ := readyDepth?_eq_some hready
  refine ⟨?_, ?_, ?_⟩
  · rw [List.map_append, List.nodup_append]
    refine ⟨h.nodup, by simp, ?_⟩
    rintro b hb c hc rfl
    obtain rfl : b = r.item := by simpa using hc
    exact depthOf?_eq_none_iff.1 hnew hb
  · rw [List.map_append, List.append_subset]
    have hitem : r.item ∈ items rows := List.mem_map_of_mem hr
    exact ⟨h.subset, by simpa using hitem⟩
  · refine List.forall_mem_append.2 ⟨h.depth, List.forall_mem_singleton.2 ?_⟩
    refine hasDepth_of_dependencies (fun d hd => ?_) ?_
    · obtain ⟨m, hf, hm⟩ := hbelow d ((dependsOn_iff hn hr).1 hd)
      exact ⟨m, h.hasDepth hf, hm⟩
    · rcases hnext with hzero | ⟨d, hd, m, hf, hm⟩
      · exact .inl hzero
      · exact .inr ⟨d, m, (dependsOn_iff hn hr).2 hd, h.hasDepth hf, hm⟩

/-- A pass over rows of the table finds depths. -/
theorem AreDepths.pass {rs : List (Row α)} (h : AreDepths rows ds) (hn : (items rows).Nodup)
    (hrs : rs ⊆ rows) : AreDepths rows (pass rs ds) := by
  induction rs generalizing ds with
  | nil => exact h
  | cons r rs ih =>
    obtain ⟨hr, hrs⟩ := List.cons_subset.1 hrs
    unfold Schedule.pass
    split
    · exact ih h hrs
    · next hnew =>
      split
      · next n hready => exact ih (h.concat hn hr (by simpa using hnew) hready) hrs
      · exact ih h hrs

/-- Passes keep the depths right. -/
theorem AreDepths.settle (h : AreDepths rows ds) (hn : (items rows).Nodup) (k : Nat) :
    AreDepths rows (settle rows k ds) := by
  induction k generalizing ds with
  | zero => exact h
  | succ k ih =>
    unfold Schedule.settle
    simp only
    split
    · exact h
    · exact ih (h.pass hn (List.Subset.refl rows))

/-- A pass that finds as many depths as there were leaves everything as it was. -/
theorem pass_eq_of_length (h : (pass rows ds).length = ds.length) : pass rows ds = ds :=
  ((pass_extends rows ds).eq_of_length h.symm).symm

/-- After a pass that finds nothing, an item that is not found waits for a dependency that is not
found either. -/
theorem exists_waiting_of_pass_eq (h : pass rows ds = ds) {r : Row α} (hr : r ∈ rows)
    (hf : depthOf? ds r.item = none) : ∃ d ∈ r.dependencies, depthOf? ds d = none := by
  suffices hready : readyDepth? ds r.dependencies = none from exists_of_readyDepth?_eq_none hready
  induction rows with
  | nil => cases hr
  | cons r' rs ih =>
    unfold pass at h
    split at h
    · next hfound =>
      rcases List.mem_cons.1 hr with rfl | hr
      · rw [hf] at hfound
        cases hfound
      · exact ih h hr
    · split at h
      · next n _ =>
        -- What is added stays.
        have hle := (pass_extends rs (ds ++ [(r'.item, n)])).length_le
        rw [h] at hle
        simp only [List.length_append, List.length_singleton] at hle
        omega
      · next hnot =>
        rcases List.mem_cons.1 hr with rfl | hr
        · exact hnot
        · exact ih h hr

/-- Passes end where a further one finds nothing, or find something each time. -/
theorem pass_settle_or (rows : List (Row α)) (k : Nat) (ds : Depths α) :
    pass rows (settle rows k ds) = settle rows k ds ∨
      ds.length + k ≤ (settle rows k ds).length := by
  induction k generalizing ds with
  | zero => exact .inr (Nat.le_refl _)
  | succ k ih =>
    unfold settle
    simp only
    split
    · next hlength => exact .inl (pass_eq_of_length hlength)
    · next hlength =>
      have hle := (pass_extends rows ds).length_le
      refine (ih (pass rows ds)).imp_right fun h => ?_
      omega

/-- With as many passes as rows, the search ends where a further pass finds nothing. -/
theorem pass_settle (hn : (items rows).Nodup) :
    pass rows (settle rows rows.length []) = settle rows rows.length [] := by
  rcases pass_settle_or rows rows.length [] with h | h
  · exact h
  · -- Everything is found.
    have hle := (((AreDepths.nil rows).settle hn rows.length).pass hn
      (List.Subset.refl rows)).length_le
    have hextends := (pass_extends rows (settle rows rows.length [])).length_le
    exact pass_eq_of_length (by simp only [List.length_nil, Nat.zero_add] at h; omega)

/-- Passes that settle nothing settle nothing later. -/
theorem settle_of_pass_eq (h : pass rows ds = ds) (k : Nat) : settle rows k ds = ds := by
  cases k with
  | zero => rfl
  | succ k =>
    unfold settle
    simp only
    rw [if_pos (congrArg List.length h)]

/-- Passes may be counted in parts. -/
theorem settle_add (rows : List (Row α)) (k j : Nat) (ds : Depths α) :
    settle rows (k + j) ds = settle rows j (settle rows k ds) := by
  induction k generalizing ds with
  | zero => rw [Nat.zero_add, settle]
  | succ k ih =>
    rw [Nat.add_right_comm, settle, settle]
    by_cases hlength : (pass rows ds).length = ds.length
    · simp only [if_pos hlength]
      exact (settle_of_pass_eq (pass_eq_of_length hlength) j).symm
    · simp only [if_neg hlength]
      exact ih (pass rows ds)

/-- More passes than rows find no more. -/
theorem settle_of_length_le (hn : (items rows).Nodup) {k : Nat} (hk : rows.length ≤ k) :
    settle rows k [] = settle rows rows.length [] := by
  obtain ⟨j, rfl⟩ := Nat.exists_eq_add_of_le hk
  rw [settle_add, settle_of_pass_eq (pass_settle hn)]

/-- If a further pass finds nothing, though not everything is found, items depend on each other in a
cycle. -/
theorem exists_cycle (hd : ∀ a d, DependsOn rows a d → d ∈ items rows) (h : pass rows ds = ds)
    (ha : a ∈ items rows) (hf : depthOf? ds a = none) :
    ∃ a, Relation.TransGen (DependsOn rows) a a := by
  by_contra hcycle
  have hfinite : Finite {a // a ∈ items rows} := (List.finite_toSet (items rows)).to_subtype
  let below (x y : {a // a ∈ items rows}) : Prop := Relation.TransGen (DependsOn rows) y.1 x.1
  have htrans : IsTrans _ below := ⟨fun _ _ _ hxy hyz => hyz.trans hxy⟩
  have hirrefl : Std.Irrefl below := ⟨fun x hx => hcycle ⟨x.1, hx⟩⟩
  -- Among the items that are not found there is one below which all are found.
  obtain ⟨⟨b, hb⟩, hnone, hleast⟩ := (Finite.wellFounded_of_trans_of_irrefl below).has_min
    {x | depthOf? ds x.1 = none} ⟨⟨a, ha⟩, hf⟩
  obtain ⟨r, hr, rfl⟩ := List.mem_map.1 hb
  obtain ⟨d, hdr, hdnone⟩ := exists_waiting_of_pass_eq h hr hnone
  have hdepends : DependsOn rows r.item d := ⟨r, hr, rfl, hdr⟩
  exact hleast ⟨d, hd _ d hdepends⟩ hdnone (.single hdepends)

end Passes

end SwapMarket.Schedule
