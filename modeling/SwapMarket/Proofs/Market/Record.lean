import SwapMarket.Market.Record
import SwapMarket.Proofs.Run
import SwapMarket.Proofs.Table
import Mathlib.Algebra.Ring.Nat

/-!
# Tables of market records

A table of records has one record for each market of its list (`keys_recordList`,
`exists_mem_recordList`), and what is found in it is the record of a market, namely of the last one
with the identifier (`find?_reverse_of_recordTable`). If no two markets have the same identifier,
each is found under its own (`find?_recordTable`), and what is added up over the table is added up
over the list (`sum_recordTable`). Then the table is known by what is found in it
(`recordTable_ok_iff`): it does not show the order of the markets (`recordTable_perm`), and another
record of one market is another entry (`recordTable_insert`).
-/

namespace SwapMarket

variable {α : Type} {record : String → String → Run α} {ms : List (String × String)}

/-- The identifier of a market given by its base and its quote. -/
def Pair.ofSides (m : String × String) : String := Pair.join m.1 m.2

section List

variable {es : List (String × α)}

/-- The records are listed under the identifiers of the markets. -/
theorem keys_recordList (h : recordList record ms = .ok es) :
    es.map Prod.fst = ms.map Pair.ofSides := by
  induction ms generalizing es with
  | nil =>
    cases h
    rfl
  | cons m ms ih =>
    simp only [recordList, Run.bind_ok_iff, Run.pure_eq_ok, Except.ok.injEq] at h
    obtain ⟨r, -, rs, hrs, rfl⟩ := h
    rw [List.map_cons, List.map_cons, ih hrs]
    rfl

/-- Each market has its record in the list. -/
theorem exists_mem_recordList (h : recordList record ms = .ok es) {m : String × String}
    (hm : m ∈ ms) : ∃ r, (Pair.ofSides m, r) ∈ es ∧ record m.1 m.2 = .ok r := by
  induction ms generalizing es with
  | nil => cases hm
  | cons m' ms ih =>
    simp only [recordList, Run.bind_ok_iff, Run.pure_eq_ok, Except.ok.injEq] at h
    obtain ⟨r', hr', rs, hrs, rfl⟩ := h
    rcases List.mem_cons.1 hm with rfl | hm
    · exact ⟨r', List.mem_cons_self, hr'⟩
    · obtain ⟨r, hr, hrec⟩ := ih hrs hm
      exact ⟨r, List.mem_cons_of_mem _ hr, hrec⟩

/-- The record listed last under an identifier is that of the last market of this identifier. -/
theorem find?_reverse_recordList (h : recordList record ms = .ok es) {k : String} {r : α}
    (hr : (es.reverse.find? fun e => e.1 == k).map (·.2) = some r) :
    ∃ m, ms.reverse.find? (Pair.ofSides · == k) = some m ∧ record m.1 m.2 = .ok r := by
  induction ms generalizing es with
  | nil =>
    cases h
    cases hr
  | cons m ms ih =>
    simp only [recordList, Run.bind_ok_iff, Run.pure_eq_ok, Except.ok.injEq] at h
    obtain ⟨r', hr', rs, hrs, rfl⟩ := h
    rw [List.reverse_cons, List.find?_append] at hr ⊢
    cases hf : rs.reverse.find? fun e => e.1 == k with
    | some e =>
      rw [hf] at hr
      obtain ⟨m', hm', hrec⟩ := ih hrs (by rw [hf]; exact hr)
      exact ⟨m', by rw [hm']; rfl, hrec⟩
    | none =>
      have hnone : ms.reverse.find? (Pair.ofSides · == k) = none := by
        rw [List.find?_eq_none] at hf ⊢
        intro m' hm' hk
        obtain ⟨r'', hmem, -⟩ := exists_mem_recordList hrs (List.mem_reverse.1 hm')
        exact hf _ (List.mem_reverse.2 hmem) hk
      rw [hf, Option.none_or] at hr
      rw [hnone, Option.none_or]
      by_cases hk : Pair.ofSides m = k
      · rw [List.find?_cons_of_pos (by exact beq_iff_eq.2 hk)] at hr ⊢
        cases hr
        exact ⟨m, rfl, hr'⟩
      · rw [List.find?_cons_of_neg (by exact fun h => hk (beq_iff_eq.1 h))] at hr
        cases hr

/-- The records of markets are listed if each of them can be made. -/
theorem exists_recordList_iff :
    (∃ es, recordList record ms = .ok es) ↔ ∀ m ∈ ms, ∃ r, record m.1 m.2 = .ok r := by
  constructor
  · rintro ⟨es, hes⟩ m hm
    obtain ⟨r, -, hr⟩ := exists_mem_recordList hes hm
    exact ⟨r, hr⟩
  · intro h
    induction ms with
    | nil => exact ⟨[], rfl⟩
    | cons m ms ih =>
      obtain ⟨⟨r, hr⟩, hrest⟩ := List.forall_mem_cons.1 h
      obtain ⟨es, hes⟩ := ih hrest
      refine ⟨(Pair.ofSides m, r) :: es, ?_⟩
      simp only [recordList, hr, hes, Run.ok_bind]
      rfl

/-- What each record tells can be read off the markets. -/
theorem map_recordList {β : Type} {f : α → β} {g : String × String → β}
    (h : recordList record ms = .ok es)
    (hg : ∀ m ∈ ms, ∀ r, record m.1 m.2 = .ok r → f r = g m) :
    es.map (fun e => f e.2) = ms.map g := by
  induction ms generalizing es with
  | nil =>
    cases h
    rfl
  | cons m ms ih =>
    simp only [recordList, Run.bind_ok_iff, Run.pure_eq_ok, Except.ok.injEq] at h
    obtain ⟨r, hr, rs, hrs, rfl⟩ := h
    obtain ⟨hhead, htail⟩ := List.forall_mem_cons.1 hg
    rw [List.map_cons, List.map_cons, ih hrs htail, hhead r hr]

end List

variable {t : Table α}

/-- What is found in a table of records is the record of the last market of this identifier. -/
theorem find?_reverse_of_recordTable (h : recordTable ms record = .ok t) {k : String} {r : α}
    (hr : t.find? k = some r) :
    ∃ m, ms.reverse.find? (Pair.ofSides · == k) = some m ∧ record m.1 m.2 = .ok r := by
  obtain ⟨es, hes, rfl⟩ := Run.map_ok_iff.1 h
  rw [Table.find?_ofList] at hr
  exact find?_reverse_recordList hes hr

/-- What is found in a table of records is the record of a market. -/
theorem find?_of_recordTable (h : recordTable ms record = .ok t) {k : String} {r : α}
    (hr : t.find? k = some r) : ∃ m ∈ ms, k = Pair.ofSides m ∧ record m.1 m.2 = .ok r := by
  obtain ⟨m, hm, hrec⟩ := find?_reverse_of_recordTable h hr
  have hk := List.find?_some hm
  exact ⟨m, List.mem_reverse.1 (List.mem_of_find?_eq_some hm), (beq_iff_eq.1 hk).symm, hrec⟩

/-- A table of records has the keys of its markets. -/
theorem find?_isSome_recordTable_iff (h : recordTable ms record = .ok t) (k : String) :
    (t.find? k).isSome = true ↔ k ∈ ms.map Pair.ofSides := by
  obtain ⟨es, hes, rfl⟩ := Run.map_ok_iff.1 h
  rw [Table.find?_ofList, Option.isSome_map, List.find?_isSome, ← keys_recordList hes]
  simp only [List.mem_reverse, beq_iff_eq, List.mem_map]

/-- The table of the records of markets is made if each of them can be made. -/
theorem exists_recordTable_iff :
    (∃ t, recordTable ms record = .ok t) ↔ ∀ m ∈ ms, ∃ r, record m.1 m.2 = .ok r := by
  rw [← exists_recordList_iff]
  constructor
  · rintro ⟨t, ht⟩
    obtain ⟨es, hes, -⟩ := Run.map_ok_iff.1 ht
    exact ⟨es, hes⟩
  · rintro ⟨es, hes⟩
    exact ⟨.ofList es, Run.map_ok_iff.2 ⟨es, hes, rfl⟩⟩

/-- Among markets with different identifiers, each is found with its record. -/
theorem find?_recordTable (hn : (ms.map Pair.ofSides).Nodup) (h : recordTable ms record = .ok t)
    {m : String × String} (hm : m ∈ ms) :
    ∃ r, t.find? (Pair.ofSides m) = some r ∧ record m.1 m.2 = .ok r := by
  obtain ⟨es, hes, rfl⟩ := Run.map_ok_iff.1 h
  obtain ⟨r, hr, hrec⟩ := exists_mem_recordList hes hm
  rw [← keys_recordList hes] at hn
  exact ⟨r, Table.find?_ofList_of_mem hn hr, hrec⟩

/-- Among markets with different identifiers, a number that each record tells is added up over the
table as over the markets. -/
theorem sum_recordTable (hn : (ms.map Pair.ofSides).Nodup) (h : recordTable ms record = .ok t)
    {f : α → Nat} {g : String × String → Nat}
    (hg : ∀ m ∈ ms, ∀ r, record m.1 m.2 = .ok r → f r = g m) :
    (t.values.map f).sum = (ms.map g).sum := by
  obtain ⟨es, hes, rfl⟩ := Run.map_ok_iff.1 h
  rw [← keys_recordList hes] at hn
  have hvalues : (Table.ofList es).values.map f = (Table.ofList es).entries.map fun e => f e.2 := by
    rw [Table.values, List.map_map]
    rfl
  rw [hvalues, ((Table.entries_ofList_perm hn).map _).sum_nat, map_recordList hes hg]

/-- Among markets with different identifiers, a table is that of their records if it holds the
record of each market and nothing else. -/
theorem recordTable_ok_iff (hn : (ms.map Pair.ofSides).Nodup) :
    recordTable ms record = .ok t ↔
      (∀ m ∈ ms, ∃ r, t.find? (Pair.ofSides m) = some r ∧ record m.1 m.2 = .ok r) ∧
        ∀ k r, t.find? k = some r → ∃ m ∈ ms, k = Pair.ofSides m := by
  constructor
  · intro h
    refine ⟨fun m hm => find?_recordTable hn h hm, fun k r hr => ?_⟩
    obtain ⟨m, hm, hk, -⟩ := find?_of_recordTable h hr
    exact ⟨m, hm, hk⟩
  · rintro ⟨hall, honly⟩
    obtain ⟨u, hu⟩ := exists_recordTable_iff.2 fun m hm => (hall m hm).imp fun r hr => hr.2
    have hsame : ∀ m ∈ ms, u.find? (Pair.ofSides m) = t.find? (Pair.ofSides m) := by
      intro m hm
      obtain ⟨r, hr, hrec⟩ := hall m hm
      obtain ⟨r', hr', hrec'⟩ := find?_recordTable hn hu hm
      rw [hr, hr', ← Except.ok.inj (hrec.symm.trans hrec')]
    rw [hu]
    refine congrArg Except.ok (Table.ext_find? fun k => ?_)
    by_cases hk : ∃ m ∈ ms, k = Pair.ofSides m
    · obtain ⟨m, hm, rfl⟩ := hk
      exact hsame m hm
    · have hnone : ∀ u : Table α, (∀ r, u.find? k ≠ some r) → u.find? k = none :=
        fun u h => Option.eq_none_iff_forall_ne_some.2 h
      rw [hnone t fun r hr => hk (honly k r hr), hnone _ fun r hr => hk ?_]
      obtain ⟨m, hm, he, -⟩ := find?_of_recordTable hu hr
      exact ⟨m, hm, he⟩

/-- Another record of one market is another entry of the table. -/
theorem recordTable_insert {other : String → String → Run α} (hn : (ms.map Pair.ofSides).Nodup)
    (h : recordTable ms record = .ok t) {m : String × String} (hm : m ∈ ms)
    (hother : ∀ m' ∈ ms, m' ≠ m → other m'.1 m'.2 = record m'.1 m'.2) {r : α}
    (hr : other m.1 m.2 = .ok r) :
    recordTable ms other = .ok (t.insert (Pair.ofSides m) r) := by
  obtain ⟨hall, honly⟩ := (recordTable_ok_iff hn).1 h
  refine (recordTable_ok_iff hn).2 ⟨fun m' hm' => ?_, fun k r' hk => ?_⟩
  · by_cases he : m' = m
    · subst he
      exact ⟨r, by rw [Table.find?_insert, if_pos rfl], hr⟩
    · have hid : Pair.ofSides m' ≠ Pair.ofSides m := fun hid =>
        he (List.inj_on_of_nodup_map hn hm' hm hid)
      rw [Table.find?_insert, if_neg hid, hother m' hm' he]
      exact hall m' hm'
  · rw [Table.find?_insert] at hk
    split at hk
    · next he => exact ⟨m, hm, he⟩
    · exact honly k r' hk

/-- The order of the markets does not show in the table of their records. -/
theorem recordTable_perm {ms' : List (String × String)} (hn : (ms.map Pair.ofSides).Nodup)
    (h : recordTable ms record = .ok t) (hp : ms'.Perm ms) : recordTable ms' record = .ok t := by
  have hn' : (ms'.map Pair.ofSides).Nodup := ((hp.map _).nodup_iff).2 hn
  obtain ⟨hall, honly⟩ := (recordTable_ok_iff hn).1 h
  refine (recordTable_ok_iff hn').2 ⟨fun m hm => hall m (hp.mem_iff.1 hm), fun k r hr => ?_⟩
  obtain ⟨m, hm, hk⟩ := honly k r hr
  exact ⟨m, hp.mem_iff.2 hm, hk⟩

/-- A table of records of markets with different identifiers has these for keys. -/
theorem keys_recordTable (hn : (ms.map Pair.ofSides).Nodup) (h : recordTable ms record = .ok t) :
    t.keys.Perm (ms.map Pair.ofSides) := by
  obtain ⟨es, hes, rfl⟩ := Run.map_ok_iff.1 h
  rw [← keys_recordList hes] at hn ⊢
  exact (Table.entries_ofList_perm hn).map Prod.fst

end SwapMarket
