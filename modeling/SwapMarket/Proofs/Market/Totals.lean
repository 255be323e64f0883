import SwapMarket.Proofs.Decimal.Canonical
import SwapMarket.Proofs.Market.Figures
import SwapMarket.Proofs.Market.ProjectedBook

/-!
# The totals of the summary

The summary has one row for each orderbook, in the order of the keys, and its dollar totals are the
exact sums of what is read of the rows, rounded once (**`Decimal.IsTotalOf`**). Sums of numbers with
ten places are not rounded at all, so that the totals of a table are the sums of those of its parts
(**`Summary.AddsUp`**).

Main statement: `summary_totals`. A summary is only refused for a figure that is not a decimal, or
for too many trades: whatever is added up, the sum leaves room for the places that its text adds
(**`Decimal.HasRoom`**).
-/

namespace SwapMarket

namespace Decimal

variable {a b d : Decimal} {s : String} {parts : List String}

/-! ## Sums that can be published -/

/-- A decimal whose scale is not so low that 64 bits do not hold the places to be added. -/
def HasRoom (d : Decimal) : Prop := -2 ^ 63 + 15 ≤ d.scale

/-- What 64 bits hold, as an interval. -/
theorem holdsScale_iff {n : Int} : holdsScale n = true ↔ -2 ^ 63 ≤ n ∧ n ≤ 2 ^ 63 - 1 := by
  show (decide (-2 ^ 63 ≤ n) && decide (n ≤ 2 ^ 63 - 1)) = true ↔ _
  rw [Bool.and_eq_true, decide_eq_true_eq, decide_eq_true_eq]

theorem hasRoom_zero : zero.HasRoom := by
  show (-2 ^ 63 + 15 : Int) ≤ 0
  decide

/-- Whatever is added to a decimal with room, the sum has room: next to a zero, the other operand
gets fifteen places more, unless it gets all of those of the zero. -/
theorem HasRoom.add (ha : a.HasRoom) (hb : holdsScale b.scale = true) : (a + b).HasRoom := by
  have hlow := (holdsScale_iff.1 hb).1
  unfold HasRoom at ha ⊢
  show _ ≤ (Decimal.add a b).scale
  unfold Decimal.add
  split
  · show _ ≤ max a.scale (min b.scale (a.scale + 15))
    omega
  split
  · show _ ≤ max b.scale (min a.scale (b.scale + 15))
    omega
  · show _ ≤ max a.scale b.scale
    omega

/-- Adding decimals whose scales are held leaves room. -/
theorem HasRoom.foldl_add {ds : List Decimal} (h : ∀ d ∈ ds, holdsScale d.scale = true)
    (ha : a.HasRoom) : (ds.foldl (· + ·) a).HasRoom := by
  induction ds generalizing a with
  | nil => exact ha
  | cons d ds ih =>
    obtain ⟨hd, hds⟩ := List.forall_mem_cons.1 h
    exact ih hds (ha.add hd)

/-- A decimal with room can be written. -/
theorem HasRoom.figure (h : d.HasRoom) : d.figure = .ok d.published := by
  have hplaces : (places : Int) = 10 := rfl
  unfold HasRoom at h
  have hrange : (holdsScale (places - d.scale) || decide ((places : Int) ≤ d.scale)) = true := by
    rw [Bool.or_eq_true, holdsScale_iff, decide_eq_true_eq]
    omega
  unfold Decimal.figure published?
  rw [Bool.or_assoc, hrange, Bool.or_true]
  rfl

/-! ## Texts that are read -/

/-- A text is a decimal, or blank. -/
def CanBeRead (s : String) : Prop := ∃ d, read s = .ok d

/-- A blank text is read as zero. -/
theorem read_of_blank (h : Text.trim s = "") : read s = .ok zero := by
  unfold read
  exact if_pos h

/-- A text that can be read is read as what it is. -/
theorem readOrZero_of_read (h : read s = .ok d) : readOrZero s = d := by
  unfold readOrZero
  rw [h]

/-- A scale that is read is held by 64 bits. -/
theorem holdsScale_of_read (h : read s = .ok d) : holdsScale d.scale = true := by
  unfold read at h
  simp only at h
  split at h
  · cases h
    decide
  · unfold parse at h
    simp only at h
    split at h
    · cases h
    split at h
    · cases h
    split at h
    · next hscale =>
      split at h
      · cases h
      · cases h
        exact hscale
    · cases h

/-- A text that is read, or counts as zero, has a scale that is held. -/
theorem holdsScale_readOrZero (s : String) : holdsScale (readOrZero s).scale = true := by
  unfold readOrZero
  split
  · next h => exact holdsScale_of_read h
  · decide

/-! ## Totals -/

/-- The sum of what is read of texts. -/
def readSum (parts : List String) : ℚ := (parts.map fun p => (readOrZero p).value).sum

/-- A text is the total of other ones. -/
structure IsTotalOf (parts : List String) (s : String) : Prop where
  /-- It is the ten-place form of their sum, which is rounded once. -/
  form : IsTenPlaceForm (readSum parts) s
  /-- What is read of it is their sum, rounded to ten places. -/
  rounded : ∃ d, read s = .ok d ∧ IsTenths (readSum parts) d.value
  /-- What is read of it is their sum, if they are numbers in plain notation with ten places. -/
  exact : (∀ p ∈ parts, IsTenPlace p) → ∃ d, read s = .ok d ∧ d.value = readSum parts

/-- Sums of texts add up. -/
theorem readSum_append (parts others : List String) :
    readSum (parts ++ others) = readSum parts + readSum others := by
  unfold readSum
  rw [List.map_append, List.sum_append]

/-- A sum of texts does not hang on their order. -/
theorem readSum_of_perm {parts others : List String} (h : parts.Perm others) :
    readSum parts = readSum others :=
  (h.map _).sum_eq

/-- The sum of numbers with ten places is a whole number of units of the tenth place. -/
theorem exists_units_readSum (h : ∀ p ∈ parts, IsTenPlace p) :
    ∃ n : ℤ, readSum parts * 10 ^ 10 = n := by
  induction parts with
  | nil => exact ⟨0, by simp [readSum]⟩
  | cons p parts ih =>
    obtain ⟨hp, hparts⟩ := List.forall_mem_cons.1 h
    obtain ⟨t, ht, -⟩ := (isPublished_iff_isTenPlace.2 hp).read
    obtain ⟨n, hn⟩ := ih hparts
    refine ⟨t + n, ?_⟩
    have hcons : readSum (p :: parts) = (readOrZero p).value + readSum parts := rfl
    rw [hcons, add_mul, hn, readOrZero_of_read ht, value_tenths, Int.cast_add]

/-- A sum is the total of the texts from which it was read. -/
theorem isTotalOf_published (parts : List String) :
    IsTotalOf parts (sum (parts.map readOrZero)).published := by
  have hvalue : (sum (parts.map readOrZero)).value = readSum parts := by
    rw [value_sum, List.map_map]
    rfl
  refine ⟨hvalue ▸ isTenPlaceForm_published _, ⟨_, read_published _, hvalue ▸ isTenths_ticks _⟩,
    fun h => ⟨_, read_published _, ?_⟩⟩
  obtain ⟨n, hn⟩ := exists_units_readSum h
  have hticks : (sum (parts.map readOrZero)).ticks = n := by
    have hround := isRounded_ticks (sum (parts.map readOrZero))
    rw [hvalue, hn] at hround
    exact hround.unique (.of_lt (by simp))
  have hunits : (⟨n, places⟩ : Decimal).value * 10 ^ 10 = readSum parts * 10 ^ 10 := by
    rw [hn, value_tenths]
  rw [hticks]
  exact mul_right_cancel₀ (by positivity) hunits

/-- What is read of one text is the sum of what is read of two others. -/
def ReadsAsSum (a b s : String) : Prop :=
  ∃ x y z, read a = .ok x ∧ read b = .ok y ∧ read s = .ok z ∧ z.value = x.value + y.value

/-- The total of numbers with ten places is the sum of the totals of two parts of them. -/
theorem IsTotalOf.readsAsSum {whole others : List String} {s a b : String}
    (hp : whole.Perm (parts ++ others)) (h : ∀ p ∈ whole, IsTenPlace p) (hs : IsTotalOf whole s)
    (ha : IsTotalOf parts a) (hb : IsTotalOf others b) : ReadsAsSum a b s := by
  obtain ⟨z, hz, ez⟩ := hs.exact h
  obtain ⟨x, hx, ex⟩ := ha.exact fun p hm => h p (hp.mem_iff.2 (List.mem_append_left _ hm))
  obtain ⟨y, hy, ey⟩ := hb.exact fun p hm => h p (hp.mem_iff.2 (List.mem_append_right _ hm))
  refine ⟨x, y, z, hx, hy, hz, ?_⟩
  rw [ez, ex, ey, readSum_of_perm hp, readSum_append]

end Decimal

open Decimal (CanBeRead IsTotalOf IsTenPlace ReadsAsSum readOrZero)

/-! ## Members that are summed up -/

section Members

variable {k : String} {f : SummaryRow → String}

/-- A member that is a text in every row is summed up if all these texts are decimals. -/
theorem sumMemberFrom_cases (hm : ∀ r : SummaryRow, r.toJson.member? k = some (.str (f r)))
    (rows : List SummaryRow) (d : Decimal) :
    ((∀ r ∈ rows, CanBeRead (f r)) ∧ sumMemberFrom k d (rows.map SummaryRow.toJson)
        = .ok ((rows.map fun r => readOrZero (f r)).foldl (· + ·) d)) ∨
      (∃ r ∈ rows, ¬ CanBeRead (f r)) ∧
        ∃ e, sumMemberFrom k d (rows.map SummaryRow.toJson) = .error (.decimal e) := by
  induction rows generalizing d with
  | nil => exact .inl ⟨fun r hr => absurd hr List.not_mem_nil, rfl⟩
  | cons r rows ih =>
    simp only [List.map_cons, sumMemberFrom, hm, Json.amount]
    cases hr : Decimal.read (f r) with
    | error e =>
      refine .inr ⟨⟨r, List.mem_cons_self, fun h => ?_⟩, e, rfl⟩
      obtain ⟨x, hx⟩ := h
      rw [hr] at hx
      cases hx
    | ok x =>
      rw [Decimal.readOrZero_of_read hr]
      rcases ih (d + x) with ⟨hrows, hsum⟩ | ⟨⟨r', hr', hnot⟩, hfault⟩
      · exact .inl ⟨List.forall_mem_cons.2 ⟨⟨x, hr⟩, hrows⟩, hsum⟩
      · exact .inr ⟨⟨r', List.mem_cons_of_mem _ hr', hnot⟩, hfault⟩

/-- A member of all rows is summed up, or a text is no decimal. -/
theorem sumMember_cases (hm : ∀ r : SummaryRow, r.toJson.member? k = some (.str (f r)))
    (rows : List SummaryRow) :
    ((∀ r ∈ rows, CanBeRead (f r)) ∧ sumMember k (rows.map SummaryRow.toJson)
        = .ok (Decimal.sum (rows.map fun r => readOrZero (f r)))) ∨
      (∃ r ∈ rows, ¬ CanBeRead (f r)) ∧
        ∃ e, sumMember k (rows.map SummaryRow.toJson) = .error (.decimal e) :=
  sumMemberFrom_cases hm rows .zero

end Members

/-! ## The summary -/

/-- The dollar volume and the liquidity of a book are decimals. -/
structure Orderbook.HasDollars (b : Orderbook) : Prop where
  /-- The dollar volume is one. -/
  volume : CanBeRead b.volumeUsd
  /-- The liquidity is one. -/
  liquidity : CanBeRead b.liquidityUsd

/-- The dollar volume and the liquidity of a book are in plain notation with ten places. -/
structure Orderbook.HasTenPlaces (b : Orderbook) : Prop where
  /-- The dollar volume is. -/
  volume : IsTenPlace b.volumeUsd
  /-- The liquidity is. -/
  liquidity : IsTenPlace b.liquidityUsd

/-- Texts with ten places are decimals. -/
theorem Orderbook.HasTenPlaces.hasDollars {b : Orderbook} (h : b.HasTenPlaces) :
    b.HasDollars := by
  obtain ⟨v, hv, -⟩ := (Decimal.isPublished_iff_isTenPlace.2 h.volume).read
  obtain ⟨l, hl, -⟩ := (Decimal.isPublished_iff_isTenPlace.2 h.liquidity).read
  exact ⟨⟨_, hv⟩, ⟨_, hl⟩⟩

namespace Summary

variable {books : Table Orderbook} {last : Table LastTrade} {now : Int} {s : Summary}

/-- A summary sums up books. -/
structure SumsUp (books : Table Orderbook) (last : Table LastTrade) (s : Summary) : Prop where
  /-- There is one row for each book, in ascending order of the keys. -/
  rows : ∃ es : List (String × Orderbook), es.Pairwise (fun a b => a.1 < b.1) ∧
    (∀ k b, (k, b) ∈ es ↔ books.find? k = some b) ∧
    s.rows = es.map fun e => SummaryRow.ofBook e.2 (last.find? e.1)
  /-- The markets are the rows. -/
  pairsCount : s.pairsCount = s.rows.length
  /-- The trades are those of the rows. -/
  swapsCount : s.swapsCount = (s.rows.map SummaryRow.trades).sum
  /-- The dollar volume is the total of those of the rows. -/
  volumeUsd : IsTotalOf (s.rows.map SummaryRow.volumeUsd) s.volumeUsd
  /-- The liquidity is the total of those of the rows. -/
  liquidityUsd : IsTotalOf (s.rows.map SummaryRow.liquidityUsd) s.liquidityUsd

/-- The totals of a summary are the sums of those of two others. -/
structure AddsUp (a b s : Summary) : Prop where
  /-- The markets add up. -/
  pairsCount : s.pairsCount = a.pairsCount + b.pairsCount
  /-- The trades add up. -/
  swapsCount : s.swapsCount = a.swapsCount + b.swapsCount
  /-- The dollar volumes add up. -/
  volumeUsd : ReadsAsSum a.volumeUsd b.volumeUsd s.volumeUsd
  /-- The liquidities add up. -/
  liquidityUsd : ReadsAsSum a.liquidityUsd b.liquidityUsd s.liquidityUsd

/-- The summary of books whose dollar figures are decimals. -/
def ofReadable (books : Table Orderbook) (last : Table LastTrade) (now : Int) : Summary :=
  { lastUpdate := now
    pairsCount := (rowsOf books last).length
    swapsCount := tradesIn books
    volumeUsd :=
      (Decimal.sum ((rowsOf books last).map fun r => readOrZero r.volumeUsd)).published
    liquidityUsd :=
      (Decimal.sum ((rowsOf books last).map fun r => readOrZero r.liquidityUsd)).published
    rows := rowsOf books last }

/-- A figure that a row copies from its book is in some row what it is in some book. -/
theorem exists_mem_rowsOf {p : SummaryRow → Prop} {q : Orderbook → Prop}
    (h : ∀ b l, p (SummaryRow.ofBook b l) ↔ q b) :
    (∃ r ∈ rowsOf books last, p r) ↔ ∃ k b, books.find? k = some b ∧ q b := by
  constructor
  · rintro ⟨r, hr, hp⟩
    obtain ⟨⟨k, b⟩, he, rfl⟩ := List.mem_map.1 hr
    exact ⟨k, b, Table.find?_eq_some_iff.2 he, (h b _).1 hp⟩
  · rintro ⟨k, b, hb, hq⟩
    exact ⟨_, List.mem_map_of_mem (Table.find?_eq_some_iff.1 hb), (h b _).2 hq⟩

/-- What is read of a member of all rows has a sum that can be published. -/
theorem figure_sum (f : SummaryRow → String) (rows : List SummaryRow) :
    (Decimal.sum (rows.map fun r => readOrZero (f r))).figure
      = .ok (Decimal.sum (rows.map fun r => readOrZero (f r))).published := by
  refine (Decimal.HasRoom.foldl_add (fun d hd => ?_) Decimal.hasRoom_zero).figure
  obtain ⟨r, -, rfl⟩ := List.mem_map.1 hd
  exact Decimal.holdsScale_readOrZero (f r)

/-- A summary is made, or a dollar figure is not a decimal, or there are too many trades. -/
theorem ofBooks_cases (books : Table Orderbook) (last : Table LastTrade) (now : Int) :
    (2 ^ 64 ≤ tradesIn books ∧ ofBooks books last now = .error .overflow) ∨
      tradesIn books < 2 ^ 64 ∧
        ((¬ (∃ k b, books.find? k = some b ∧ ¬ b.HasDollars) ∧
            ofBooks books last now = .ok (ofReadable books last now)) ∨
          (∃ k b, books.find? k = some b ∧ ¬ b.HasDollars) ∧
            ∃ e, ofBooks books last now = Run.fail (.decimal e)) := by
  rcases Nat.lt_or_ge (tradesIn books) (2 ^ 64) with hn | hn
  swap
  · exact .inl ⟨hn, ofBooks_of_many hn last now⟩
  refine .inr ⟨hn, ?_⟩
  have hcount : Run.nat64 (tradesIn books) = .ok (tradesIn books) := Run.nat64_ok_iff.2 ⟨hn, rfl⟩
  have hvolume := sumMember_cases (k := "volume_usd_24hr") (f := SummaryRow.volumeUsd)
    (fun _ => rfl) (rowsOf books last)
  have hliquidity := sumMember_cases (k := "liquidity_in_usd") (f := SummaryRow.liquidityUsd)
    (fun _ => rfl) (rowsOf books last)
  have hvolumes := figure_sum SummaryRow.volumeUsd (rowsOf books last)
  have hliquidities := figure_sum SummaryRow.liquidityUsd (rowsOf books last)
  have hnot : (∃ k b, books.find? k = some b ∧ ¬ b.HasDollars) ↔
      (∃ r ∈ rowsOf books last, ¬ CanBeRead r.volumeUsd) ∨
        ∃ r ∈ rowsOf books last, ¬ CanBeRead r.liquidityUsd := by
    rw [exists_mem_rowsOf (q := fun b => ¬ CanBeRead b.volumeUsd) fun b l => Iff.rfl,
      exists_mem_rowsOf (q := fun b => ¬ CanBeRead b.liquidityUsd) fun b l => Iff.rfl]
    constructor
    · rintro ⟨k, b, hb, h⟩
      by_cases hv : CanBeRead b.volumeUsd
      · exact .inr ⟨k, b, hb, fun hl => h ⟨hv, hl⟩⟩
      · exact .inl ⟨k, b, hb, hv⟩
    · rintro (⟨k, b, hb, h⟩ | ⟨k, b, hb, h⟩)
      · exact ⟨k, b, hb, fun hd => h hd.volume⟩
      · exact ⟨k, b, hb, fun hd => h hd.liquidity⟩
  rw [hnot]
  unfold ofBooks
  simp only [trades_rowsOf, hcount, Run.ok_bind]
  rcases hvolume with ⟨hv, ev⟩ | ⟨hv, e, ev⟩
  swap
  · rw [ev]
    exact .inr ⟨.inl hv, e, rfl⟩
  rcases hliquidity with ⟨hl, el⟩ | ⟨hl, e, el⟩
  swap
  · rw [ev, el]
    exact .inr ⟨.inr hl, e, rfl⟩
  refine .inl ⟨?_, ?_⟩
  · rintro (⟨r, hr, h⟩ | ⟨r, hr, h⟩)
    · exact h (hv r hr)
    · exact h (hl r hr)
  · rw [ev, el]
    simp only [Result.toRun, Except.mapError, Run.ok_bind, hvolumes, hliquidities]
    rfl

/-- What rows copy from their books is what is in the books. -/
theorem map_rowsOf {α : Type} {f : SummaryRow → α} {g : Orderbook → α}
    (h : ∀ b l, f (SummaryRow.ofBook b l) = g b) :
    (rowsOf books last).map f = books.values.map g := by
  unfold rowsOf Table.values
  rw [List.map_map, List.map_map]
  exact List.map_congr_left fun e _ => h e.2 _

/-- The rows of a summary have the trades of its books. -/
theorem sum_trades_rowsOf (books : Table Orderbook) (last : Table LastTrade) :
    ((rowsOf books last).map SummaryRow.trades).sum = tradesIn books := by
  rw [map_rowsOf (g := Orderbook.trades) fun _ _ => rfl]
  rfl

/-- The summary that is made sums up the books. -/
theorem sumsUp_ofReadable (books : Table Orderbook) (last : Table LastTrade) (now : Int) :
    SumsUp books last (ofReadable books last now) := by
  have total : ∀ f : SummaryRow → String, IsTotalOf ((rowsOf books last).map f)
      (Decimal.sum ((rowsOf books last).map fun r => readOrZero (f r))).published := by
    intro f
    have htotal := Decimal.isTotalOf_published ((rowsOf books last).map f)
    rwa [List.map_map] at htotal
  exact ⟨⟨books.entries, books.ascending, fun k b => Table.find?_eq_some_iff.symm, rfl⟩, rfl,
    (sum_trades_rowsOf books last).symm, total SummaryRow.volumeUsd, total SummaryRow.liquidityUsd⟩

/-- A summary is made exactly if 64 bits hold the trades and the dollar figures are decimals. -/
theorem ofBooks_ok_iff : ofBooks books last now = .ok s ↔ tradesIn books < 2 ^ 64 ∧
    ¬ (∃ k b, books.find? k = some b ∧ ¬ b.HasDollars) ∧ ofReadable books last now = s := by
  rcases ofBooks_cases books last now with ⟨hn, he⟩ | ⟨hn, ⟨hd, he⟩ | ⟨hd, e, he⟩⟩
  · rw [he]
    exact ⟨nofun, fun h => absurd h.1 (Nat.not_lt.2 hn)⟩
  · rw [he, Except.ok.injEq]
    exact ⟨fun h => ⟨hn, hd, h⟩, fun h => h.2.2⟩
  · rw [he]
    exact ⟨nofun, fun h => absurd hd h.2.1⟩

/-- The total of a figure with ten places in a table is the sum of its totals in two parts. -/
theorem readsAsSum_of_isSplit {A B : Table Orderbook} (h : books.IsSplit A B)
    {f : SummaryRow → String} {g : Orderbook → String}
    (hf : ∀ b l, f (SummaryRow.ofBook b l) = g b)
    (hten : ∀ k b, books.find? k = some b → IsTenPlace (g b)) {lastA lastB : Table LastTrade}
    {x y z : String} (hz : IsTotalOf ((rowsOf books last).map f) z)
    (hx : IsTotalOf ((rowsOf A lastA).map f) x) (hy : IsTotalOf ((rowsOf B lastB).map f) y) :
    ReadsAsSum x y z := by
  rw [map_rowsOf hf] at hx hy hz
  refine hz.readsAsSum ?_ ?_ hx hy
  · rw [← List.map_append]
    exact h.values_perm.map g
  · intro p hp
    obtain ⟨b, hb, rfl⟩ := List.mem_map.1 hp
    obtain ⟨k, hk⟩ := Table.mem_values.1 hb
    exact hten k b hk

/-- The totals of a table of books with ten places are the sums of those of its parts. -/
theorem addsUp_of_isSplit {A B : Table Orderbook} (h : books.IsSplit A B)
    (hten : ∀ k b, books.find? k = some b → b.HasTenPlaces)
    (hs : ofBooks books last now = .ok s) (lastA lastB : Table LastTrade) (nowA nowB : Int) :
    ∃ a b, ofBooks A lastA nowA = .ok a ∧ ofBooks B lastB nowB = .ok b ∧ AddsUp a b s := by
  obtain ⟨hn, -, rfl⟩ := ofBooks_ok_iff.1 hs
  have htrades : tradesIn books = tradesIn A + tradesIn B := by
    unfold tradesIn
    rw [(h.values_perm.map _).sum_eq, List.map_append, List.sum_append]
  have made : ∀ {t : Table Orderbook} (l : Table LastTrade) (n : Int), tradesIn t < 2 ^ 64 →
      (∀ k b, t.find? k = some b → b.HasTenPlaces) → ofBooks t l n = .ok (ofReadable t l n) := by
    intro t l n ht hb
    refine ofBooks_ok_iff.2 ⟨ht, ?_, rfl⟩
    rintro ⟨k, b, hf, hnot⟩
    exact hnot (hb k b hf).hasDollars
  have hall := sumsUp_ofReadable books last now
  have ha := sumsUp_ofReadable A lastA nowA
  have hb := sumsUp_ofReadable B lastB nowB
  refine ⟨_, _, made lastA nowA (by omega) fun k b hf => hten k b ((h.find?_iff k b).2 (.inl hf)),
    made lastB nowB (by omega) fun k b hf => hten k b ((h.find?_iff k b).2 (.inr hf)), ?pairs,
    htrades, ?volume, ?liquidity⟩
  case pairs =>
    show (rowsOf books last).length = (rowsOf A lastA).length + (rowsOf B lastB).length
    unfold rowsOf
    rw [List.length_map, List.length_map, List.length_map, h.entries_perm.length_eq,
      List.length_append]
  case volume =>
    exact readsAsSum_of_isSplit h (fun _ _ => rfl) (fun k b hk => (hten k b hk).volume)
      hall.volumeUsd ha.volumeUsd hb.volumeUsd
  case liquidity =>
    exact readsAsSum_of_isSplit h (fun _ _ => rfl) (fun k b hk => (hten k b hk).liquidity)
      hall.liquidityUsd ha.liquidityUsd hb.liquidityUsd

end Summary

/-- **The summary** of books is made exactly if their dollar volumes and their liquidities are
decimals, a blank text counting as zero, and their trades can be counted; else it is refused for a
figure that is none, or its count leaves its range. It has a row for each book, in the order of the
keys, and sums up the rows: the dollar totals are rounded once, and not at all if the figures of the
books are in plain notation with ten places. Then the totals of books that are split into two tables
are the sums of those of the two. -/
theorem summary_totals (books : Table Orderbook) (last : Table LastTrade) (now : Int) :
    ((∃ s, Summary.ofBooks books last now = .ok s) ↔
      tradesIn books < 2 ^ 64 ∧ ∀ k b, books.find? k = some b → b.HasDollars) ∧
    ((∃ f, Summary.ofBooks books last now = Run.fail f) ↔
      tradesIn books < 2 ^ 64 ∧ ∃ k b, books.find? k = some b ∧ ¬ b.HasDollars) ∧
    (Summary.ofBooks books last now = .error .overflow ↔ 2 ^ 64 ≤ tradesIn books) ∧
    (∀ p, Text.trim p = "" → Decimal.read p = .ok .zero) ∧
    (∀ s, Summary.ofBooks books last now = .ok s → s.SumsUp books last) ∧
    ∀ A B, books.IsSplit A B → (∀ k b, books.find? k = some b → b.HasTenPlaces) →
      ∀ s, Summary.ofBooks books last now = .ok s → ∀ lastA lastB nowA nowB,
        ∃ a b, Summary.ofBooks A lastA nowA = .ok a ∧ Summary.ofBooks B lastB nowB = .ok b ∧
          Summary.AddsUp a b s := by
  have hall : (∀ k b, books.find? k = some b → b.HasDollars) ↔
      ¬ ∃ k b, books.find? k = some b ∧ ¬ b.HasDollars := by
    push Not
    rfl
  refine ⟨?made, ?refused, ?tooMany, fun p => Decimal.read_of_blank, fun s hs => ?sums,
    fun A B h hten s hs lastA lastB nowA nowB =>
      Summary.addsUp_of_isSplit h hten hs lastA lastB nowA nowB⟩
  case made =>
    simp only [Summary.ofBooks_ok_iff, hall, exists_and_left, exists_eq', and_true]
  case refused =>
    rcases Summary.ofBooks_cases books last now with ⟨hn, he⟩ | ⟨hn, ⟨hd, he⟩ | ⟨hd, e, he⟩⟩
    · rw [he]
      exact ⟨nofun, fun h => absurd h.1 (Nat.not_lt.2 hn)⟩
    · rw [he]
      exact ⟨nofun, fun h => absurd h.2 hd⟩
    · rw [he]
      exact ⟨fun _ => ⟨hn, hd⟩, fun _ => ⟨_, rfl⟩⟩
  case tooMany =>
    rcases Summary.ofBooks_cases books last now with ⟨hn, he⟩ | ⟨hn, ⟨-, he⟩ | ⟨-, e, he⟩⟩
    · exact ⟨fun _ => hn, fun _ => he⟩
    · rw [he]
      exact ⟨nofun, fun h => absurd h (Nat.not_le.2 hn)⟩
    · rw [he]
      exact ⟨nofun, fun h => absurd h (Nat.not_le.2 hn)⟩
  case sums =>
    obtain ⟨-, -, rfl⟩ := Summary.ofBooks_ok_iff.1 hs
    exact Summary.sumsUp_ofReadable books last now

/-- A book of three trades. -/
def gainingBook : Orderbook :=
  { Orderbook.blank "DGB" "LTC" with
    volumeUsd := "2.5000000000", liquidityUsd := "0.0000000001", trades := 3 }

/-- A book of four trades with a volume below zero. -/
def losingBook : Orderbook :=
  { Orderbook.blank "KMD" "LTC" with
    volumeUsd := "-1.0000000000", liquidityUsd := "0.0000000002", trades := 4 }

/-- The totals of two books are the sums of those of each. -/
theorem summary_totals_twoBooks :
    let gaining := Table.empty.insert "DGB_LTC" gainingBook
    let losing := Table.empty.insert "KMD_LTC" losingBook
    let books := gaining.insert "KMD_LTC" losingBook
    books.IsSplit gaining losing ∧ (∀ k b, books.find? k = some b → b.HasTenPlaces) ∧
      ∃ s a b, Summary.ofBooks books .empty 0 = .ok s ∧
        Summary.ofBooks gaining .empty 0 = .ok a ∧ Summary.ofBooks losing .empty 0 = .ok b ∧
        s.volumeUsd = "1.5000000000" ∧ a.volumeUsd = "2.5000000000" ∧
        b.volumeUsd = "-1.0000000000" ∧ Summary.AddsUp a b s := by
  intro gaining losing books
  have hsplit : books.IsSplit gaining losing := Table.isSplit_insert (by decide) losingBook
  have tenPlace : ∀ {p : String} (d : Decimal), d.published = p → IsTenPlace p :=
    fun d h => Decimal.isPublished_iff_isTenPlace.1 ⟨d, h⟩
  have hten : ∀ k b, books.find? k = some b → b.HasTenPlaces := by
    intro k b hb
    have hmem : b ∈ [gainingBook, losingBook] := Table.mem_values.2 ⟨k, hb⟩
    rcases List.mem_pair.1 hmem with rfl | rfl
    · exact ⟨tenPlace ⟨25, 1⟩ (by decide +kernel), tenPlace ⟨1, 10⟩ (by decide +kernel)⟩
    · exact ⟨tenPlace ⟨-1, 0⟩ (by decide +kernel), tenPlace ⟨2, 10⟩ (by decide +kernel)⟩
  obtain ⟨hmade, -, -, -, -, hadd⟩ := summary_totals books .empty 0
  obtain ⟨s, hs⟩ := hmade.2 ⟨by decide +kernel, fun k b hb => (hten k b hb).hasDollars⟩
  obtain ⟨a, b, ha, hb, hsum⟩ := hadd gaining losing hsplit hten s hs .empty .empty 0 0
  refine ⟨hsplit, hten, s, a, b, hs, ha, hb, ?_, ?_, ?_, hsum⟩
  · obtain ⟨-, -, rfl⟩ := Summary.ofBooks_ok_iff.1 hs
    decide +kernel
  · obtain ⟨-, -, rfl⟩ := Summary.ofBooks_ok_iff.1 ha
    decide +kernel
  · obtain ⟨-, -, rfl⟩ := Summary.ofBooks_ok_iff.1 hb
    decide +kernel

end SwapMarket
