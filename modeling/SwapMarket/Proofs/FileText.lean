import SwapMarket.Board.Snapshot
import SwapMarket.Proofs.Json.Sorted

/-!
# Reading back the files of items

**`Item.Fits`** says that the numbers of a value lie in the ranges in which they are kept: times are
signed and counts unsigned integers of 64 bits, and the mark of a listed coin has eight bits.
Nothing is asked of its texts and of the keys of its tables.

Main statement: **`Item.ofFileText_fileText`**. The text of the file of such a value is read as the
value. It is assembled from one statement for each kind of record.
-/

namespace SwapMarket

open Json

/-! ## Coins -/

/-- An entry of a coin is read back as it was written. -/
theorem CoinEntry.readsBack (depth : Nat) (e : CoinEntry) :
    ReadsBack toJson ofJson? (depth + 1) e := by
  refine ReadsBack.record rfl rfl (by decide) ?_ fun m hf => ?_
  · simp
  · simp only [List.forall_mem_cons, Members.Finds] at hf
    simp only [↓hf, ↓text_bind, ↓bool_bind]
    rfl

/-- The mark of a coin has eight bits. -/
def ListedCoin.Fits (c : ListedCoin) : Prop := ∀ n ∈ c.mm2, FitsNat 8 n

theorem ListedCoin.readsBack (depth : Nat) {c : ListedCoin} (h : c.Fits) :
    ReadsBack toJson ofJson? (depth + 1) c := by
  have hw : (Json.ofOption (c.mm2.map nat)).IsWritable depth := by
    unfold Fits at h
    cases hm : c.mm2 with
    | none => trivial
    | some n => exact isWritable_nat (by decide) (h n hm)
  refine ReadsBack.record rfl rfl (by decide) ?_ fun m hf => ?_
  · simp [hw]
  · simp only [List.forall_mem_cons, Members.Finds] at hf
    simp only [Members.text, ↓hf, ↓text_bind, ↓bool_bind, ↓option_nat_bind h]
    rfl

theorem CoinPrice.readsBack (depth : Nat) (p : CoinPrice) :
    ReadsBack toJson ofJson? (depth + 1) p := by
  refine ReadsBack.record rfl rfl (by decide) ?_ fun m hf => ?_
  · simp
  · simp only [List.forall_mem_cons, Members.Finds] at hf
    simp only [Members.text, ↓hf, ↓text_bind]
    rfl

/-! ## Rates -/

/-- The time of rates has 64 bits. -/
def Rates.Fits (r : Rates) : Prop := FitsInt64 r.timestamp

theorem Rates.readsBack (depth : Nat) {r : Rates} (h : r.Fits) :
    ReadsBack toJson ofJson? (depth + 2) r := by
  have rate : ∀ s ∈ r.rates.values, ReadsBack str text? depth s := fun s _ => readsBack_str depth s
  have hw : (Json.ofTable str r.rates).IsWritable (depth + 1) := (ReadsBack.table rate).writable
  refine ReadsBack.record rfl rfl (by decide) ?_ fun m hf => ?_
  · simp [hw, isWritable_int h]
  · simp only [List.forall_mem_cons, Members.Finds] at hf
    simp only [Members.text, Members.int64, ↓hf, ↓text_bind, ↓int64_bind h, ↓table_bind rate]
    rfl

/-! ## Views of the markets -/

/-- The time of a trade has 64 bits. -/
def LastTrade.Fits (r : LastTrade) : Prop := FitsInt64 r.swapTime

theorem LastTrade.readsBack (depth : Nat) {r : LastTrade} (h : r.Fits) :
    ReadsBack toJson ofJson? (depth + 1) r := by
  refine ReadsBack.record rfl rfl (by decide) ?_ fun m hf => ?_
  · simp [isWritable_int h]
  · simp only [List.forall_mem_cons, Members.Finds] at hf
    simp only [Members.text, Members.int64, Members.bool, ↓hf, ↓text_bind, ↓bool_bind,
      ↓int64_bind h]
    rfl

/-- The times and the number of trades of a day have 64 bits. -/
structure DayPrices.Fits (r : DayPrices) : Prop where
  /-- When the oldest trade was completed. -/
  oldestPriceTime : FitsInt64 r.oldestPriceTime
  /-- When the newest trade was completed. -/
  newestPriceTime : FitsInt64 r.newestPriceTime
  /-- The number of trades. -/
  trades : FitsNat 64 r.trades

theorem DayPrices.readsBack (depth : Nat) {r : DayPrices} (h : r.Fits) :
    ReadsBack toJson ofJson? (depth + 1) r := by
  refine ReadsBack.record rfl rfl (by decide) ?_ fun m hf => ?_
  · simp [isWritable_int h.oldestPriceTime, isWritable_int h.newestPriceTime,
      isWritable_nat (Nat.le_refl 64) h.trades]
  · simp only [List.forall_mem_cons, Members.Finds] at hf
    simp only [Members.text, Members.int64, Members.nat64, ↓hf, ↓text_bind,
      ↓int64_bind h.oldestPriceTime, ↓int64_bind h.newestPriceTime, ↓nat_bind h.trades]
    rfl

/-- The number of trades has 64 bits. -/
def Volume.Fits (r : Volume) : Prop := FitsNat 64 r.trades

theorem Volume.readsBack (depth : Nat) {r : Volume} (h : r.Fits) :
    ReadsBack toJson ofJson? (depth + 1) r := by
  refine ReadsBack.record rfl rfl (by decide) ?_ fun m hf => ?_
  · simp [isWritable_nat (Nat.le_refl 64) h]
  · simp only [List.forall_mem_cons, Members.Finds] at hf
    simp only [Members.text, Members.nat64, ↓hf, ↓text_bind, ↓nat_bind h]
    rfl

theorem BookEntry.readsBack (depth : Nat) (e : BookEntry) :
    ReadsBack toJson ofJson? (depth + 1) e := by
  refine ReadsBack.record rfl rfl (by decide) ?_ fun m hf => ?_
  · simp
  · simp only [List.forall_mem_cons, Members.Finds] at hf
    simp only [Members.text, ↓hf, ↓text_bind]
    rfl

/-- The times and the number of trades of a book have 64 bits. -/
structure Orderbook.Fits (r : Orderbook) : Prop where
  /-- When the book was made. -/
  timestamp : FitsInt64 r.timestamp
  /-- When the newest trade was completed. -/
  newestPriceTime : FitsInt64 r.newestPriceTime
  /-- The number of trades of the day. -/
  trades : FitsNat 64 r.trades
  /-- When the last swap ended. -/
  lastSwapTime : FitsInt64 r.lastSwapTime

theorem Orderbook.readsBack (depth : Nat) {r : Orderbook} (h : r.Fits) :
    ReadsBack toJson ofJson? (depth + 3) r := by
  have order : ∀ es : List BookEntry, ∀ e ∈ es,
      ReadsBack BookEntry.toJson BookEntry.ofJson? (depth + 1) e :=
    fun _ e _ => BookEntry.readsBack depth e
  have orders : ∀ es : List BookEntry, (arr (es.map BookEntry.toJson)).IsWritable (depth + 2) :=
    fun es => (ReadsBack.list (order es)).writable
  refine ReadsBack.record rfl rfl (by decide) ?_ fun m hf => ?_
  · simp [isWritable_int h.timestamp, isWritable_int h.newestPriceTime,
      isWritable_nat (Nat.le_refl 64) h.trades, isWritable_int h.lastSwapTime, orders]
  · simp only [List.forall_mem_cons, Members.Finds] at hf
    simp only [Members.text, Members.int64, Members.nat64, ↓hf, ↓text_bind,
      ↓int64_bind h.timestamp, ↓int64_bind h.newestPriceTime, ↓nat_bind h.trades,
      ↓int64_bind h.lastSwapTime, ↓list_bind (order r.bids), ↓list_bind (order r.asks)]
    rfl

/-- The time and the number of trades of a row have 64 bits. -/
structure SummaryRow.Fits (r : SummaryRow) : Prop where
  /-- When the last swap ended. -/
  lastTrade : FitsInt64 r.lastTrade
  /-- The number of trades of the day. -/
  trades : FitsNat 64 r.trades

theorem SummaryRow.readsBack (depth : Nat) {r : SummaryRow} (h : r.Fits) :
    ReadsBack toJson ofJson? (depth + 1) r := by
  refine ReadsBack.record rfl rfl (by decide) ?_ fun m hf => ?_
  · simp [isWritable_int h.lastTrade, isWritable_nat (Nat.le_refl 64) h.trades]
  · simp only [List.forall_mem_cons, Members.Finds] at hf
    simp only [Members.text, Members.int64, Members.nat64, ↓hf, ↓text_bind,
      ↓int64_bind h.lastTrade, ↓nat_bind h.trades]
    rfl

/-- The time and the counts of a summary and of its rows have 64 bits. -/
structure Summary.Fits (s : Summary) : Prop where
  /-- When the summary was made. -/
  lastUpdate : FitsInt64 s.lastUpdate
  /-- The number of markets. -/
  pairsCount : FitsNat 64 s.pairsCount
  /-- The number of trades of the day. -/
  swapsCount : FitsNat 64 s.swapsCount
  /-- The markets. -/
  rows : ∀ r ∈ s.rows, r.Fits

theorem Summary.readsBack (depth : Nat) {s : Summary} (h : s.Fits) :
    ReadsBack toJson ofJson? (depth + 3) s := by
  have row : ∀ r ∈ s.rows, ReadsBack SummaryRow.toJson SummaryRow.ofJson? (depth + 1) r :=
    fun r hr => SummaryRow.readsBack depth (h.rows r hr)
  have rows : (arr (s.rows.map SummaryRow.toJson)).IsWritable (depth + 2) :=
    (ReadsBack.list row).writable
  refine ReadsBack.record rfl rfl (by decide) ?_ fun m hf => ?_
  · simp [isWritable_int h.lastUpdate, isWritable_nat (Nat.le_refl 64) h.pairsCount,
      isWritable_nat (Nat.le_refl 64) h.swapsCount, rows]
  · simp only [List.forall_mem_cons, Members.Finds] at hf
    simp only [Members.text, Members.int64, Members.nat64, ↓hf, ↓text_bind,
      ↓int64_bind h.lastUpdate, ↓nat_bind h.pairsCount, ↓nat_bind h.swapsCount, ↓list_bind row]
    rfl

/-! ## Items -/

namespace Item

/-- The numbers of a value lie in their ranges. -/
def Fits : (n : Item) → n.Value → Prop
  | .coinEntries, _ => True
  | .listedCoins, (t : ListedCoins) => ∀ c ∈ t.values, c.Fits
  | .coinPrices, _ => True
  | .rates, (r : Rates) => r.Fits
  | .spotPrices, _ => True
  | .lastTrades, (t : Table LastTrade) => ∀ r ∈ t.values, r.Fits
  | .dayPrices, (t : Table DayPrices) => ∀ r ∈ t.values, r.Fits
  | .dayVolumes, (t : Table Volume) => ∀ r ∈ t.values, r.Fits
  | .fortnightVolumes, (t : Table Volume) => ∀ r ∈ t.values, r.Fits
  | .orderbooks, (t : Table Orderbook) => ∀ r ∈ t.values, r.Fits
  | .summary, (s : Summary) => s.Fits

instance (c : ListedCoin) : Decidable c.Fits :=
  inferInstanceAs (Decidable (∀ n ∈ c.mm2, FitsNat 8 n))

instance (r : LastTrade) : Decidable r.Fits := inferInstanceAs (Decidable (FitsInt64 r.swapTime))

instance (r : DayPrices) : Decidable r.Fits :=
  decidable_of_iff
    (FitsInt64 r.oldestPriceTime ∧ FitsInt64 r.newestPriceTime ∧ FitsNat 64 r.trades)
    ⟨fun ⟨ho, hn, ht⟩ => ⟨ho, hn, ht⟩, fun ⟨ho, hn, ht⟩ => ⟨ho, hn, ht⟩⟩

instance (r : Volume) : Decidable r.Fits := inferInstanceAs (Decidable (FitsNat 64 r.trades))

instance (r : Orderbook) : Decidable r.Fits :=
  decidable_of_iff
    (FitsInt64 r.timestamp ∧ FitsInt64 r.newestPriceTime ∧ FitsNat 64 r.trades ∧
      FitsInt64 r.lastSwapTime)
    ⟨fun ⟨h₁, h₂, h₃, h₄⟩ => ⟨h₁, h₂, h₃, h₄⟩, fun ⟨h₁, h₂, h₃, h₄⟩ => ⟨h₁, h₂, h₃, h₄⟩⟩

instance (r : SummaryRow) : Decidable r.Fits :=
  decidable_of_iff (FitsInt64 r.lastTrade ∧ FitsNat 64 r.trades)
    ⟨fun ⟨ht, hn⟩ => ⟨ht, hn⟩, fun ⟨ht, hn⟩ => ⟨ht, hn⟩⟩

instance (s : Summary) : Decidable s.Fits :=
  decidable_of_iff
    (FitsInt64 s.lastUpdate ∧ FitsNat 64 s.pairsCount ∧ FitsNat 64 s.swapsCount ∧
      ∀ r ∈ s.rows, r.Fits)
    ⟨fun ⟨h₁, h₂, h₃, h₄⟩ => ⟨h₁, h₂, h₃, h₄⟩, fun ⟨h₁, h₂, h₃, h₄⟩ => ⟨h₁, h₂, h₃, h₄⟩⟩

/-- Whether the numbers of a value lie in their ranges can be computed. -/
instance : (n : Item) → (v : n.Value) → Decidable (n.Fits v)
  | .coinEntries, _ | .coinPrices, _ | .spotPrices, _ => .isTrue trivial
  | .listedCoins, (t : ListedCoins) => inferInstanceAs (Decidable (∀ c ∈ t.values, c.Fits))
  | .rates, (r : Rates) => inferInstanceAs (Decidable (FitsInt64 r.timestamp))
  | .lastTrades, (t : Table LastTrade) => inferInstanceAs (Decidable (∀ r ∈ t.values, r.Fits))
  | .dayPrices, (t : Table DayPrices) => inferInstanceAs (Decidable (∀ r ∈ t.values, r.Fits))
  | .dayVolumes, (t : Table Volume) => inferInstanceAs (Decidable (∀ r ∈ t.values, r.Fits))
  | .fortnightVolumes, (t : Table Volume) => inferInstanceAs (Decidable (∀ r ∈ t.values, r.Fits))
  | .orderbooks, (t : Table Orderbook) => inferInstanceAs (Decidable (∀ r ∈ t.values, r.Fits))
  | .summary, (s : Summary) => inferInstanceAs (Decidable s.Fits)

/-- The value of any item is read back as it was written, if its numbers fit. -/
theorem readsBack {n : Item} {v : n.Value} (h : n.Fits v) :
    ReadsBack n.toJson n.ofJson? greatestDepth v := by
  cases n with
  | coinEntries => exact ReadsBack.table fun e _ => CoinEntry.readsBack 125 e
  | listedCoins => exact ReadsBack.table fun c hc => ListedCoin.readsBack 125 (h c hc)
  | coinPrices => exact ReadsBack.table fun p _ => CoinPrice.readsBack 125 p
  | rates => exact Rates.readsBack 125 h
  | spotPrices => exact ReadsBack.table fun s _ => readsBack_str 126 s
  | lastTrades => exact ReadsBack.table fun r hr => LastTrade.readsBack 125 (h r hr)
  | dayPrices => exact ReadsBack.table fun r hr => DayPrices.readsBack 125 (h r hr)
  | dayVolumes => exact ReadsBack.table fun r hr => Volume.readsBack 125 (h r hr)
  | fortnightVolumes => exact ReadsBack.table fun r hr => Volume.readsBack 125 (h r hr)
  | orderbooks => exact ReadsBack.table fun r hr => Orderbook.readsBack 123 (h r hr)
  | summary => exact Summary.readsBack 124 h

/-- The text of the file of a value is read as the value. -/
theorem ofFileText_fileText {n : Item} {v : n.Value} (h : n.Fits v) :
    n.ofFileText (n.fileText v) = .ok v := by
  have hv : ReadsBack n.toJson n.ofJson? greatestDepth v := readsBack h
  have hr : (Json.read (n.fileText v)).bind n.ofJson? = some v := by
    rw [fileText, read_pretty hv.writable.sorted, Option.bind_some]
    exact hv.read
  rw [ofFileText, hr]

end Item

end SwapMarket
