import SwapMarket.Proofs.Coin.Orientation
import SwapMarket.Proofs.Market.Record
import SwapMarket.Proofs.Pair
import Mathlib.Data.Prod.Lex
import Mathlib.Data.Set.Insert
import Mathlib.Data.String.Basic

/-!
# The order of coins

A coin is the base of its market with another if its market capitalisation is lower, or if it is the
same and the coin comes first in the alphabet. Market capitalisations are compared by value, however
they are written (`Decimal.order_eq_compare`), and every ticker has one, be it zero or that of its
plain ticker. So tickers are ranked by the pair of both, in lexicographic order (**`rank`**). No two
tickers have the same rank, and being the base is a strict total order.

Main statement: **`markets_oriented`**.
-/

namespace SwapMarket.Catalogue

variable {c : Catalogue} {a b a' b' : String}

/-- What decides on the base of a market: the market capitalisation, and then the alphabet. -/
def rank (c : Catalogue) (t : String) : ℚ ×ₗ String := toLex ((c.marketCap t).value, t)

/-- The first of two coins is the base of their market. -/
def IsBase (c : Catalogue) (a b : String) : Prop := a ≠ b ∧ c.orientation a b = (a, b)

/-- Different tickers have different ranks. -/
theorem rank_injective (c : Catalogue) : Function.Injective c.rank := by
  intro a b h
  exact congrArg (fun r => (ofLex r).2) h

/-- A rank is lower for a lower market capitalisation, and else for the lesser ticker. -/
theorem rank_lt_iff : c.rank a < c.rank b ↔ (c.marketCap a).value < (c.marketCap b).value ∨
    (c.marketCap a).value = (c.marketCap b).value ∧ a < b :=
  Prod.Lex.toLex_lt_toLex

/-- The coin of the higher rank is the quote. -/
theorem isQuoteOf_iff : c.isQuoteOf a b = true ↔ c.rank b < c.rank a := by
  rw [rank_lt_iff]
  unfold isQuoteOf
  rw [Decimal.order_eq_compare]
  cases hcompare : compare (c.marketCap a).value (c.marketCap b).value with
  | lt =>
    have hlt := compare_lt_iff_lt.1 hcompare
    simp [hlt.not_gt, hlt.ne']
  | gt =>
    have hgt := compare_gt_iff_gt.1 hcompare
    simp [hgt]
  | eq =>
    have heq := compare_eq_iff_eq.1 hcompare
    simp [heq]

/-- The coin of the lower rank is the base. -/
theorem isBase_iff : c.IsBase a b ↔ c.rank a < c.rank b := by
  unfold IsBase orientation
  constructor
  · rintro ⟨hne, h⟩
    split at h
    · obtain ⟨hba, -⟩ := Prod.mk.inj h
      exact absurd hba.symm hne
    · next hquote =>
      rw [isQuoteOf_iff, not_lt] at hquote
      exact lt_of_le_of_ne hquote fun he => hne (c.rank_injective he)
  · intro h
    refine ⟨fun he => ?_, if_neg fun hquote => ?_⟩
    · rw [he] at h
      exact lt_irrefl _ h
    · exact lt_asymm h (isQuoteOf_iff.1 hquote)

/-- Of two coins one is the base of their market, and the coins are in one line. -/
theorem isStrictTotalOrder_isBase (c : Catalogue) : IsStrictTotalOrder String c.IsBase where
  irrefl a h := h.1 rfl
  trans a b d hab hbd := by
    rw [isBase_iff] at hab hbd ⊢
    exact hab.trans hbd
  trichotomous a b hab hba := by
    rw [isBase_iff, not_lt] at hab hba
    exact c.rank_injective (le_antisymm hba hab)

/-- Two coins have the same market as two others if and only if they are the same coins. -/
theorem orientation_eq_iff : c.orientation a b = c.orientation a' b' ↔
    ({a, b} : Set String) = {a', b'} := by
  rw [Set.pair_eq_pair_iff]
  constructor
  · intro h
    rcases c.orientation_cases a b with hab | hab
    · rcases c.orientation_cases a' b' with hab' | hab'
      · rw [hab, hab'] at h
        exact .inl (Prod.mk.inj h)
      · rw [hab, hab'] at h
        exact .inr (Prod.mk.inj h)
    · rcases c.orientation_cases a' b' with hab' | hab'
      · rw [hab, hab'] at h
        obtain ⟨hb, ha⟩ := Prod.mk.inj h
        exact .inr ⟨ha, hb⟩
      · rw [hab, hab'] at h
        obtain ⟨hb, ha⟩ := Prod.mk.inj h
        exact .inl ⟨ha, hb⟩
  · rintro (⟨rfl, rfl⟩ | ⟨rfl, rfl⟩)
    · rfl
    · exact c.orientation_comm _ _

/-- The identifier of a market tells which coins it is of. -/
theorem ofSides_orientation_eq_iff (ha : Pair.IsSide a) (hb : Pair.IsSide b)
    (ha' : Pair.IsSide a') (hb' : Pair.IsSide b') :
    Pair.ofSides (c.orientation a b) = Pair.ofSides (c.orientation a' b') ↔
      ({a, b} : Set String) = {a', b'} := by
  have hbase {x y : String} (hx : Pair.IsSide x) (hy : Pair.IsSide y) :
      Pair.IsSide (c.orientation x y).1 := by
    rcases c.orientation_cases x y with h | h
    · rw [h]
      exact hx
    · rw [h]
      exact hy
  rw [← orientation_eq_iff (c := c)]
  constructor
  · intro h
    obtain ⟨hfst, hsnd⟩ := Pair.join_inj (hbase ha hb) (hbase ha' hb') h
    exact Prod.ext hfst hsnd
  · intro h
    rw [h]

/-- The market of two coins has them as its base and its quote, the same whichever is named first.

* To be the base is a strict total order on all tickers, known or not.
* The base is the coin with the lower market capitalisation, by value, and of equals the one that
  comes first in the alphabet.
* Markets of tickers without underscores have the same identifier only if they are of the same
  coins. -/
theorem markets_oriented (c : Catalogue) :
    (∀ a b, (c.orientation a b = (a, b) ∨ c.orientation a b = (b, a)) ∧
      c.orientation a b = c.orientation b a) ∧
    IsStrictTotalOrder String c.IsBase ∧
    (∀ a b, c.IsBase a b ↔ (c.marketCap a).value < (c.marketCap b).value ∨
      (c.marketCap a).value = (c.marketCap b).value ∧ a < b) ∧
    ∀ a b a' b', Pair.IsSide a → Pair.IsSide b → Pair.IsSide a' → Pair.IsSide b' →
      (Pair.ofSides (c.orientation a b) = Pair.ofSides (c.orientation a' b') ↔
        ({a, b} : Set String) = {a', b'}) := by
  refine ⟨fun a b => ⟨c.orientation_cases a b, c.orientation_comm a b⟩,
    c.isStrictTotalOrder_isBase, fun a b => ?_, fun a b a' b' ha hb ha' hb' => ?_⟩
  · rw [isBase_iff, rank_lt_iff]
  · exact ofSides_orientation_eq_iff ha hb ha' hb'

/-- Coins with market capitalisations, written in different ways, and a variant without one. -/
def someCoins : Catalogue :=
  let coin (t : String) (cap : Decimal) : Coin :=
    ⟨t, Pair.variant? t, "UTXO", false, false, false, none, .zero, cap⟩
  ⟨.ofList [("DGB", coin "DGB" ⟨1000, 1⟩), ("KMD", coin "KMD" ⟨1, -2⟩), ("LTC", coin "LTC" ⟨3, -2⟩),
    ("LTC-segwit", coin "LTC-segwit" .zero)]⟩

/-- The market of a coin and a variant is not that of the coin and the plain ticker. -/
theorem markets_oriented_variant :
    someCoins.orientation "LTC-segwit" "DGB" = ("DGB", "LTC-segwit") ∧
    someCoins.orientation "KMD" "DGB" = ("DGB", "KMD") ∧
    someCoins.IsBase "LTC" "LTC-segwit" ∧
    Pair.ofSides (someCoins.orientation "LTC-segwit" "DGB")
      ≠ Pair.ofSides (someCoins.orientation "LTC" "DGB") := by
  obtain ⟨hsides, -, -, hmarkets⟩ := someCoins.markets_oriented
  have hmarket := hmarkets "LTC-segwit" "DGB" "LTC" "DGB" (by decide) (by decide) (by decide)
    (by decide)
  have hcoins : ({"LTC-segwit", "DGB"} : Set String) ≠ {"LTC", "DGB"} := by
    rw [Ne, Set.pair_eq_pair_iff]
    decide
  refine ⟨?_, ?_, ⟨by decide, ?_⟩, fun h => hcoins (hmarket.1 h)⟩
  · rw [(hsides "LTC-segwit" "DGB").2]
    decide +kernel
  · rw [(hsides "KMD" "DGB").2]
    decide +kernel
  · decide +kernel

end SwapMarket.Catalogue
