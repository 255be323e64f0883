import SwapMarket.Coin.Catalogue
import SwapMarket.Proofs.Decimal.Order

/-!
# The orientation of a market

Which of two coins is the base of their market does not hang on the order in which they are named
(**`Catalogue.orientation_comm`**), for of two decimals each is above the other, below it or equal
to it, whichever is looked at first (`Decimal.order_swap`). So the market of two coins is found
again from its base and quote (`orientation_orientation`).
-/

namespace SwapMarket.Catalogue

variable {c : Catalogue} {a b : String}

/-- Of two coins not both are the quote of the other. -/
theorem isQuoteOf_asymm (h : c.isQuoteOf a b = true) : c.isQuoteOf b a = false := by
  have hswap := Decimal.order_swap (c.marketCap a) (c.marketCap b)
  unfold isQuoteOf at h ⊢
  rw [← hswap]
  cases ho : Decimal.order (c.marketCap a) (c.marketCap b) with
  | lt =>
    rw [ho] at h
    cases h
  | gt => rfl
  | eq =>
    rw [ho] at h
    have hlt : b < a := of_decide_eq_true h
    exact decide_eq_false (String.lt_asymm hlt)

/-- Of two coins one is the quote of the other. -/
theorem isQuoteOf_total (hne : a ≠ b) (h : c.isQuoteOf a b = false) : c.isQuoteOf b a = true := by
  have hswap := Decimal.order_swap (c.marketCap a) (c.marketCap b)
  unfold isQuoteOf at h ⊢
  rw [← hswap]
  cases ho : Decimal.order (c.marketCap a) (c.marketCap b) with
  | lt => rfl
  | gt =>
    rw [ho] at h
    cases h
  | eq =>
    rw [ho] at h
    have hle : a ≤ b := String.not_lt.1 (of_decide_eq_false h)
    exact decide_eq_true (Std.lt_of_le_of_ne hle hne)

/-- The market of two coins is the same whichever is named first. -/
theorem orientation_comm (c : Catalogue) (a b : String) :
    c.orientation a b = c.orientation b a := by
  by_cases hne : a = b
  · rw [hne]
  unfold orientation
  cases h : c.isQuoteOf a b with
  | true => rw [isQuoteOf_asymm h, if_pos rfl, if_neg Bool.false_ne_true]
  | false => rw [isQuoteOf_total hne h, if_pos rfl, if_neg Bool.false_ne_true]

/-- The sides of the market of two coins are these coins. -/
theorem orientation_cases (c : Catalogue) (a b : String) :
    c.orientation a b = (a, b) ∨ c.orientation a b = (b, a) := by
  unfold orientation
  split
  · exact .inr rfl
  · exact .inl rfl

/-- A market is that of its base and its quote. -/
theorem orientation_orientation (c : Catalogue) (a b : String) :
    c.orientation (c.orientation a b).1 (c.orientation a b).2 = c.orientation a b := by
  rcases c.orientation_cases a b with h | h
  · rw [h, h]
  · rw [h, orientation_comm, h]

end SwapMarket.Catalogue
