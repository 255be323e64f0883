import SwapMarket.Market.Quotes
import SwapMarket.Proofs.Run
import Mathlib.Data.List.Forall2

/-!
# Quoted orders that are read

A value **`CountsAs`** a decimal if it is a number or the text of a decimal; null and a blank text
count as zero. Quoted orders are read if and only if all their values count as decimals, one order
for each (**`Order.ofQuotes_ok_iff`**). A member that an order leaves out is taken for null
(`QuotedOrder.member_of_ofJson?`).
-/

namespace SwapMarket

/-- What decimal a value counts as. -/
def Json.CountsAs : Json → Decimal → Prop
  | .null, d => d = .zero
  | .str s, d => if Text.trim s = "" then d = .zero else Decimal.parse (Text.trim s) = .ok d
  | .num n, d => d = n.decimal
  | _, _ => False

/-- An amount is found exactly if the value counts as a number. -/
theorem Json.amount_ok_iff {v : Json} {d : Decimal} : v.amount = .ok d ↔ v.CountsAs d := by
  cases v with
  | null => simp [amount, CountsAs, eq_comm]
  | num n => simp [amount, CountsAs, eq_comm]
  | str s =>
    simp only [amount, CountsAs, Decimal.read]
    split
    · simp [Except.mapError, eq_comm]
    · cases Decimal.parse (Text.trim s) with
      | error f => simp [Except.mapError]
      | ok d' => simp [Except.mapError]
  | _ => simp [amount, CountsAs]

namespace QuotedOrder

/-- The values of an order. -/
def values (q : QuotedOrder) : List Json := [q.price, q.baseVolume, q.quoteVolume]

/-- An order that can be calculated with, and what it was read from. -/
structure Reads (q : QuotedOrder) (o : Order) : Prop where
  /-- The price. -/
  price : q.price.CountsAs o.price
  /-- The volume in the base. -/
  baseVolume : q.baseVolume.CountsAs o.baseVolume
  /-- The volume in the quote. -/
  quoteVolume : q.quoteVolume.CountsAs o.quoteVolume

/-- An order is read if each of its values counts as a decimal. -/
theorem exists_reads_iff {q : QuotedOrder} :
    (∃ o, q.Reads o) ↔ ∀ v ∈ q.values, ∃ d, v.CountsAs d := by
  simp only [values, List.forall_mem_cons, List.not_mem_nil, false_imp_iff, implies_true, and_true]
  constructor
  · rintro ⟨o, h⟩
    exact ⟨⟨_, h.price⟩, ⟨_, h.baseVolume⟩, _, h.quoteVolume⟩
  · rintro ⟨⟨p, hp⟩, ⟨b, hb⟩, v, hv⟩
    exact ⟨⟨p, b, v⟩, hp, hb, hv⟩

/-- The members of an order in an object are the values under their names, or null. -/
theorem member_of_ofJson? {fields : List (String × Json)} {q : QuotedOrder}
    (h : ofJson? (.obj fields) = some q) :
    ∀ m ∈ [("price", price), ("base_max_volume", baseVolume), ("rel_max_volume", quoteVolume)],
      m.2 q = ((fields.find? fun f => f.1 == m.1).map (·.2)).getD .null := by
  obtain ⟨m, hm, h⟩ := Option.bind_eq_some_iff.1 h
  have hmember : ∀ k v, m.defaulted k .null Json.value? = some v →
      v = ((fields.find? fun f => f.1 == k).map (·.2)).getD .null := by
    intro k v hv
    simp only [Json.members] at hm
    split at hm
    · cases hm
    · cases hm
      unfold Json.Members.defaulted at hv
      cases hf : fields.find? fun f => f.1 == k with
      | none => simpa [hf, eq_comm] using hv
      | some f =>
        simp only [hf, Json.value?, Option.ite_none_right_eq_some, Option.some.injEq] at hv
        simp [hv.2]
  obtain ⟨p, hp, h⟩ := Option.bind_eq_some_iff.1 h
  obtain ⟨b, hb, h⟩ := Option.bind_eq_some_iff.1 h
  obtain ⟨v, hv, h⟩ := Option.bind_eq_some_iff.1 h
  cases h
  simp [hmember _ _ hp, hmember _ _ hb, hmember _ _ hv]

end QuotedOrder

namespace Order

/-- An order is found exactly if the quote reads as one. -/
theorem ofQuote_ok_iff {q : QuotedOrder} {o : Order} : ofQuote q = .ok o ↔ q.Reads o := by
  constructor
  · intro h
    simp only [ofQuote] at h
    cases hp : q.price.amount with
    | error f => simp [hp, bind, Except.bind] at h
    | ok p =>
      cases hb : q.baseVolume.amount with
      | error f => simp [hp, hb, bind, Except.bind] at h
      | ok b =>
        cases hv : q.quoteVolume.amount with
        | error f => simp [hp, hb, hv, bind, Except.bind] at h
        | ok v =>
          rw [hp, hb, hv] at h
          cases h
          exact ⟨Json.amount_ok_iff.1 hp, Json.amount_ok_iff.1 hb, Json.amount_ok_iff.1 hv⟩
  · intro h
    unfold ofQuote
    rw [Json.amount_ok_iff.2 h.price, Json.amount_ok_iff.2 h.baseVolume,
      Json.amount_ok_iff.2 h.quoteVolume]
    rfl

/-- Quoted orders are read one by one. -/
theorem ofQuotes_ok_iff {qs : List QuotedOrder} {os : List Order} :
    ofQuotes qs = .ok os ↔ List.Forall₂ QuotedOrder.Reads qs os := by
  induction qs generalizing os with
  | nil => simp [ofQuotes, eq_comm]
  | cons q qs ih =>
    rw [List.forall₂_cons_left_iff]
    unfold ofQuotes
    constructor
    · intro h
      cases ho : ofQuote q with
      | error f =>
        rw [ho] at h
        cases h
      | ok o =>
        cases hos : ofQuotes qs with
        | error f =>
          rw [ho, hos] at h
          cases h
        | ok os' =>
          rw [ho, hos] at h
          cases h
          exact ⟨o, os', ofQuote_ok_iff.1 ho, ih.1 hos, rfl⟩
    · rintro ⟨o, os', ho, hos, rfl⟩
      rw [ofQuote_ok_iff.2 ho, ih.2 hos]
      rfl

/-- Quoted orders are read if all their values count as decimals. -/
theorem exists_ofQuotes_iff {qs : List QuotedOrder} :
    (∃ os, ofQuotes qs = .ok os) ↔ ∀ q ∈ qs, ∀ v ∈ q.values, ∃ d, v.CountsAs d := by
  simp only [ofQuotes_ok_iff, ← QuotedOrder.exists_reads_iff]
  induction qs with
  | nil => simp
  | cons q qs ih =>
    rw [List.forall_mem_cons, ← ih]
    constructor
    · rintro ⟨os, h⟩
      obtain ⟨o, os', ho, hos, -⟩ := List.forall₂_cons_left_iff.1 h
      exact ⟨⟨o, ho⟩, os', hos⟩
    · rintro ⟨⟨o, ho⟩, os, hos⟩
      exact ⟨o :: os, .cons ho hos⟩

end Order

end SwapMarket
