import SwapMarket.Pair
import Mathlib.Tactic.Common

/-!
# Identifiers of markets

An identifier is cut at its first underscore. So a base without an underscore is found again in the
identifier of its market, whatever the quote is: exchanging the sides of the identifier gives the
identifier of the other side (**`Pair.flip_join`**), and no two such markets share an identifier
(**`Pair.join_inj`**). A client may only ask for identifiers both of whose tickers are without an
underscore, and that are not too long (**`Pair.CanBeAsked`**).
-/

namespace SwapMarket.Pair

/-- A ticker without an underscore can be the base of an identifier. -/
def IsSide (t : String) : Prop := separator ∉ t.toList

instance (t : String) : Decidable (IsSide t) :=
  inferInstanceAs (Decidable (separator ∉ t.toList))

variable {b q b' q' : String}

/-- An identifier is base, separator and quote. -/
theorem toList_join (b q : String) : (join b q).toList = b.toList ++ separator :: q.toList := by
  unfold join
  rw [String.toList_append, String.toList_append, List.append_assoc]
  rfl

/-- A base without an underscore ends where the identifier is cut. -/
theorem cut_join (h : IsSide b) : Text.cut separator (join b q) = some (b, q) := by
  have hc : Text.cutChars separator (join b q).toList = some (b.toList, q.toList) :=
    Text.cutChars_eq_some_iff.2 ⟨toList_join b q, h⟩
  unfold Text.cut
  rw [hc]
  simp only [Option.map_some, String.ofList_toList]

/-- The flipped identifier has base and quote exchanged. -/
theorem flip_join (h : IsSide b) : flip (join b q) = join q b := by
  unfold flip
  rw [cut_join h]

/-- Identifiers of different markets are different. -/
theorem join_inj (h : IsSide b) (h' : IsSide b') (he : join b q = join b' q') :
    b = b' ∧ q = q' := by
  have hc := cut_join (q := q) h
  rw [he, cut_join h'] at hc
  obtain ⟨hb, hq⟩ := Prod.mk.inj (Option.some.inj hc)
  exact ⟨hb.symm, hq.symm⟩

/-- What is cut out of an identifier makes it up again. -/
theorem eq_join_of_cut {p : String} (h : Text.cut separator p = some (b, q)) :
    p = join b q ∧ IsSide b := by
  obtain ⟨⟨cs, ds⟩, hc, he⟩ := Option.map_eq_some_iff.1 h
  obtain ⟨hp, hcs⟩ := Text.cutChars_eq_some_iff.1 hc
  cases he
  refine ⟨?_, ?_⟩
  · rw [← String.toList_inj, toList_join, hp, String.toList_ofList, String.toList_ofList]
  · unfold IsSide
    rw [String.toList_ofList]
    exact hcs

/-- An identifier has one underscore if and only if its sides have none. -/
theorem count_join_eq_one_iff :
    (join b q).toList.count separator = 1 ↔ IsSide b ∧ IsSide q := by
  unfold IsSide
  rw [toList_join, List.count_append, List.count_cons_self, ← List.count_eq_zero,
    ← List.count_eq_zero]
  omega

/-- The texts that name markets. -/
theorem sides_ok_iff {p : String} : sides p = .ok (b, q) ↔
    p = join b q ∧ IsSide b ∧ IsSide q ∧ b ≠ "" ∧ q ≠ "" ∧ p.utf8ByteSize ≤ greatestLength := by
  unfold sides
  constructor
  · intro h
    split at h
    · cases h
    · next hlength =>
      split at h
      · cases h
      · next hcount =>
        split at h
        · next b' q' hcut =>
          split at h
          · cases h
          · next hside =>
            cases h
            obtain ⟨rfl, -⟩ := eq_join_of_cut hcut
            obtain ⟨hb, hq⟩ := count_join_eq_one_iff.1 (not_not.1 hcount)
            rw [not_or] at hside
            exact ⟨rfl, hb, hq, hside.1, hside.2, Nat.not_lt.1 hlength⟩
        · cases h
  · rintro ⟨rfl, hb, hq, hbne, hqne, hlength⟩
    rw [if_neg (Nat.not_lt.2 hlength), if_neg (not_not.2 (count_join_eq_one_iff.2 ⟨hb, hq⟩)),
      cut_join hb]
    simp [hbne, hqne]

/-- Two tickers of which a client can name the market: they have no underscore, and the identifier
is not too long. -/
structure CanBeAsked (b q : String) : Prop where
  /-- The base has no underscore. -/
  base : IsSide b
  /-- The quote has none. -/
  quote : IsSide q
  /-- The identifier is not too long. -/
  length : (join b q).utf8ByteSize ≤ greatestLength

/-- Why an identifier is refused if it is cut into two sides: for its length, or else for a further
underscore. -/
def refusal (p : String) : PairFault :=
  if greatestLength < p.utf8ByteSize then .tooLong p else .separators p

/-- The identifier of two tickers that are not empty is cut into them again. -/
theorem sides_join_ok (h : CanBeAsked b q) (hb : b ≠ "") (hq : q ≠ "") :
    sides (join b q) = .ok (b, q) :=
  sides_ok_iff.2 ⟨rfl, h.base, h.quote, hb, hq, h.length⟩

/-- The identifier of two tickers that cannot be asked for is refused. -/
theorem sides_join_error (h : ¬ CanBeAsked b q) :
    sides (join b q) = .error (refusal (join b q)) := by
  unfold sides refusal
  split
  · rfl
  · next hlength =>
    refine if_pos fun hcount => h ?_
    obtain ⟨hb, hq⟩ := count_join_eq_one_iff.1 hcount
    exact ⟨hb, hq, Nat.not_lt.1 hlength⟩

/-- An identifier is cut into its sides, or not at all. -/
theorem eq_of_sides_join {m : String × String} (h : sides (join b q) = .ok m) : m = (b, q) := by
  obtain ⟨hm, hb', hq', -⟩ := sides_ok_iff.1 (show sides (join b q) = .ok (m.1, m.2) from h)
  have hcount := count_join_eq_one_iff.2 ⟨hb', hq'⟩
  rw [← hm] at hcount
  obtain ⟨rfl, rfl⟩ := join_inj (count_join_eq_one_iff.1 hcount).1 hb' hm
  rfl

/-- A ticker without a mark of a variant is plain. -/
theorem plainTicker_of_not_mem {t : String} (h : variantMark ∉ t.toList) : plainTicker t = t := by
  unfold plainTicker Text.before Text.cut
  rw [Text.cutChars_eq_none_iff.2 h]
  rfl

/-- A text without dashes carries no variants. -/
theorem plain_of_not_mem {p : String} (h : variantMark ∉ p.toList) : plain p = p := by
  unfold plain
  split
  · next b q hcut =>
    obtain ⟨rfl, -⟩ := eq_join_of_cut hcut
    rw [toList_join, List.mem_append, List.mem_cons, not_or, not_or] at h
    rw [plainTicker_of_not_mem h.1, plainTicker_of_not_mem h.2.2]
  · exact plainTicker_of_not_mem h

end SwapMarket.Pair
