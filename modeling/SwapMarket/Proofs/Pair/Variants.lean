import SwapMarket.Proofs.Pair

/-!
# Turned identifiers and plain identifiers

An identifier that names a market has one underscore, and so it can be turned round and freed from
the variants of its tickers side by side. Turning it gives the identifier of the other side, which
names a market again (`sides_flip`). A plain ticker is what stands before the first dash of a ticker
(`plainTicker_spec`); it has no underscore that the ticker does not have, and it is no longer than
the ticker. So a plain identifier has one underscore, too, and is no longer than the identifier. It
need not name a market: nothing is left of a ticker that starts with a dash.

Main statement: **`sides_flip_plain`**.
-/

namespace SwapMarket.Pair

variable {b q p t : String}

/-! ## Turned identifiers -/

/-- An identifier has one byte more than its coins. -/
theorem utf8ByteSize_join (b q : String) :
    (join b q).utf8ByteSize = b.utf8ByteSize + 1 + q.utf8ByteSize := by
  unfold join
  rw [String.utf8ByteSize_append, String.utf8ByteSize_append, String.utf8ByteSize_singleton]
  rfl

/-- A turned identifier is as long as the identifier. -/
theorem utf8ByteSize_join_comm (b q : String) :
    (join b q).utf8ByteSize = (join q b).utf8ByteSize := by
  rw [utf8ByteSize_join, utf8ByteSize_join]
  omega

/-- A turned identifier names the market with its sides exchanged. -/
theorem sides_flip (h : sides p = .ok (b, q)) : sides (flip p) = .ok (q, b) := by
  obtain ⟨rfl, hb, hq, hbne, hqne, hlength⟩ := sides_ok_iff.1 h
  rw [flip_join hb]
  rw [utf8ByteSize_join_comm] at hlength
  exact sides_ok_iff.2 ⟨rfl, hq, hb, hqne, hbne, hlength⟩

/-- The names of both sides of a market are those of the market. -/
theorem flip_flip (h : p.toList.count separator = 1) : flip (flip p) = p := by
  cases hcut : Text.cut separator p with
  | none =>
    have hflip : flip p = p := by simp [flip, hcut]
    rw [hflip, hflip]
  | some m =>
    obtain ⟨rfl, -⟩ := eq_join_of_cut (b := m.1) (q := m.2) hcut
    obtain ⟨hb, hq⟩ := count_join_eq_one_iff.1 h
    rw [flip_join hb, flip_join hq]

/-! ## Plain tickers -/

/-- A ticker is its plain ticker, or this with a dash and a variant after it. There is no dash in a
plain ticker. -/
theorem plainTicker_spec (t : String) : variantMark ∉ (plainTicker t).toList ∧
    (t = plainTicker t ∨
      ∃ v, variant? t = some v ∧ t = plainTicker t ++ String.singleton variantMark ++ v) := by
  unfold plainTicker Text.before variant? Text.cut
  cases hcut : Text.cutChars variantMark t.toList with
  | none => exact ⟨Text.cutChars_eq_none_iff.1 hcut, .inl rfl⟩
  | some parts =>
    obtain ⟨cs, ds⟩ := parts
    obtain ⟨ht, hmark⟩ := Text.cutChars_eq_some_iff.1 hcut
    simp only [Option.map_some, String.toList_ofList]
    refine ⟨hmark, .inr ⟨.ofList ds, rfl, ?_⟩⟩
    rw [← String.toList_inj, ht]
    simp

/-- The plain ticker is no longer. -/
theorem utf8ByteSize_plainTicker_le (t : String) :
    (plainTicker t).utf8ByteSize ≤ t.utf8ByteSize := by
  rcases (plainTicker_spec t).2 with h | ⟨v, -, h⟩
  · exact Nat.le_of_eq (congrArg String.utf8ByteSize h.symm)
  · have hlength := congrArg String.utf8ByteSize h
    rw [String.utf8ByteSize_append, String.utf8ByteSize_append] at hlength
    omega

/-- A plain ticker has no underscore if the ticker has none. -/
theorem isSide_plainTicker (h : IsSide t) : IsSide (plainTicker t) := by
  intro hmem
  rcases (plainTicker_spec t).2 with ht | ⟨v, -, ht⟩
  · exact h (ht ▸ hmem)
  · refine h ?_
    rw [ht, String.toList_append, String.toList_append]
    exact List.mem_append_left _ (List.mem_append_left _ hmem)

/-- A plain ticker is plain. -/
theorem plainTicker_plainTicker (t : String) : plainTicker (plainTicker t) = plainTicker t :=
  plainTicker_of_not_mem (plainTicker_spec t).1

/-! ## Plain identifiers -/

/-- The sides of a plain identifier are the plain tickers. -/
theorem plain_join (h : IsSide b) : plain (join b q) = join (plainTicker b) (plainTicker q) := by
  unfold plain
  rw [cut_join h]

/-- The plain identifier is no longer. -/
theorem utf8ByteSize_plain_join_le (h : IsSide b) :
    (plain (join b q)).utf8ByteSize ≤ (join b q).utf8ByteSize := by
  have hb := utf8ByteSize_plainTicker_le b
  have hq := utf8ByteSize_plainTicker_le q
  rw [plain_join h, utf8ByteSize_join, utf8ByteSize_join]
  omega

/-- A text names a market if and only if it is the identifier of two tickers that are not empty and
have no underscore, and it has at most 32 bytes. Such an identifier can be turned round and freed
from its variants.

* Turned, it names the market with its sides exchanged, and turned twice, it is as before.
* Without variants it is the identifier of the plain tickers. It has one underscore and at most 32
  bytes, and there is nothing more to take away. It names a market unless nothing is left of a
  ticker.
* It does not matter whether it is first turned or first freed from its variants. -/
theorem sides_flip_plain (p : String) :
    (∀ b q, sides p = .ok (b, q) ↔
      p = join b q ∧ b ≠ "" ∧ q ≠ "" ∧ IsSide b ∧ IsSide q ∧ p.utf8ByteSize ≤ 32) ∧
    ∀ b q, sides p = .ok (b, q) →
      (sides (flip p) = .ok (q, b) ∧ flip (flip p) = p) ∧
      (plain p = join (plainTicker b) (plainTicker q) ∧ plain (plain p) = plain p ∧
        (plain p).toList.count separator = 1 ∧ (plain p).utf8ByteSize ≤ 32 ∧
        (plainTicker b ≠ "" → plainTicker q ≠ "" →
          sides (plain p) = .ok (plainTicker b, plainTicker q))) ∧
      plain (flip p) = flip (plain p) := by
  constructor
  · intro b q
    rw [sides_ok_iff]
    constructor
    · rintro ⟨hp, hb, hq, hbne, hqne, hlength⟩
      exact ⟨hp, hbne, hqne, hb, hq, hlength⟩
    · rintro ⟨hp, hbne, hqne, hb, hq, hlength⟩
      exact ⟨hp, hb, hq, hbne, hqne, hlength⟩
  · intro b q h
    obtain ⟨rfl, hb, hq, -, -, hlength⟩ := sides_ok_iff.1 h
    refine ⟨⟨sides_flip h, flip_flip (count_join_eq_one_iff.2 ⟨hb, hq⟩)⟩, ?_⟩
    have hb' : IsSide (plainTicker b) := isSide_plainTicker hb
    have hq' : IsSide (plainTicker q) := isSide_plainTicker hq
    have hplain : (plain (join b q)).utf8ByteSize ≤ 32 :=
      Nat.le_trans (utf8ByteSize_plain_join_le hb) hlength
    rw [plain_join hb] at hplain ⊢
    refine ⟨⟨rfl, ?_, count_join_eq_one_iff.2 ⟨hb', hq'⟩, hplain, ?_⟩, ?_⟩
    · rw [plain_join hb', plainTicker_plainTicker, plainTicker_plainTicker]
    · intro hbne hqne
      exact sides_join_ok ⟨hb', hq', hplain⟩ hbne hqne
    · rw [flip_join hb, plain_join hq, flip_join hb']

/-- Two dashes in the base and one at the start of the quote, of which nothing is left. -/
theorem sides_flip_plain_dashes :
    sides "É-a-b_-KMD" = .ok ("É-a-b", "-KMD") ∧
    sides (flip "É-a-b_-KMD") = .ok ("-KMD", "É-a-b") ∧
    plain "É-a-b_-KMD" = "É_" ∧ plain (flip "É-a-b_-KMD") = flip "É_" := by
  have h : sides "É-a-b_-KMD" = .ok ("É-a-b", "-KMD") := rfl
  obtain ⟨⟨hflip, -⟩, ⟨hplain, -⟩, hboth⟩ := (sides_flip_plain "É-a-b_-KMD").2 _ _ h
  have he : plain "É-a-b_-KMD" = "É_" := hplain
  exact ⟨h, hflip, he, he ▸ hboth⟩

end SwapMarket.Pair
