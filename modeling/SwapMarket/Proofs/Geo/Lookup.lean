import SwapMarket.Geo.Database
import Mathlib.Data.List.Pairwise
import Mathlib.Data.List.TakeWhile

/-!
# Countries are looked up as by a scan

A database keeps the ranges with a country in the order of their first numbers and looks at one of
them. Where ranges share no number (**`GeoRange.AreDisjoint`**), this is enough: the last range that
starts at or before a number is the only one that can contain it, so a look-up finds what a scan of
all ranges finds (**`GeoDatabase.linearScan`**, `find?_ofRanges`).

So the order of the rows in the text of a database does not count, and gaps that ranges without a
country leave are gaps. Main statement: `lookup_eq_scan`.
-/

namespace SwapMarket

namespace GeoRange

variable {a b r : GeoRange} {rs qs : List GeoRange} {n : Nat}

/-- A number lies in a range. -/
def Contains (r : GeoRange) (n : Nat) : Prop := r.first ≤ n ∧ n ≤ r.last

instance (r : GeoRange) (n : Nat) : Decidable (r.Contains n) :=
  inferInstanceAs (Decidable (_ ∧ _))

/-- A range is one of a country. -/
def IsKnown (r : GeoRange) : Prop := r.country ≠ GeoDatabase.unknownCountry

instance (r : GeoRange) : Decidable r.IsKnown := inferInstanceAs (Decidable (_ ≠ _))

/-- One range ends before the other one starts. -/
def Apart (a b : GeoRange) : Prop := a.last < b.first ∨ b.last < a.first

instance (a b : GeoRange) : Decidable (a.Apart b) := inferInstanceAs (Decidable (_ ∨ _))

instance : Std.Symm Apart := ⟨fun _ _ => Or.symm⟩

/-- A number in one of two ranges that are apart is not in the other one. -/
theorem Apart.not_contains (h : a.Apart b) (ha : a.Contains n) : ¬ b.Contains n := by
  unfold Apart Contains at *
  omega

/-- Ranges of which none ends before it starts and no two share a number. -/
structure AreDisjoint (rs : List GeoRange) : Prop where
  /-- No range ends before it starts. -/
  forward : ∀ r ∈ rs, r.first ≤ r.last
  /-- No two ranges share a number. -/
  apart : rs.Pairwise Apart

namespace AreDisjoint

/-- The order of ranges does not make them meet. -/
theorem perm (h : AreDisjoint rs) (hp : qs.Perm rs) : AreDisjoint qs where
  forward r hr := h.forward r (hp.mem_iff.1 hr)
  apart := (hp.pairwise_iff Or.symm).2 h.apart

/-- Some of the ranges do not meet if all do not. -/
theorem sublist (h : AreDisjoint rs) (hs : qs.Sublist rs) : AreDisjoint qs where
  forward r hr := h.forward r (hs.subset hr)
  apart := h.apart.sublist hs

/-- A number lies in one range at most. -/
theorem eq_of_contains (h : AreDisjoint rs) (ha : a ∈ rs) (hb : b ∈ rs) (han : a.Contains n)
    (hbn : b.Contains n) : a = b := by
  by_contra hne
  exact (h.apart.forall ha hb hne).not_contains han hbn

end AreDisjoint

end GeoRange

open GeoRange (AreDisjoint)

namespace GeoDatabase

variable {g : GeoDatabase} {rs qs : List GeoRange} {r : GeoRange} {n : Nat} {code : String}

/-! ## Ranges in order -/

/-- The last range that starts at or before a number in a range is that range. -/
theorem takeWhile_of_contains {before after : List GeoRange}
    (hasc : (before ++ r :: after).Pairwise fun a b => a.first ≤ b.first)
    (hd : AreDisjoint (before ++ r :: after)) (hr : r.Contains n) :
    (before ++ r :: after).takeWhile (fun a => a.first ≤ n) = before ++ [r] := by
  obtain ⟨-, htail, hbefore⟩ := List.pairwise_append.1 hasc
  have hupto : ∀ a ∈ before, decide (a.first ≤ n) = true := fun a ha =>
    decide_eq_true (Nat.le_trans (hbefore a ha r List.mem_cons_self) hr.1)
  rw [List.takeWhile_append_of_pos hupto, List.takeWhile_cons, if_pos (decide_eq_true hr.1)]
  cases after with
  | nil => rfl
  | cons x after =>
    -- The next range starts after the number, or its first number would lie in both ranges.
    have hx : x ∈ before ++ r :: x :: after := by simp
    have hlt : ¬ x.first ≤ n := by
      intro hle
      have hstart : r.first ≤ x.first := List.rel_of_pairwise_cons htail List.mem_cons_self
      have hrx : r.Apart x := by
        have := (List.pairwise_append.1 hd.apart).2.1
        exact List.rel_of_pairwise_cons this List.mem_cons_self
      exact hrx.not_contains ⟨hstart, hle.trans hr.2⟩ ⟨le_refl _, hd.forward x hx⟩
    rw [List.takeWhile_cons, if_neg (by simpa using hlt)]

/-- Among disjoint ranges, the country of a number is that of the range in which it lies. -/
theorem find?_eq_some_iff (hd : AreDisjoint g.ranges) :
    g.find? n = some code ↔ ∃ r ∈ g.ranges, r.Contains n ∧ r.country = code := by
  unfold find?
  constructor
  · intro h
    split at h
    · next r hlast =>
      have hr := List.mem_of_getLast? hlast
      have hfirst : r.first ≤ n := by simpa using List.mem_takeWhile_imp hr
      split at h
      · next hle =>
        exact ⟨r, (List.takeWhile_subset _) hr, ⟨hfirst, hle⟩, Option.some.inj h⟩
      · cases h
    · cases h
  · rintro ⟨r, hr, hn, rfl⟩
    obtain ⟨before, after, hsplit⟩ := List.append_of_mem hr
    have hasc := g.ascending
    rw [hsplit] at hasc hd
    rw [hsplit, takeWhile_of_contains hasc hd hn, List.getLast?_concat]
    exact if_pos hn.2

/-! ## A scan of all ranges -/

/-- The country of the first range with a country in which a number lies. -/
def linearScan (rs : List GeoRange) (n : Nat) : Option String :=
  (rs.find? fun r => r.IsKnown ∧ r.Contains n).map GeoRange.country

/-- Among disjoint ranges, a scan finds the country of the range in which the number lies. -/
theorem linearScan_eq_some_iff (hd : AreDisjoint rs) :
    linearScan rs n = some code ↔ ∃ r ∈ rs, r.IsKnown ∧ r.Contains n ∧ r.country = code := by
  unfold linearScan
  rw [Option.map_eq_some_iff]
  constructor
  · rintro ⟨r, hr, rfl⟩
    have hn : r.IsKnown ∧ r.Contains n := by simpa using List.find?_some hr
    exact ⟨r, List.mem_of_find?_eq_some hr, hn.1, hn.2, rfl⟩
  · rintro ⟨r, hr, hk, hn, rfl⟩
    obtain ⟨q, hq⟩ := Option.isSome_iff_exists.1
      ((List.find?_isSome (p := fun r => r.IsKnown ∧ r.Contains n)).2 ⟨r, hr, by simp [hk, hn]⟩)
    have hqn : q.Contains n := by
      have : q.IsKnown ∧ q.Contains n := by simpa using List.find?_some hq
      exact this.2
    have heq : q = r := hd.eq_of_contains (List.mem_of_find?_eq_some hq) hr hqn hn
    exact ⟨q, hq, by rw [heq]⟩

/-- Scanning finds nothing exactly if no known range contains the number. -/
theorem linearScan_eq_none_iff : linearScan rs n = none ↔ ∀ r ∈ rs, r.IsKnown → ¬ r.Contains n := by
  unfold linearScan
  simp only [Option.map_eq_none_iff, List.find?_eq_none, decide_eq_true_eq, not_and]

/-- A scan of disjoint ranges finds the same in any order. -/
theorem linearScan_perm (hd : AreDisjoint rs) (hp : qs.Perm rs) : linearScan qs = linearScan rs := by
  funext n
  refine Option.ext fun code => ?_
  rw [linearScan_eq_some_iff hd, linearScan_eq_some_iff (hd.perm hp)]
  simp only [hp.mem_iff]

/-- The ranges of a list that a database keeps. -/
def known (rs : List GeoRange) : List GeoRange := rs.filter (·.country ≠ unknownCountry)

/-- The database has the ranges of known countries. -/
theorem mem_ranges_known : r ∈ (ofRanges (known rs)).ranges ↔ r ∈ rs ∧ r.IsKnown := by
  unfold ofRanges known
  rw [(List.mergeSort_perm _ _).mem_iff, List.mem_filter, decide_eq_true_eq]
  rfl

/-- The ranges that a database keeps of disjoint ones are disjoint. -/
theorem areDisjoint_ofRanges (hd : AreDisjoint rs) : AreDisjoint (ofRanges (known rs)).ranges :=
  (hd.sublist List.filter_sublist).perm (List.mergeSort_perm _ _)

/-- The database of disjoint ranges finds what a scan of them finds. -/
theorem find?_ofRanges (hd : AreDisjoint rs) : (ofRanges (known rs)).find? = linearScan rs := by
  funext n
  refine Option.ext fun code => ?_
  rw [find?_eq_some_iff (areDisjoint_ofRanges hd), linearScan_eq_some_iff hd]
  simp only [mem_ranges_known, and_assoc]

/-! ## Texts of ranges -/

/-- The rows of a text are ranges. -/
def IsText (text : String) (rs : List GeoRange) : Prop :=
  ∃ rows, Csv.table text = .ok rows ∧ rows.map readRow = rs.map some

/-- Rows that can all be read are read one by one. -/
theorem mapM_readRow : ∀ {rows : List (List String)} {rs : List GeoRange},
    rows.map readRow = rs.map some → rows.mapM readRow = some rs
  | [], [], _ => rfl
  | [], _ :: _, h => nomatch h
  | _ :: _, [], h => nomatch h
  | row :: rows, r :: rs, h => by
    obtain ⟨hrow, hrest⟩ := List.cons_eq_cons.1 h
    rw [List.mapM_cons, hrow, mapM_readRow hrest]
    rfl

/-- A text of ranges is read as the database of them. -/
theorem ofText_of_isText {text : String} (h : IsText text rs) :
    ofText text = .ok (ofRanges (known rs)) := by
  obtain ⟨rows, hrows, hread⟩ := h
  unfold ofText
  simp only [hrows, mapM_readRow hread]
  rfl

/-! ## Numbers of addresses -/

/-- A short address has its own number and that of its mapped form. -/
theorem numbers_short (n : BitVec 32) :
    numbers (.short n) = [n.toNat, 0xFFFF00000000 + n.toNat] := by
  have hlt := n.isLt
  have hmapped : (Address.mapped n).toNat = 0xFFFF00000000 + n.toNat := by
    simp only [Address.mapped, BitVec.toNat_ofNat, Address.mapMark, Address.shortCount]
    omega
  rw [numbers, hmapped]

/-- A long address has its own number and, if it is mapped, that of its short form. -/
theorem numbers_long (n : BitVec 128) : numbers (.long n)
    = n.toNat :: if n.toNat / 0x100000000 = 0xFFFF then [n.toNat % 0x100000000] else [] := by
  by_cases h : n.toNat / 0x100000000 = 0xFFFF
  · have hshort : Address.unmapped? n = some (.ofNat 32 n.toNat) := if_pos h
    rw [if_pos h, numbers, hshort]
    simp only [BitVec.toNat_ofNat]
  · have hnone : Address.unmapped? n = none := if_neg h
    rw [if_neg h, numbers, hnone]

end GeoDatabase

open GeoDatabase

/-- The database of a text of disjoint ranges, some without a country, is read, and finds for an
address what a scan of all ranges finds: the country of the range with a country in which its own
number lies, or else the number of its other form. It finds none if and only if no such range
contains any of these numbers. The order of the ranges in the text does not count. -/
theorem lookup_eq_scan {text : String} {rs : List GeoRange} (htext : IsText text rs)
    (hd : AreDisjoint rs) :
    ∃ g, ofText text = .ok g ∧
      (∀ a, g.country? a = (numbers a).findSome? (linearScan rs)) ∧
      (∀ n, numbers (.short n) = [n.toNat, 0xFFFF00000000 + n.toNat]) ∧
      (∀ n, numbers (.long n)
        = n.toNat :: if n.toNat / 0x100000000 = 0xFFFF then [n.toNat % 0x100000000] else []) ∧
      (∀ n code, linearScan rs n = some code ↔
        ∃ r ∈ rs, r.IsKnown ∧ r.Contains n ∧ r.country = code) ∧
      (∀ a, g.country? a = none ↔
        ∀ n ∈ numbers a, ∀ r ∈ rs, r.IsKnown → ¬ r.Contains n) ∧
      ∀ text' rs', IsText text' rs' → rs'.Perm rs →
        ∃ g', ofText text' = .ok g' ∧ g'.country? = g.country? := by
  have hlooks : ∀ qs, AreDisjoint qs → ∀ a,
      country? (ofRanges (known qs)) a = (numbers a).findSome? (linearScan qs) := by
    intro qs hqs a
    unfold country?
    rw [find?_ofRanges hqs]
  refine ⟨ofRanges (known rs), ofText_of_isText htext, hlooks rs hd, numbers_short, numbers_long,
    fun n code => linearScan_eq_some_iff hd, fun a => ?_, fun text' qs htext' hp => ?_⟩
  · rw [hlooks rs hd, List.findSome?_eq_none_iff]
    simp only [linearScan_eq_none_iff]
  · refine ⟨ofRanges (known qs), ofText_of_isText htext', ?_⟩
    funext a
    rw [hlooks qs (hd.perm hp), hlooks rs hd, linearScan_perm hd hp]

/-- Rows out of order, one without a country: the ends of a range count, and a short address may be
found in its mapped form. -/
theorem lookup_eq_scan_outOfOrder :
    let text := "281472812449792,281472812450047,IR,I\n16777216,16777471,US,U\n0,16777215,-,-\n"
    let rs : List GeoRange := [⟨281472812449792, 281472812450047, "IR"⟩,
      ⟨16777216, 16777471, "US"⟩, ⟨0, 16777215, "-"⟩]
    IsText text rs ∧ AreDisjoint rs ∧ ∃ g, ofText text = .ok g ∧
      g.country? (.short 0x01000000) = some "US" ∧ g.country? (.short 0x010000FF) = some "US" ∧
      g.country? (.short 0x01000100) = none ∧ g.country? (.short 0x00FFFFFF) = none ∧
      g.country? (.short 0x7F000001) = some "IR" := by
  intro text rs
  have htext : IsText text rs := by
    refine ⟨[["281472812449792", "281472812450047", "IR", "I"],
      ["16777216", "16777471", "US", "U"], ["0", "16777215", "-", "-"]], ?_, ?_⟩
    · subst text
      cbv
    · decide
  have hd : AreDisjoint rs := ⟨by decide, by decide⟩
  obtain ⟨g, hg, hlooks, -⟩ := lookup_eq_scan htext hd
  refine ⟨htext, hd, g, hg, ?_⟩
  simp only [hlooks]
  decide

end SwapMarket
