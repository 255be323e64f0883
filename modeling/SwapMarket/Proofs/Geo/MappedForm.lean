import SwapMarket.Api.Answer
import SwapMarket.Proofs.Geo.Lookup

/-!
# The two forms of a short address

A client with a short address can come under its mapped form. Either form is looked up under its
own number and, failing that, under the number of the other form (`country?_short`,
`country?_mapped`). So the two look-ups try the same two numbers in opposite orders. They can only
differ where both numbers are found, under different countries: the address is contested
(**`GeoDatabase.IsContested`**). This is the exact condition, for the country as well as for the
answers to clients under all lists of blocked countries.

Main statement: `forms_refused_alike`.
-/

namespace SwapMarket

open GeoRange (AreDisjoint)

namespace GeoDatabase

variable {g : GeoDatabase} {v : BitVec 32} {code code' : String}

/-! ## Look-ups -/

/-- The second of two numbers counts where nothing is found under the first. -/
theorem findSome?_two {α β : Type} (f : α → Option β) (x y : α) :
    [x, y].findSome? f = (f x).or (f y) := by
  cases h : f x with
  | some z => rw [List.findSome?_cons, h, Option.some_or]
  | none =>
    rw [List.findSome?_cons, h, Option.none_or]
    exact List.findSome?_singleton

/-- A short address is looked up under its own number first. -/
theorem country?_short (g : GeoDatabase) (v : BitVec 32) : g.country? (.short v)
    = (g.find? v.toNat).or (g.find? (Address.mapped v).toNat) :=
  findSome?_two g.find? _ _

/-- The mapped form of a short address is looked up under its own number first, too. -/
theorem country?_mapped (g : GeoDatabase) (v : BitVec 32) : g.country? (.long (Address.mapped v))
    = (g.find? (Address.mapped v).toNat).or (g.find? v.toNat) := by
  have hnumbers : numbers (.long (Address.mapped v)) = [(Address.mapped v).toNat, v.toNat] := by
    rw [numbers, Address.unmapped_mapped]
  unfold country?
  rw [hnumbers, findSome?_two]

/-- A range of one country contains a short address, and one of another country its mapped form. -/
def IsContested (g : GeoDatabase) (v : BitVec 32) : Prop :=
  ∃ r ∈ g.ranges, ∃ q ∈ g.ranges, r.Contains v.toNat ∧ q.Contains (Address.mapped v).toNat ∧
    r.country ≠ q.country

/-- An address is contested if different countries are found under its two numbers. -/
theorem isContested_iff (hd : AreDisjoint g.ranges) :
    g.IsContested v ↔ ∃ code code', g.find? v.toNat = some code ∧
      g.find? (Address.mapped v).toNat = some code' ∧ code ≠ code' := by
  constructor
  · rintro ⟨r, hr, q, hq, hrv, hqv, hne⟩
    exact ⟨r.country, q.country, (find?_eq_some_iff hd).2 ⟨r, hr, hrv, rfl⟩,
      (find?_eq_some_iff hd).2 ⟨q, hq, hqv, rfl⟩, hne⟩
  · rintro ⟨code, code', hshort, hmapped, hne⟩
    obtain ⟨r, hr, hrv, rfl⟩ := (find?_eq_some_iff hd).1 hshort
    obtain ⟨q, hq, hqv, rfl⟩ := (find?_eq_some_iff hd).1 hmapped
    exact ⟨r, hr, q, hq, hrv, hqv, hne⟩

/-- Each form of a contested address has the country of its own number. -/
theorem country?_of_isContested (hd : AreDisjoint g.ranges) (h : g.IsContested v) :
    ∃ code code', g.country? (.short v) = some code ∧
      g.country? (.long (Address.mapped v)) = some code' ∧ code ≠ code' := by
  obtain ⟨code, code', hshort, hmapped, hne⟩ := (isContested_iff hd).1 h
  refine ⟨code, code', ?_, ?_, hne⟩
  · rw [country?_short, hshort, Option.some_or]
  · rw [country?_mapped, hmapped, Option.some_or]

/-- The two forms of an address that is not contested have the same country. -/
theorem country?_mapped_of_not_isContested (hd : AreDisjoint g.ranges) (h : ¬ g.IsContested v) :
    g.country? (.long (Address.mapped v)) = g.country? (.short v) := by
  rw [country?_short, country?_mapped]
  cases hshort : g.find? v.toNat with
  | none => rw [Option.or_none, Option.none_or]
  | some code =>
    cases hmapped : g.find? (Address.mapped v).toNat with
    | none => rw [Option.or_none, Option.none_or]
    | some code' =>
      have heq : code = code' := by
        by_contra hne
        exact h ((isContested_iff hd).2 ⟨code, code', hshort, hmapped, hne⟩)
      rw [heq]

end GeoDatabase

namespace Api

/-! ## Clients -/

section Clients

variable {b : Board} {c : Call} {a : Address} {v : BitVec 32}

/-- A call of a client that wants to know whether it is served. -/
structure Call.AsksFrom (c : Call) (a : Address) : Prop where
  /-- The method. -/
  method : c.method = "GET"
  /-- The path. -/
  path : c.path = Route.bouncer.path
  /-- The address of the client. -/
  client : c.client? = some a

/-- The call that comes straight from an address. -/
def callFrom (a : Address) : Call := ⟨"GET", "/api/v3/utils/bouncer", [], some a⟩

/-- The call comes from the address. -/
theorem asksFrom_callFrom (a : Address) : (callFrom a).AsksFrom a := by
  refine ⟨rfl, ?_, rfl⟩
  have hpath : Call.path ⟨"GET", "/api/v3/utils/bouncer", [], none⟩ = Route.bouncer.path := by
    decide +kernel
  exact hpath

/-- A call is refused for the country of the client. -/
def IsRefused (b : Board) (c : Call) : Prop :=
  ∃ code, (respond b c).answer = .ok (.ofFault (.restricted code))

/-- A call is answered with a value. -/
def IsServed (b : Board) (c : Call) : Prop := ∃ v, (respond b c).answer = .ok (.ok v)

/-- The answer of the bouncer, as a call gets it. -/
theorem respond_bouncer (h : c.AsksFrom a) :
    (respond b c).answer = Answer.ofRun (bouncerJson b (some a)) := by
  unfold respond
  rw [if_neg (not_not.2 h.method), h.path, Route.ofPath?_path]
  simp only [Route.parameterName?, respondRoute, h.client]

/-- A refusal is no value. -/
theorem ofFault_ne_ok (f : Fault) (v : Json) : Answer.ofFault f ≠ Answer.ok v := by
  intro h
  have hstatus : f.kind.status = 200 := congrArg Answer.status h
  cases hk : f.kind <;> rw [hk] at hstatus <;> exact absurd hstatus (by decide)

/-- A client of a blocked country is refused, every other one is served. -/
theorem isRefused_or_isServed (h : c.AsksFrom a) :
    (IsRefused b c ∧ ¬ IsServed b c ∧
      ∃ code ∈ b.settings.blockedCountries, b.geo.country? a = some code) ∨
    (IsServed b c ∧ ¬ IsRefused b c ∧
      ∀ code ∈ b.settings.blockedCountries, b.geo.country? a ≠ some code) := by
  have hanswer := respond_bouncer (b := b) h
  unfold bouncerJson at hanswer
  rw [Option.bind_some] at hanswer
  unfold IsRefused IsServed
  generalize b.geo.country? a = country at hanswer ⊢
  cases hfound : country.filter fun c => b.settings.blockedCountries.contains c with
  | some code =>
    obtain ⟨hcountry, hblocked⟩ := Option.filter_eq_some_iff.1 hfound
    simp only [hfound] at hanswer
    rw [hanswer]
    refine .inl ⟨⟨code, rfl⟩, ?_, code, by simpa using hblocked, hcountry⟩
    rintro ⟨v, hv⟩
    exact ofFault_ne_ok _ _ (Except.ok.inj hv)
  | none =>
    simp only [hfound] at hanswer
    rw [hanswer]
    refine .inr ⟨⟨_, rfl⟩, ?_, fun code hblocked hcountry => ?_⟩
    · rintro ⟨code, hcode⟩
      exact ofFault_ne_ok _ _ (Except.ok.inj hcode).symm
    · have hnone := Option.filter_eq_none_iff.1 hfound code hcountry
      exact hnone (by simpa using hblocked)

/-- A client is refused if its country is blocked. -/
theorem isRefused_iff (h : c.AsksFrom a) :
    IsRefused b c ↔ ∃ code ∈ b.settings.blockedCountries, b.geo.country? a = some code := by
  obtain ⟨hrefused, -, hblocked⟩ | ⟨-, hnot, hfree⟩ := isRefused_or_isServed (b := b) h
  · exact iff_of_true hrefused hblocked
  · refine iff_of_false hnot ?_
    rintro ⟨code, hcode, hcountry⟩
    exact hfree code hcode hcountry

/-- A client that is not refused is served. -/
theorem isServed_iff (h : c.AsksFrom a) : IsServed b c ↔ ¬ IsRefused b c := by
  obtain ⟨hrefused, hnot, -⟩ | ⟨hserved, hnot, -⟩ := isRefused_or_isServed (b := b) h
  · exact iff_of_false hnot (not_not.2 hrefused)
  · exact iff_of_true hserved hnot

/-- A board that looks up countries in a database and blocks some. -/
def blockingBoard (g : GeoDatabase) (blocked : List String) : Board :=
  .start { (default : Settings) with blockedCountries := blocked } g .empty default 0

/-- Calls from the two forms of an address come to the same, whatever countries are blocked. -/
def FormsAlike (g : GeoDatabase) (v : BitVec 32) : Prop :=
  ∀ (b : Board) (c c' : Call), b.geo = g → c.AsksFrom (.short v) →
    c'.AsksFrom (.long (Address.mapped v)) →
    (IsRefused b c ↔ IsRefused b c') ∧ (IsServed b c ↔ IsServed b c')

/-- Both forms are answered alike if the database has the same country for them. -/
theorem formsAlike_of_eq {g : GeoDatabase}
    (h : g.country? (.long (Address.mapped v)) = g.country? (.short v)) : FormsAlike g v := by
  rintro b c c' rfl hc hc'
  have hrefused : IsRefused b c ↔ IsRefused b c' := by
    rw [isRefused_iff hc, isRefused_iff hc', h]
  exact ⟨hrefused, by rw [isServed_iff hc, isServed_iff hc', hrefused]⟩

/-- Where the forms have different countries, the list of one of them is a way around it. -/
theorem not_formsAlike_of_ne {g : GeoDatabase} {code code' : String}
    (hshort : g.country? (.short v) = some code)
    (hmapped : g.country? (.long (Address.mapped v)) = some code') (hne : code ≠ code') :
    ¬ FormsAlike g v := by
  intro h
  have hc := asksFrom_callFrom (.short v)
  have hc' := asksFrom_callFrom (.long (Address.mapped v))
  have hrefused : IsRefused (blockingBoard g [code]) (callFrom (.short v)) :=
    (isRefused_iff hc).2 ⟨code, List.mem_cons_self, hshort⟩
  obtain ⟨x, hx, hcountry⟩ := (isRefused_iff hc').1 ((h _ _ _ rfl hc hc').1.1 hrefused)
  obtain rfl : x = code := List.mem_singleton.1 hx
  exact hne (Option.some.inj (hcountry.symm.trans hmapped))

end Clients

/-- In a database of disjoint ranges, a short address and its mapped form have the same country, and
clients under them are refused and served alike under all lists of blocked countries, if and only if
the address is not contested. Either form of a contested address has the country of its own
number, and a list that blocks only one of the two countries lets the other form through. -/
theorem forms_refused_alike (g : GeoDatabase) (hd : AreDisjoint g.ranges) (v : BitVec 32) :
    (¬ g.IsContested v ↔ g.country? (.short v) = g.country? (.long (Address.mapped v))) ∧
    (¬ g.IsContested v ↔ FormsAlike g v) ∧
    ∀ r ∈ g.ranges, ∀ q ∈ g.ranges, r.Contains v.toNat → q.Contains (Address.mapped v).toNat →
      g.country? (.short v) = some r.country ∧
      g.country? (.long (Address.mapped v)) = some q.country := by
  have hcontested (h : g.IsContested v) :
      g.country? (.short v) ≠ g.country? (.long (Address.mapped v)) ∧ ¬ FormsAlike g v := by
    obtain ⟨code, code', hshort, hmapped, hne⟩ := GeoDatabase.country?_of_isContested hd h
    refine ⟨fun heq => hne ?_, not_formsAlike_of_ne hshort hmapped hne⟩
    rw [hshort, hmapped] at heq
    exact Option.some.inj heq
  have hfree (h : ¬ g.IsContested v) := GeoDatabase.country?_mapped_of_not_isContested hd h
  refine ⟨⟨fun h => (hfree h).symm, fun heq h => (hcontested h).1 heq⟩,
    ⟨fun h => formsAlike_of_eq (hfree h), fun halike h => (hcontested h).2 halike⟩,
    fun r hr q hq hrv hqv => ?_⟩
  have hshort := (GeoDatabase.find?_eq_some_iff hd).2 ⟨r, hr, hrv, rfl⟩
  have hmapped := (GeoDatabase.find?_eq_some_iff hd).2 ⟨q, hq, hqv, rfl⟩
  constructor
  · rw [GeoDatabase.country?_short, hshort, Option.some_or]
  · rw [GeoDatabase.country?_mapped, hmapped, Option.some_or]

/-! ## A text with the two forms of some addresses -/

/-- The ranges of some short addresses and of their mapped forms. -/
def bothForms (code : String) : List GeoRange :=
  [⟨16777216, 16777471, "US"⟩, ⟨281470698520576, 281470698520831, code⟩]

/-- The database of these ranges. -/
def bothFormsDatabase (code : String) : GeoDatabase := .ofRanges (GeoDatabase.known (bothForms code))

/-- The two ranges do not meet. -/
theorem areDisjoint_bothForms (code : String) : AreDisjoint (bothFormsDatabase code).ranges := by
  refine GeoDatabase.areDisjoint_ofRanges
    ⟨?_, List.pairwise_pair.2 (.inl (by decide : 16777471 < 281470698520576))⟩
  intro r hr
  obtain rfl | hr := List.mem_cons.1 hr
  · exact (by decide : 16777216 ≤ 16777471)
  · rw [List.mem_singleton.1 hr]
    exact (by decide : 281470698520576 ≤ 281470698520831)

/-- Each of them with a known country is in the database. -/
theorem mem_bothForms {code : String} {r : GeoRange} (hr : r ∈ bothForms code)
    (hk : r.IsKnown) : r ∈ (bothFormsDatabase code).ranges :=
  GeoDatabase.mem_ranges_known.2 ⟨hr, hk⟩

/-- Where both forms lie in ranges of one country, a list with this country blocks both. -/
theorem forms_refused_alike_oneCountry :
    let text := "16777216,16777471,US,U\n281470698520576,281470698520831,US,U\n"
    let g := bothFormsDatabase "US"
    let v : BitVec 32 := 0x01000001
    let b := blockingBoard g ["US"]
    GeoDatabase.ofText text = .ok g ∧ AreDisjoint g.ranges ∧ ¬ g.IsContested v ∧
    g.country? (.short v) = some "US" ∧ g.country? (.long (Address.mapped v)) = some "US" ∧
    IsRefused b (callFrom (.short v)) ∧ IsRefused b (callFrom (.long (Address.mapped v))) := by
  intro text g v b
  have htext : GeoDatabase.IsText text (bothForms "US") := by
    refine ⟨[["16777216", "16777471", "US", "U"], ["281470698520576", "281470698520831", "US", "U"]],
      ?_, ?_⟩
    · subst text
      cbv
    · decide
  have hd := areDisjoint_bothForms "US"
  have hcountry : ∀ r ∈ bothForms "US", r.country = "US" := by decide
  have hfree : ¬ g.IsContested v := by
    rintro ⟨r, hr, q, hq, -, -, hne⟩
    exact hne ((hcountry r (GeoDatabase.mem_ranges_known.1 hr).1).trans
      (hcountry q (GeoDatabase.mem_ranges_known.1 hq).1).symm)
  obtain ⟨-, halike, hfound⟩ := forms_refused_alike g hd v
  obtain ⟨hshort, hmapped⟩ := hfound ⟨16777216, 16777471, "US"⟩
    (mem_bothForms (by decide) (by decide)) ⟨281470698520576, 281470698520831, "US"⟩
    (mem_bothForms (by decide) (by decide)) (by decide) (by decide)
  have hc := asksFrom_callFrom (.short v)
  have hc' := asksFrom_callFrom (.long (Address.mapped v))
  have hrefused : IsRefused b (callFrom (.short v)) :=
    (isRefused_iff hc).2 ⟨"US", List.mem_cons_self, hshort⟩
  exact ⟨GeoDatabase.ofText_of_isText htext, hd, hfree, hshort, hmapped, hrefused,
    (halike.1 hfree b _ _ rfl hc hc').1.1 hrefused⟩

/-- Where the forms lie in ranges of two countries, the mapped form gets around a list that blocks
the country of the short one. -/
theorem forms_refused_alike_unless_contested :
    let text := "16777216,16777471,US,U\n281470698520576,281470698520831,IR,I\n"
    let g := bothFormsDatabase "IR"
    let v : BitVec 32 := 0x01000001
    let b := blockingBoard g ["US"]
    GeoDatabase.ofText text = .ok g ∧ AreDisjoint g.ranges ∧
    g.country? (.short v) = some "US" ∧ g.country? (.long (Address.mapped v)) = some "IR" ∧
    IsRefused b (callFrom (.short v)) ∧ IsServed b (callFrom (.long (Address.mapped v))) := by
  intro text g v b
  have htext : GeoDatabase.IsText text (bothForms "IR") := by
    refine ⟨[["16777216", "16777471", "US", "U"], ["281470698520576", "281470698520831", "IR", "I"]],
      ?_, ?_⟩
    · subst text
      cbv
    · decide
  have hd := areDisjoint_bothForms "IR"
  have hshort : g.find? v.toNat = some "US" := (GeoDatabase.find?_eq_some_iff hd).2
    ⟨⟨16777216, 16777471, "US"⟩, mem_bothForms (by decide) (by decide), by decide, rfl⟩
  have hmapped : g.find? (Address.mapped v).toNat = some "IR" :=
    (GeoDatabase.find?_eq_some_iff hd).2 ⟨⟨281470698520576, 281470698520831, "IR"⟩,
      mem_bothForms (by decide) (by decide), by decide, rfl⟩
  have hus : g.country? (.short v) = some "US" := by
    rw [GeoDatabase.country?_short, hshort, Option.some_or]
  have hir : g.country? (.long (Address.mapped v)) = some "IR" := by
    rw [GeoDatabase.country?_mapped, hmapped, Option.some_or]
  have hc' := asksFrom_callFrom (.long (Address.mapped v))
  refine ⟨GeoDatabase.ofText_of_isText htext, hd, hus, hir,
    (isRefused_iff (asksFrom_callFrom _)).2 ⟨"US", List.mem_cons_self, hus⟩,
    (isServed_iff hc').2 fun hrefused => ?_⟩
  obtain ⟨code, hcode, hfound⟩ := (isRefused_iff hc').1 hrefused
  obtain rfl : code = "US" := List.mem_singleton.1 hcode
  exact absurd (hir.symm.trans hfound) (by decide)

end Api

end SwapMarket
