import SwapMarket.Table
import Mathlib.Data.List.Induction
import Mathlib.Data.List.Sort

/-!
# Entries of tables

What is found in a table is what its entries say: each key has one entry at most. In a table made of
a list of entries, the last entry of a key is found (`find?_ofList`).
-/

namespace SwapMarket

/-- Among entries in ascending order of their keys, a key is found with a value if and only if the
two are an entry. -/
theorem find?_eq_some_iff_mem {α : Type} {k : String} {v : α} {es : List (String × α)}
    (h : es.Pairwise fun a b => a.1 < b.1) :
    (es.find? fun e => e.1 == k).map (·.2) = some v ↔ (k, v) ∈ es := by
  induction es with
  | nil => simp
  | cons a r ih =>
    obtain ⟨ha, hr⟩ := List.pairwise_cons.1 h
    by_cases hk : a.1 = k
    · have hnot : (k, v) ∉ r := by
        intro hm
        have hlt := ha _ hm
        rw [hk] at hlt
        exact String.lt_irrefl k hlt
      subst hk
      rw [List.find?_cons_of_pos (by simp)]
      simp only [Option.map_some, Option.some.injEq, List.mem_cons, hnot, or_false]
      constructor
      · rintro rfl
        rfl
      · intro he
        rw [← he]
    · rw [List.find?_cons_of_neg (by simpa using hk), ih hr, List.mem_cons]
      refine ⟨.inr, fun hm => hm.resolve_left fun he => hk ?_⟩
      rw [← he]

/-- Among entries in ascending order of their keys, those of a key are what is found at it. -/
theorem filter_key_eq_find? {α : Type} (k : String) {es : List (String × α)}
    (h : es.Pairwise fun a b => a.1 < b.1) :
    es.filter (fun e => e.1 == k) = (es.find? fun e => e.1 == k).toList := by
  induction es with
  | nil => rfl
  | cons a r ih =>
    obtain ⟨ha, hr⟩ := List.pairwise_cons.1 h
    by_cases hk : a.1 = k
    · have hnil : r.filter (fun e => e.1 == k) = [] := by
        rw [List.filter_eq_nil_iff]
        intro e he heq
        have hlt := ha e he
        rw [hk, beq_iff_eq.1 heq] at hlt
        exact String.lt_irrefl k hlt
      rw [List.filter_cons_of_pos (by simpa using hk), List.find?_cons_of_pos (by simpa using hk),
        hnil]
      rfl
    · rw [List.filter_cons_of_neg (by simpa using hk), List.find?_cons_of_neg (by simpa using hk),
        ih hr]

/-- Two lists in ascending order with the same members are equal. -/
theorem eq_of_ascending {xs ys : List String} (hx : xs.Pairwise (· < ·)) (hy : ys.Pairwise (· < ·))
    (h : ∀ x, x ∈ xs ↔ x ∈ ys) : xs = ys := by
  have irrefl : Std.Irrefl fun a b : String => a < b := ⟨String.lt_irrefl⟩
  have antisymm : Std.Antisymm fun a b : String => a < b :=
    ⟨fun a b h h' => absurd h' (String.lt_asymm h)⟩
  exact hx.eq_of_mem_iff hy h

/-- What is in ascending order has no element twice. -/
theorem nodup_of_ascending {xs : List String} (h : xs.Pairwise (· < ·)) : xs.Nodup := by
  refine h.imp fun {a b} hlt he => ?_
  rw [he] at hlt
  exact String.lt_irrefl _ hlt

namespace Table

variable {α : Type} {t : Table α} {k : String} {v : α}

/-- A value is found exactly if it is an entry. -/
theorem find?_eq_some_iff : t.find? k = some v ↔ (k, v) ∈ t.entries :=
  find?_eq_some_iff_mem t.ascending

/-- The values are those that can be found. -/
theorem mem_values : v ∈ t.values ↔ ∃ k, t.find? k = some v := by
  rw [values, List.mem_map]
  constructor
  · rintro ⟨⟨k, w⟩, he, rfl⟩
    exact ⟨k, find?_eq_some_iff.2 he⟩
  · rintro ⟨k, hk⟩
    exact ⟨(k, v), find?_eq_some_iff.1 hk, rfl⟩

/-- The keys are those under which something is found. -/
theorem mem_keys : k ∈ t.keys ↔ ∃ v, t.find? k = some v := by
  rw [keys, List.mem_map]
  constructor
  · rintro ⟨⟨k, v⟩, he, rfl⟩
    exact ⟨v, find?_eq_some_iff.2 he⟩
  · rintro ⟨v, hv⟩
    exact ⟨(k, v), find?_eq_some_iff.1 hv, rfl⟩

/-- A key is there exactly if something is found under it. -/
theorem contains_iff : t.contains k = true ↔ ∃ v, t.find? k = some v := by
  rw [← Option.isSome_iff_exists]
  unfold contains find?
  rw [Option.isSome_map, List.find?_isSome, List.any_eq_true]

/-- What is found in a table of changed values is changed under its key. -/
theorem find?_map {β : Type} (f : String → α → β) (t : Table α) (k : String) :
    (t.map f).find? k = (t.find? k).map (f k) := by
  refine Option.ext fun w => ?_
  rw [find?_eq_some_iff, entries_map, List.mem_map, Option.map_eq_some_iff]
  constructor
  · rintro ⟨⟨j, v⟩, he, heq⟩
    obtain ⟨rfl, rfl⟩ := Prod.mk.inj heq
    exact ⟨v, find?_eq_some_iff.2 he, rfl⟩
  · rintro ⟨v, hv, rfl⟩
    exact ⟨(k, v), find?_eq_some_iff.1 hv, rfl⟩

/-- If values have their keys in them, the values with a key are what is found at it. -/
theorem filter_values {f : α → String} (h : ∀ k v, t.find? k = some v → f v = k) (k : String) :
    t.values.filter (fun v => f v == k) = (t.find? k).toList := by
  have hf : t.entries.filter (fun e => f e.2 == k) = t.entries.filter fun e => e.1 == k := by
    refine List.filter_congr fun e he => ?_
    rw [h e.1 e.2 (find?_eq_some_iff.2 he)]
  rw [values, List.filter_map, find?]
  show (t.entries.filter fun e => f e.2 == k).map _ = _
  rw [hf, filter_key_eq_find? k t.ascending]
  cases t.entries.find? fun e => e.1 == k <;> rfl

/-- Two tables in which the same is found are equal. -/
theorem ext_find? {s t : Table α} (h : ∀ k, s.find? k = t.find? k) : s = t := by
  have hmem : ∀ e, e ∈ s.entries ↔ e ∈ t.entries := by
    rintro ⟨k, v⟩
    rw [← find?_eq_some_iff, ← find?_eq_some_iff, h]
  have irrefl : Std.Irrefl fun a b : String × α => a.1 < b.1 := ⟨fun a => String.lt_irrefl a.1⟩
  have antisymm : Std.Antisymm fun a b : String × α => a.1 < b.1 :=
    ⟨fun a b h h' => absurd h' (String.lt_asymm h)⟩
  exact Table.ext (s.ascending.eq_of_mem_iff t.ascending hmem)

/-- The keys are in ascending order. -/
theorem pairwise_keys (t : Table α) : t.keys.Pairwise (· < ·) := by
  unfold keys
  rw [List.pairwise_map]
  exact t.ascending

/-- The keys of a table are different. -/
theorem nodup_keys (t : Table α) : t.keys.Nodup := nodup_of_ascending t.pairwise_keys

/-- No entry is there twice. -/
theorem nodup_entries (t : Table α) : t.entries.Nodup := List.Nodup.of_map Prod.fst t.nodup_keys

/-- One more entry is inserted last. -/
theorem ofList_concat (es : List (String × α)) (e : String × α) :
    ofList (es ++ [e]) = (ofList es).insert e.1 e.2 := List.foldl_concat _ _ _ _

/-- The last entry of a key wins. -/
theorem find?_ofList (es : List (String × α)) (k : String) :
    (ofList es).find? k = (es.reverse.find? fun e => e.1 == k).map (·.2) := by
  induction es using List.reverseRecOn with
  | nil => rfl
  | append_singleton es e ih =>
    rw [ofList_concat, find?_insert, List.reverse_append, List.reverse_singleton,
      List.singleton_append, ih]
    by_cases h : e.1 = k
    · rw [if_pos h.symm, List.find?_cons_of_pos (by simpa using h)]
      rfl
    · rw [if_neg (Ne.symm h), List.find?_cons_of_neg (by simpa using h)]

/-- A table has only entries of which it is made. -/
theorem mem_of_mem_ofList {es : List (String × α)} {e : String × α}
    (h : e ∈ (ofList es).entries) : e ∈ es := by
  have hf := find?_eq_some_iff.2 h
  rw [find?_ofList, Option.map_eq_some_iff] at hf
  obtain ⟨⟨k, v⟩, hf, hv⟩ := hf
  have hk : k = e.1 := by simpa using List.find?_some hf
  have hm := List.mem_of_find?_eq_some hf
  rw [List.mem_reverse, hk] at hm
  subst hv
  exact hm

/-- Of entries with different keys, each is found. -/
theorem find?_ofList_of_mem {es : List (String × α)} (h : (es.map Prod.fst).Nodup)
    (hm : (k, v) ∈ es) : (ofList es).find? k = some v := by
  rw [find?_ofList]
  cases hf : es.reverse.find? fun e => e.1 == k with
  | none =>
    have hn := List.find?_eq_none.1 hf (k, v) (List.mem_reverse.2 hm)
    exact absurd (beq_self_eq_true k) hn
  | some e =>
    have he : e ∈ es := List.mem_reverse.1 (List.mem_of_find?_eq_some hf)
    have hk : e.1 = k := by simpa using List.find?_some hf
    obtain rfl := List.inj_on_of_nodup_map h he hm hk
    rfl

/-- Entries with different keys are all the entries of their table. -/
theorem entries_ofList_perm {es : List (String × α)} (h : (es.map Prod.fst).Nodup) :
    (ofList es).entries.Perm es := by
  rw [List.perm_ext_iff_of_nodup (ofList es).nodup_entries (List.Nodup.of_map Prod.fst h)]
  rintro ⟨k, v⟩
  constructor
  · intro hm
    exact mem_of_mem_ofList hm
  · intro hm
    exact find?_eq_some_iff.1 (find?_ofList_of_mem h hm)

/-- A table is split into two that have no key in common. -/
structure IsSplit (t a b : Table α) : Prop where
  /-- What is found in the table is found in one of the two. -/
  find?_iff : ∀ k v, t.find? k = some v ↔ a.find? k = some v ∨ b.find? k = some v
  /-- No key is in both. -/
  disjoint : ∀ k, a.find? k = none ∨ b.find? k = none

/-- The entries of the two parts are those of the table. -/
theorem IsSplit.entries_perm {a b : Table α} (h : t.IsSplit a b) :
    t.entries.Perm (a.entries ++ b.entries) := by
  have hnodup : (a.entries ++ b.entries).Nodup := by
    refine List.nodup_append.2 ⟨a.nodup_entries, b.nodup_entries, fun e he e' he' heq => ?_⟩
    have ha := find?_eq_some_iff.2 he
    have hb := find?_eq_some_iff.2 he'
    rcases h.disjoint e.1 with hnone | hnone
    · rw [ha] at hnone
      cases hnone
    · rw [heq, hb] at hnone
      cases hnone
  rw [List.perm_ext_iff_of_nodup t.nodup_entries hnodup]
  rintro ⟨k, v⟩
  rw [List.mem_append, ← find?_eq_some_iff, ← find?_eq_some_iff, ← find?_eq_some_iff]
  exact h.find?_iff k v

/-- The values of a table that is split are those of its parts. -/
theorem IsSplit.values_perm {a b : Table α} (h : t.IsSplit a b) :
    t.values.Perm (a.values ++ b.values) := by
  unfold values
  rw [← List.map_append]
  exact h.entries_perm.map _

/-- With a new key, a table is split into itself and the new entry. -/
theorem isSplit_insert (h : t.find? k = none) (v : α) :
    (t.insert k v).IsSplit t (empty.insert k v) := by
  refine ⟨fun j w => ?_, fun j => ?_⟩
  · rw [find?_insert, find?_insert, find?_empty]
    by_cases hj : j = k
    · rw [if_pos hj, if_pos hj, hj, h]
      exact ⟨.inr, fun hw => hw.resolve_left nofun⟩
    · rw [if_neg hj, if_neg hj]
      exact ⟨.inl, fun hw => hw.resolve_right nofun⟩
  · rw [find?_insert, find?_empty]
    by_cases hj : j = k
    · rw [hj]
      exact .inl h
    · rw [if_neg hj]
      exact .inr rfl

/-- A table is made of its entries. -/
theorem ofList_entries (t : Table α) : ofList t.entries = t := by
  refine ext_find? fun k => Option.ext fun v => ?_
  rw [find?_eq_some_iff (t := t)]
  constructor
  · intro h
    exact mem_of_mem_ofList (find?_eq_some_iff.1 h)
  · intro h
    exact find?_ofList_of_mem t.nodup_keys h

/-- Entries that were changed one by one are those of before, each with its key. -/
theorem mem_traverseEntries {ε β : Type} {f : String → α → Except ε β}
    {es : List (String × α)} {ws : List (String × β)} (h : traverseEntries f es = .ok ws)
    {k : String} {w : β} (hw : (k, w) ∈ ws) : ∃ v, (k, v) ∈ es ∧ f k v = .ok w := by
  induction es generalizing ws with
  | nil =>
    cases h
    cases hw
  | cons a es ih =>
    obtain ⟨j, v⟩ := a
    unfold traverseEntries at h
    split at h
    · cases h
    · cases h
    · next x xs hv hr =>
      cases h
      rcases List.mem_cons.1 hw with hw | hw
      · obtain ⟨rfl, rfl⟩ := Prod.mk.inj hw
        exact ⟨v, List.mem_cons_self, hv⟩
      · obtain ⟨u, hu, hf⟩ := ih hr hw
        exact ⟨u, List.mem_cons_of_mem _ hu, hf⟩

/-- Going through a table goes through its entries. -/
theorem entries_traverse {ε β : Type} {f : String → α → Except ε β} {t : Table α} {u : Table β}
    (h : t.traverse f = .ok u) : traverseEntries f t.entries = .ok u.entries := by
  unfold traverse at h
  split at h
  · next es he =>
    rw [← Except.ok.inj h]
    exact he
  · cases h

/-- What is found in a changed table comes from what was found under the same key. -/
theorem find?_of_traverse {ε β : Type} {f : String → α → Except ε β} {t : Table α} {u : Table β}
    (h : t.traverse f = .ok u) {k : String} {w : β} (hw : u.find? k = some w) :
    ∃ v, t.find? k = some v ∧ f k v = .ok w := by
  obtain ⟨v, hv, hf⟩ := mem_traverseEntries (entries_traverse h) (find?_eq_some_iff.1 hw)
  exact ⟨v, find?_eq_some_iff.2 hv, hf⟩

/-- What was found in a table is changed under its key. -/
theorem find?_traverse {ε β : Type} {f : String → α → Except ε β} {t : Table α} {u : Table β}
    (h : t.traverse f = .ok u) {k : String} {v : α} (hv : t.find? k = some v) :
    ∃ w, u.find? k = some w ∧ f k v = .ok w := by
  have hkey : k ∈ u.keys := by
    rw [keys, keys_traverseEntries (entries_traverse h)]
    exact List.mem_map_of_mem (find?_eq_some_iff.1 hv)
  obtain ⟨⟨k, w⟩, he, rfl⟩ := List.mem_map.1 hkey
  have hw := find?_eq_some_iff.2 he
  obtain ⟨v', hv', hf⟩ := find?_of_traverse h hw
  rw [hv] at hv'
  cases hv'
  exact ⟨w, hw, hf⟩

/-- Changes that all succeed give a table. -/
theorem exists_traverse {ε β : Type} {f : String → α → Except ε β} {t : Table α}
    (h : ∀ k v, t.find? k = some v → ∃ w, f k v = .ok w) : ∃ u, t.traverse f = .ok u := by
  have hes : ∀ es : List (String × α), (∀ e ∈ es, ∃ w, f e.1 e.2 = .ok w) →
      ∃ ws, traverseEntries f es = .ok ws := by
    intro es
    induction es with
    | nil => exact fun _ => ⟨[], rfl⟩
    | cons a es ih =>
      intro hall
      obtain ⟨⟨w, hw⟩, hrest⟩ := List.forall_mem_cons.1 hall
      obtain ⟨ws, hws⟩ := ih hrest
      refine ⟨(a.1, w) :: ws, ?_⟩
      unfold traverseEntries
      rw [hw, hws]
  obtain ⟨ws, hws⟩ := hes t.entries fun e he => h e.1 e.2 (find?_eq_some_iff.2 he)
  unfold traverse
  split
  · exact ⟨_, rfl⟩
  · next e he =>
    rw [hws] at he
    cases he

/-- Changes that do not all succeed fail as one of them does. -/
theorem exists_of_traverse_error {ε β : Type} {f : String → α → Except ε β} {t : Table α} {e : ε}
    (h : t.traverse f = .error e) : ∃ k v, t.find? k = some v ∧ f k v = .error e := by
  have hes : ∀ es : List (String × α), traverseEntries f es = .error e →
      ∃ a ∈ es, f a.1 a.2 = .error e := by
    intro es
    induction es with
    | nil => exact fun h => nomatch h
    | cons a es ih =>
      intro h
      unfold traverseEntries at h
      split at h
      · next he => exact ⟨a, List.mem_cons_self, he.trans (congrArg _ (Except.error.inj h))⟩
      · next hr =>
        obtain ⟨b, hb, he⟩ := ih (hr.trans (congrArg _ (Except.error.inj h)))
        exact ⟨b, List.mem_cons_of_mem _ hb, he⟩
      · cases h
  unfold traverse at h
  split at h
  · cases h
  · next he =>
    obtain ⟨a, ha, hf⟩ := hes t.entries (he.trans (congrArg _ (Except.error.inj h)))
    exact ⟨a.1, a.2, find?_eq_some_iff.2 ha, hf⟩

/-- A changed table has the keys of before. -/
theorem keys_traverse {ε β : Type} {f : String → α → Except ε β} {t : Table α} {u : Table β}
    (h : t.traverse f = .ok u) : u.keys = t.keys := keys_traverseEntries (entries_traverse h)

end Table

end SwapMarket
