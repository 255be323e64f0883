/-!
# Tables: maps with text keys, in key order

A **`Table`** holds its entries in strictly ascending order of their keys, so a key has at most
one entry and a traversal meets the keys in order. **`insert`** replaces, **`ofList`** lets the
last entry of a key win.

`find?_insert` is the law of the pair `insert`, `find?`.
-/

namespace SwapMarket

/-- Puts an entry into a list of entries in key order, replacing one of the same key. -/
def insertEntry {α : Type} (k : String) (v : α) : List (String × α) → List (String × α)
  | [] => [(k, v)]
  | e :: r =>
    if k < e.1 then (k, v) :: e :: r
    else if k = e.1 then (k, v) :: r
    else e :: insertEntry k v r

/-- A key of the list after an insertion is the new key or an old one. -/
theorem fst_of_mem_insertEntry {α : Type} {k : String} {v : α} {es : List (String × α)}
    {e : String × α} (h : e ∈ insertEntry k v es) : e = (k, v) ∨ e ∈ es := by
  induction es with
  | nil => simpa [insertEntry] using h
  | cons a r ih =>
    unfold insertEntry at h
    split at h
    · simpa using h
    · split at h
      · rcases List.mem_cons.1 h with h | h
        · exact .inl h
        · exact .inr (List.mem_cons_of_mem _ h)
      · rcases List.mem_cons.1 h with h | h
        · exact .inr (h ▸ List.mem_cons_self)
        · exact (ih h).imp id (List.mem_cons_of_mem _)

/-- An insertion keeps the order of the keys. -/
theorem pairwise_insertEntry {α : Type} (k : String) (v : α) {es : List (String × α)}
    (h : es.Pairwise fun a b => a.1 < b.1) :
    (insertEntry k v es).Pairwise fun a b => a.1 < b.1 := by
  induction es with
  | nil => simp [insertEntry]
  | cons a r ih =>
    obtain ⟨ha, hr⟩ := List.pairwise_cons.1 h
    unfold insertEntry
    split
    · next hk =>
      refine List.pairwise_cons.2 ⟨?_, h⟩
      intro b hb
      rcases List.mem_cons.1 hb with rfl | hb
      · exact hk
      · exact String.lt_trans hk (ha b hb)
    · split
      · next hk =>
        refine List.pairwise_cons.2 ⟨?_, hr⟩
        intro b hb
        simpa [hk] using ha b hb
      · next hlt hne =>
        refine List.pairwise_cons.2 ⟨?_, ih hr⟩
        intro b hb
        rcases fst_of_mem_insertEntry hb with rfl | hb
        · exact Std.lt_of_le_of_ne (String.not_lt.1 hlt) (Ne.symm hne)
        · exact ha b hb

/-- Changes the values of entries, given their keys, up to the first that fails. -/
def traverseEntries {ε α β : Type} (f : String → α → Except ε β) :
    List (String × α) → Except ε (List (String × β))
  | [] => .ok []
  | (k, v) :: es =>
    match f k v, traverseEntries f es with
    | .error e, _ => .error e
    | .ok _, .error e => .error e
    | .ok w, .ok ws => .ok ((k, w) :: ws)

/-- The keys stay as they are. -/
theorem keys_traverseEntries {ε α β : Type} {f : String → α → Except ε β}
    {es : List (String × α)} {ws : List (String × β)} (h : traverseEntries f es = .ok ws) :
    ws.map (·.1) = es.map (·.1) := by
  induction es generalizing ws with
  | nil =>
    cases h
    rfl
  | cons a r ih =>
    obtain ⟨k, v⟩ := a
    unfold traverseEntries at h
    split at h
    · cases h
    · cases h
    · next hr =>
      cases h
      simp [ih hr]

/-- A map from texts, its entries in ascending order of their keys. -/
structure Table (α : Type) where
  /-- The entries. -/
  entries : List (String × α)
  /-- Each key is below all keys after it. -/
  ascending : entries.Pairwise fun a b => a.1 < b.1
  deriving DecidableEq

namespace Table

variable {α β : Type}

/-- The table without entries. -/
def empty : Table α := ⟨[], .nil⟩

instance : Inhabited (Table α) := ⟨empty⟩

/-- Two tables with the same entries are equal. -/
theorem ext {s t : Table α} (h : s.entries = t.entries) : s = t := by
  cases s; cases t; simpa using h

/-- Sets the value of a key. -/
def insert (t : Table α) (k : String) (v : α) : Table α :=
  ⟨insertEntry k v t.entries, pairwise_insertEntry k v t.ascending⟩

/-- The value of a key. -/
def find? (t : Table α) (k : String) : Option α :=
  (t.entries.find? fun e => e.1 == k).map (·.2)

/-- Whether a key has a value. -/
def contains (t : Table α) (k : String) : Bool :=
  t.entries.any fun e => e.1 == k

/-- The table of a list of entries; the last entry of a key wins. -/
def ofList (es : List (String × α)) : Table α :=
  es.foldl (fun t e => t.insert e.1 e.2) empty

/-- The keys, ascending. -/
def keys (t : Table α) : List String := t.entries.map (·.1)

/-- The values, in key order. -/
def values (t : Table α) : List α := t.entries.map (·.2)

/-- The number of entries. -/
def size (t : Table α) : Nat := t.entries.length

/-- Whether there are no entries. -/
def isEmpty (t : Table α) : Bool := t.entries.isEmpty

/-- Changes every value, given its key. -/
def map (f : String → α → β) (t : Table α) : Table β :=
  ⟨t.entries.map fun e => (e.1, f e.1 e.2), by simpa [List.pairwise_map] using t.ascending⟩

/-- Changes every value, given its key, up to the first that fails. -/
def traverse {ε : Type} (f : String → α → Except ε β) (t : Table α) : Except ε (Table β) :=
  match h : traverseEntries f t.entries with
  | .ok es => .ok ⟨es, by
      have := t.ascending
      rw [← List.pairwise_map (R := fun a b : String => a < b)] at this ⊢
      rwa [keys_traverseEntries h]⟩
  | .error e => .error e

@[simp] theorem entries_empty : (empty : Table α).entries = [] := rfl

@[simp] theorem entries_insert (t : Table α) (k : String) (v : α) :
    (t.insert k v).entries = insertEntry k v t.entries := rfl

@[simp] theorem entries_map (f : String → α → β) (t : Table α) :
    (t.map f).entries = t.entries.map fun e => (e.1, f e.1 e.2) := rfl

@[simp] theorem find?_empty (k : String) : (empty : Table α).find? k = none := rfl

/-- A key is found with the value inserted last, and no other key is affected. -/
theorem find?_insert (t : Table α) (k j : String) (v : α) :
    (t.insert k v).find? j = if j = k then some v else t.find? j := by
  have key : ∀ es : List (String × α), (es.Pairwise fun a b => a.1 < b.1) →
      ((insertEntry k v es).find? fun e => e.1 == j).map (·.2)
        = if j = k then some v else (es.find? fun e => e.1 == j).map (·.2) := by
    intro es
    induction es with
    | nil =>
      intro _
      by_cases h : j = k
      · simp [insertEntry, h]
      · simp [insertEntry, h, Ne.symm h]
    | cons a r ih =>
      intro hp
      obtain ⟨ha, hr⟩ := List.pairwise_cons.1 hp
      unfold insertEntry
      by_cases hj : j = k
      · subst hj
        split
        · simp
        · split
          · simp
          · next hne => simpa [List.find?_cons, Ne.symm hne] using ih hr
      · split
        · simp [List.find?_cons, Ne.symm hj]
        · split
          · next hk => simp [← hk, Ne.symm hj]
          · rcases Decidable.em (a.1 = j) with hq | hq
            · simp [hq]
            · simpa [hj, List.find?_cons, hq] using ih hr
  exact key t.entries t.ascending

end Table

end SwapMarket
