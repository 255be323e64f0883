import SwapMarket.Json.Decode
import SwapMarket.Proofs.Json.Pretty
import SwapMarket.Proofs.Table

/-!
# Reading back what was written in sorted form

Sorting the members of objects keeps a value writable (`IsWritable.sorted`).

**`ReadsBack`** says that a writer and a reader agree on a value: what is written is writable, and
it is read as the value after the members of all objects were sorted. It is inherited by lists
(`ReadsBack.list`) and tables (`ReadsBack.table`), and by records whose members are read
(`ReadsBack.record`). The laws that end in `_bind` read one member after the other.
-/

namespace SwapMarket.Json

/-! ## Writable values -/

/-- Elements can be written exactly if each of them can. -/
theorem areWritable_iff {depth : Nat} {vs : List Json} :
    AreWritable depth vs ↔ ∀ v ∈ vs, IsWritable depth v := by
  induction vs with
  | nil => simp [AreWritable]
  | cons v vs ih => rw [AreWritable, ih, List.forall_mem_cons]

/-- Fields can be written exactly if each value can. -/
theorem areFieldsWritable_iff {depth : Nat} {fs : List (String × Json)} :
    AreFieldsWritable depth fs ↔ ∀ f ∈ fs, IsWritable depth f.2 := by
  induction fs with
  | nil => simp [AreFieldsWritable]
  | cons f fs ih => rw [AreFieldsWritable, ih, List.forall_mem_cons]

mutual

/-- Sorting the fields keeps a value one that can be written. -/
theorem IsWritable.sorted {depth : Nat} : {v : Json} → v.IsWritable depth →
    v.sorted.IsWritable depth
  | .null, h | .bool _, h | .str _, h | .num _, h => h
  | .unreadable, h => h
  | .arr _, ⟨hd, hs⟩ => ⟨hd, AreWritable.sortedItems hs⟩
  | .obj _, ⟨hd, hs⟩ =>
    have hf := areFieldsWritable_iff.1 (AreFieldsWritable.sortedFields hs)
    ⟨hd, areFieldsWritable_iff.2 fun f hm => hf f (Table.mem_of_mem_ofList hm)⟩

theorem AreWritable.sortedItems {depth : Nat} : {vs : List Json} → AreWritable depth vs →
    AreWritable depth (sortedItems vs)
  | [], h => h
  | _ :: _, ⟨h, hs⟩ => ⟨h.sorted, hs.sortedItems⟩

theorem AreFieldsWritable.sortedFields {depth : Nat} : {fs : List (String × Json)} →
    AreFieldsWritable depth fs → AreFieldsWritable depth (sortedFields fs)
  | [], h => h
  | (_, _) :: _, ⟨h, hs⟩ => ⟨h.sorted, hs.sortedFields⟩

end

@[simp] theorem isWritable_str (depth : Nat) (s : String) : (str s).IsWritable depth := trivial

@[simp] theorem isWritable_bool (depth : Nat) (b : Bool) : (bool b).IsWritable depth := trivial

/-! ## Records -/

/-- The fields of an object are sorted as a table is. -/
theorem sorted_obj (fields : List (String × Json)) :
    (obj fields).sorted = obj (Table.ofList (fields.map fun f => (f.1, f.2.sorted))).entries := by
  rw [sorted, sortedFields_eq_map]

/-- Reading the member of a name is reading a value. -/
def Members.Finds (m : Members) (k : String) (v : Json) : Prop :=
  (∀ {α β : Type} (f : Json → Option α) (q : α → Option β),
    (m.required k f >>= q) = (f v >>= q)) ∧
  ∀ {α β : Type} (d : α) (f : Json → Option α) (q : α → Option β),
    (m.defaulted k d f >>= q) = (f v >>= q)

/-- A record with different names has each of its members, in sorted form. -/
theorem members_sorted {fields : List (String × Json)} {names : List String}
    (hf : fields.map Prod.fst = names) (hn : names.Nodup) :
    ∃ m, (obj fields).sorted.members names = some m ∧
      ∀ f ∈ fields, m.Finds f.1 f.2.sorted := by
  rw [sorted_obj]
  generalize ht : Table.ofList (fields.map fun f => (f.1, f.2.sorted)) = t
  have once : (names.any fun k => decide (1 < t.entries.countP fun f => f.1 == k)) = false := by
    rw [List.any_eq_false]
    intro k _
    rw [List.countP_eq_length_filter, filter_key_eq_find? k t.ascending]
    cases t.entries.find? fun e => e.1 == k <;> simp
  refine ⟨_, by rw [members, once]; rfl, fun f hm => ?_⟩
  have hk : t.find? f.1 = some f.2.sorted := by
    rw [← ht]
    refine Table.find?_ofList_of_mem ?_ (List.mem_map_of_mem hm)
    rw [List.map_map]
    show (fields.map Prod.fst).Nodup
    rw [hf]
    exact hn
  rw [Table.find?, Option.map_eq_some_iff] at hk
  obtain ⟨e, he, hv⟩ := hk
  constructor
  · intro α β g q
    simp only [Members.required, he, hv]
  · intro α β d g q
    simp only [Members.defaulted, he, hv]

/-! ## Numbers and texts -/

/-- A signed integer of 64 bits. -/
def FitsInt64 (n : Int) : Prop := (Text.Bounds.signed 64).holds n = true

/-- An unsigned integer of so many bits. -/
def FitsNat (bits n : Nat) : Prop := (Text.Bounds.unsigned bits).holds n = true

instance (n : Int) : Decidable (FitsInt64 n) := inferInstanceAs (Decidable (_ = true))

instance (bits n : Nat) : Decidable (FitsNat bits n) := inferInstanceAs (Decidable (_ = true))

/-- What 64 bits hold with a sign, as an interval. -/
theorem fitsInt64_iff {n : Int} :
    FitsInt64 n ↔ -9223372036854775808 ≤ n ∧ n ≤ 9223372036854775807 := holds_iff

/-- A number that fits can be written. -/
theorem isWritable_int {depth : Nat} {n : Int} (h : FitsInt64 n) : (int n).IsWritable depth := by
  show isWord n = true
  unfold FitsInt64 at h
  rw [isWord, h, Bool.true_or]

theorem isWritable_nat {depth bits n : Nat} (hb : bits ≤ 64) (h : FitsNat bits n) :
    (nat n).IsWritable depth := by
  have hp : Nat.pow 2 bits ≤ Nat.pow 2 64 := Nat.pow_le_pow_right (by decide) hb
  have hn : (Text.Bounds.unsigned 64).holds n = true := by
    rw [FitsNat, holds_iff] at h
    obtain ⟨hl, hu⟩ := h
    exact holds_iff.2 ⟨hl, Int.le_trans hu (Int.sub_le_sub_right (Int.ofNat_le.2 hp) 1)⟩
  show isWord n = true
  rw [isWord, hn, Bool.or_true]

/-- A text is read back, whatever is done with it. -/
theorem text_bind {β : Type} (s : String) (q : String → Option β) :
    (text? (str s).sorted >>= q) = q s := rfl

theorem bool_bind {β : Type} (b : Bool) (q : Bool → Option β) :
    (bool? (bool b).sorted >>= q) = q b := rfl

theorem int64_bind {β : Type} {n : Int} (h : FitsInt64 n) (q : Int → Option β) :
    (int64? (int n).sorted >>= q) = q n := by
  unfold FitsInt64 at h
  show (int64? (int n)).bind q = q n
  rw [int64?, int, integer?, if_pos h, Option.bind_some]

/-- A natural number that fits is read as itself. -/
theorem nat?_nat {bits n : Nat} (h : FitsNat bits n) : nat? bits (nat n) = some n := by
  unfold FitsNat at h
  rw [nat?, nat, int, integer?, if_pos h]
  rfl

/-- It is read back, whatever is done with it. -/
theorem nat_bind {β : Type} {bits n : Nat} (h : FitsNat bits n) (q : Nat → Option β) :
    (nat? bits (nat n).sorted >>= q) = q n := by
  show (nat? bits (nat n)).bind q = q n
  rw [nat?_nat h, Option.bind_some]

theorem option_nat_bind {β : Type} {bits : Nat} {o : Option Nat} (h : ∀ n ∈ o, FitsNat bits n)
    (q : Option Nat → Option β) :
    (option? (nat? bits) (ofOption (o.map nat)).sorted >>= q) = q o := by
  cases o with
  | none => rfl
  | some n =>
    show ((nat? bits (nat n)).map some).bind q = q (some n)
    rw [nat?_nat (h n rfl), Option.map_some, Option.bind_some]

/-! ## Values that read back -/

/-- What is written of a value is writable, and in sorted form it is read as the value. -/
structure ReadsBack {α : Type} (write : α → Json) (read : Json → Option α) (depth : Nat)
    (a : α) : Prop where
  /-- It is writable. -/
  writable : (write a).IsWritable depth
  /-- It is read. -/
  read : read (write a).sorted = some a

section ReadsBack

variable {α β : Type} {write : α → Json} {read : Json → Option α} {depth : Nat} {as : List α}
  {t : Table α}

/-- A text is read back at any depth. -/
theorem readsBack_str (depth : Nat) (s : String) : ReadsBack str text? depth s := ⟨trivial, rfl⟩

/-- A record reads back if its members have different names and it is what is read of them. -/
theorem ReadsBack.record {fields : List (String × Json)} {names : List String}
    {read : Members → Option α} {a : α} (hv : write a = obj fields)
    (hf : fields.map Prod.fst = names) (hn : names.Nodup)
    (hw : ∀ f ∈ fields, f.2.IsWritable depth)
    (hr : ∀ m : Members, (∀ f ∈ fields, m.Finds f.1 f.2.sorted) → read m = some a) :
    ReadsBack write (fun v => v.members names >>= read) (depth + 1) a where
  writable := by
    rw [hv]
    exact ⟨Nat.succ_pos _, areFieldsWritable_iff.2 hw⟩
  read := by
    obtain ⟨m, hm, hfound⟩ := members_sorted hf hn
    rw [hv, hm]
    exact hr m hfound

/-- What is read off each item in turn is the list of what was written. -/
theorem mapM_map_some {f : β → Option α} {g : α → β} (h : ∀ a ∈ as, f (g a) = some a) :
    (as.map g).mapM f = some as := by
  induction as with
  | nil => rfl
  | cons a as ih =>
    obtain ⟨ha, has⟩ := List.forall_mem_cons.1 h
    rw [List.map_cons, List.mapM_cons, ha, ih has]
    rfl

/-- A list is read back if its elements are, one level deeper. -/
theorem ReadsBack.list (h : ∀ a ∈ as, ReadsBack write read depth a) :
    ReadsBack (fun as => arr (as.map write)) (list? read) (depth + 1) as where
  writable := by
    refine ⟨Nat.succ_pos _, areWritable_iff.2 fun v hv => ?_⟩
    obtain ⟨a, ha, rfl⟩ := List.mem_map.1 hv
    exact (h a ha).writable
  read := by
    rw [sorted, sortedItems_eq_map, List.map_map, list?]
    exact mapM_map_some fun a ha => (h a ha).read

/-- A list is read back, whatever is done with it. -/
theorem list_bind (h : ∀ a ∈ as, ReadsBack write read depth a) (q : List α → Option β) :
    (list? read (arr (as.map write)).sorted >>= q) = q as := by
  rw [(ReadsBack.list h).read]
  rfl

/-- The members of a table are in order. -/
theorem sorted_ofTable (write : α → Json) (t : Table α) :
    (ofTable write t).sorted = ofTable (fun a => (write a).sorted) t := by
  have he : (t.entries.map fun e => (e.1, (write e.2).sorted))
      = (t.map fun _ a => (write a).sorted).entries := rfl
  rw [ofTable, sorted_obj, List.map_map, Function.comp_def, he, Table.ofList_entries]
  rfl

/-- A table is read back if its values are, one level deeper. -/
theorem ReadsBack.table (h : ∀ a ∈ t.values, ReadsBack write read depth a) :
    ReadsBack (ofTable write) (table? read) (depth + 1) t where
  writable := by
    refine ⟨Nat.succ_pos _, areFieldsWritable_iff.2 fun f hf => ?_⟩
    obtain ⟨e, he, rfl⟩ := List.mem_map.1 hf
    exact (h e.2 (List.mem_map_of_mem he)).writable
  read := by
    have hm : (t.entries.map fun e => (e.1, (write e.2).sorted)).mapM
        (fun e => (read e.2).map fun a => (e.1, a)) = some t.entries := by
      refine mapM_map_some fun e he => ?_
      rw [(h e.2 (List.mem_map_of_mem he)).read]
      rfl
    rw [sorted_ofTable, ofTable, table?, hm, Option.map_some, Table.ofList_entries]

/-- A table is read back, whatever is done with it. -/
theorem table_bind (h : ∀ a ∈ t.values, ReadsBack write read depth a)
    (q : Table α → Option β) : (table? read (ofTable write t).sorted >>= q) = q t := by
  rw [(ReadsBack.table h).read]
  rfl

end ReadsBack

end SwapMarket.Json
