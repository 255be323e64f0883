import SwapMarket.Json.Reader
import SwapMarket.Proofs.Json.Scan

/-!
# Reading what was written on indented lines

A value is **`IsWritable`** within a depth if its numbers are integers of 64 bits, everything in it
is readable, and no more lists and objects are in each other than the depth.

* `scan_pretty`: the lines of such a value are scanned as its tokens.
* `ofTokens?_tokens`: its tokens are read as the value.
* `read_pretty`: what is written is read back.
-/

namespace SwapMarket.Json

mutual

/-- A value that reads back, with at most so many lists and objects in each other. -/
def IsWritable (depth : Nat) : Json → Prop
  | .null | .bool _ | .str _ => True
  | .num (.int n) => isWord n = true
  | .num (.real _) | .unreadable => False
  | .arr vs => 0 < depth ∧ AreWritable (depth - 1) vs
  | .obj fs => 0 < depth ∧ AreFieldsWritable (depth - 1) fs

/-- Values that read back. -/
def AreWritable (depth : Nat) : List Json → Prop
  | [] => True
  | v :: vs => IsWritable depth v ∧ AreWritable depth vs

/-- Named values that read back. -/
def AreFieldsWritable (depth : Nat) : List (String × Json) → Prop
  | [] => True
  | (_, v) :: fs => IsWritable depth v ∧ AreFieldsWritable depth fs

end

/-! ## From lines to tokens -/

/-- Neither a number nor a word goes on in a new line. -/
theorem delimited_newline (level : Nat) (rest : List Char) : Delimited (newline level ++ rest) :=
  .cons rfl rfl _

/-- Lines of elements begin with a line break, so that no number goes on. -/
theorem delimited_itemLines {rest : List Char} (h : Delimited rest) (level : Nat)
    (vs : List Json) : Delimited (itemLines level vs ++ rest) := by
  cases vs with
  | nil => exact h
  | cons v vs => exact .cons rfl rfl _

theorem delimited_fieldLines {rest : List Char} (h : Delimited rest) (level : Nat)
    (fs : List (String × Json)) : Delimited (fieldLines level fs ++ rest) := by
  cases fs with
  | nil => exact h
  | cons f fs => exact .cons rfl rfl _

/-- A token of one character at the end of a line. -/
theorem lexed_mark_newline {c : Char} {t : Token} (hc : Scan.start c = some (.between, [t]))
    (level : Nat) (rest : List Char) : Lexed (c :: newline level) rest [t] :=
  .mark hc (lexed_newline level rest)

/-- A name and the colon after it. -/
theorem lexed_name (k : String) (rest : List Char) :
    Lexed (quoted k ++ [':', ' ']) rest [.str k, .colon] :=
  (lexed_quoted k _).append (.mark rfl (.layout rfl .nil))

mutual

/-- The lines of a value are its tokens, on every level. -/
theorem lexed_lines {depth : Nat} (level : Nat) : (v : Json) → v.IsWritable depth →
    ∀ rest, Delimited rest → Lexed (lines level v) rest v.tokens
  | .null, _, _, h => lexed_word (w := "null") rfl rfl rfl rfl h
  | .bool true, _, _, h => lexed_word (w := "true") rfl rfl rfl rfl h
  | .bool false, _, _, h => lexed_word (w := "false") rfl rfl rfl rfl h
  | .num (.int _), hv, _, h => lexed_integer hv h
  | .str s, _, rest, _ => lexed_quoted s rest
  | .arr [], _, _, _ => .mark rfl (.mark rfl .nil)
  | .arr (v :: vs), hv, rest, _ => by
    obtain ⟨-, hv, hvs⟩ := hv
    have hend : Delimited (newline level ++ ([']'] ++ rest)) := delimited_newline _ _
    have opened := lexed_mark_newline (c := '[') rfl (level + 1)
    have first := lexed_lines (level + 1) v hv _ (delimited_itemLines hend (level + 1) vs)
    have others := lexed_itemLines (level + 1) vs hvs _ hend
    have closed : Lexed [']'] rest [.closeArray] := .mark rfl .nil
    have all := ((((opened _).append first).append others).append
      (lexed_newline level _)).append closed
    simpa [tokens, lines] using all
  | .obj [], _, _, _ => .mark rfl (.mark rfl .nil)
  | .obj ((k, v) :: fs), hv, rest, _ => by
    obtain ⟨-, hv, hfs⟩ := hv
    have hend : Delimited (newline level ++ (['\x7d'] ++ rest)) := delimited_newline _ _
    have opened := lexed_mark_newline (c := '\x7b') rfl (level + 1)
    have first := lexed_lines (level + 1) v hv _ (delimited_fieldLines hend (level + 1) fs)
    have others := lexed_fieldLines (level + 1) fs hfs _ hend
    have closed : Lexed ['\x7d'] rest [.closeObject] := .mark rfl .nil
    have all := (((((opened _).append (lexed_name k _)).append first).append others).append
      (lexed_newline level _)).append closed
    simpa [tokens, lines] using all

theorem lexed_itemLines {depth : Nat} (level : Nat) : (vs : List Json) → AreWritable depth vs →
    ∀ rest, Delimited rest → Lexed (itemLines level vs) rest (itemTokens vs)
  | [], _, _, _ => .nil
  | v :: vs, hv, rest, h => by
    obtain ⟨hv, hvs⟩ := hv
    have comma := lexed_mark_newline (c := ',') rfl level
    have first := lexed_lines level v hv _ (delimited_itemLines h level vs)
    have others := lexed_itemLines level vs hvs rest h
    exact ((comma _).append first).append others

theorem lexed_fieldLines {depth : Nat} (level : Nat) : (fs : List (String × Json)) →
    AreFieldsWritable depth fs →
    ∀ rest, Delimited rest → Lexed (fieldLines level fs) rest (fieldTokens fs)
  | [], _, _, _ => .nil
  | (k, v) :: fs, hv, rest, h => by
    obtain ⟨hv, hfs⟩ := hv
    have comma := lexed_mark_newline (c := ',') rfl level
    have first := lexed_lines level v hv _ (delimited_fieldLines h level fs)
    have others := lexed_fieldLines level fs hfs rest h
    have all := (((comma _).append (lexed_name k _)).append first).append others
    simpa [fieldTokens, fieldLines] using all

end

/-- The text of a value is cut into its tokens. -/
theorem scan_pretty {depth : Nat} {v : Json} (h : v.IsWritable depth) :
    scan v.pretty.toList = some v.tokens := by
  have hl : Lexed (lines 0 v) [] v.tokens := lexed_lines 0 v h [] .nil
  unfold Lexed at hl
  rw [List.append_nil] at hl
  rw [scan, pretty, String.toList_ofList, hl]
  simp [scanFrom, Scan.finish]

/-! ## From tokens to values -/

/-- A reader that has read a token goes on with the others. -/
theorem run_cons (m : Machine) (t : Token) (ts : List Token) :
    m.run (t :: ts) = (m.step t).bind (·.run ts) := by
  rw [Machine.run]
  cases m.step t <;> rfl

/-- A list or an object that is not too deep stands for itself. -/
theorem nested_some (fs : List Frame) (h : fs.length < greatestDepth) (v : Json) :
    nested fs (some v) = v := by
  have ht : (fs.take greatestDepth).length < greatestDepth := by
    rw [List.length_take]
    omega
  rw [nested, if_pos ht, Option.getD_some]

/-- A value that is not nested too deep is added to a list. -/
theorem addItem_some {depth : Nat} {v : Json} (h : v.IsWritable depth) (vs : List Json) :
    addItem v (some vs) = some (v :: vs) := by
  cases v with
  | unreadable => exact h.elim
  | _ => rfl

/-- A value does not begin with the end of a list. -/
theorem tokens_eq_cons (v : Json) : ∃ t ts, v.tokens = t :: ts ∧ t ≠ .closeArray := by
  rcases v with _ | _ | _ | _ | (_ | _) | (_ | ⟨⟨k, v⟩, fs⟩) | _ <;>
    exact ⟨_, _, rfl, by simp⟩

/-- The first item of a list is read as any other. -/
theorem run_firstItem (v : Json) (fs : List Frame) (ts : List Token) :
    (⟨fs, .firstItem⟩ : Machine).run (v.tokens ++ ts)
      = (⟨fs, .value⟩ : Machine).run (v.tokens ++ ts) := by
  obtain ⟨t, us, ht, hne⟩ := v.tokens_eq_cons
  rw [ht, List.cons_append, run_cons, run_cons]
  simp only [Machine.step, hne, if_false]

mutual

/-- A value whose tokens are read is handed to what is open. -/
theorem run_tokens {depth : Nat} : (v : Json) → v.IsWritable depth → ∀ fs ts,
    fs.length + depth ≤ greatestDepth →
      (⟨fs, .value⟩ : Machine).run (v.tokens ++ ts) = (deliver v fs).bind (·.run ts)
  | .null, _, _, _, _ => run_cons _ _ _
  | .bool _, _, _, _, _ => run_cons _ _ _
  | .num (.int _), _, _, _, _ => run_cons _ _ _
  | .str _, _, _, _, _ => run_cons _ _ _
  | .arr [], hv, fs, ts, h => by
    obtain ⟨hd, -⟩ := hv
    have hn := nested_some fs (by omega) (.arr [])
    show (⟨fs, .value⟩ : Machine).run (.openArray :: .closeArray :: ts) = _
    rw [run_cons, ← hn]
    exact run_cons _ _ _
  | .arr (v :: vs), hv, fs, ts, h => by
    obtain ⟨hd, hv, hvs⟩ := hv
    have hf : (Frame.array (some []) :: fs).length + (depth - 1) ≤ greatestDepth := by
      rw [List.length_cons]
      omega
    have first := run_tokens v hv (.array (some []) :: fs) (itemTokens vs ++ .closeArray :: ts) hf
    have others := run_itemTokens vs hvs [v] fs ts hd h
    rw [← run_firstItem, deliver, addItem_some hv] at first
    have htokens : Json.tokens (.arr (v :: vs)) ++ ts
        = .openArray :: (v.tokens ++ (itemTokens vs ++ .closeArray :: ts)) := by
      simp [tokens]
    rw [htokens, run_cons]
    exact first.trans others
  | .obj [], hv, fs, ts, h => by
    obtain ⟨hd, -⟩ := hv
    have hn := nested_some fs (by omega) (.obj [])
    show (⟨fs, .value⟩ : Machine).run (.openObject :: .closeObject :: ts) = _
    rw [run_cons, ← hn]
    exact run_cons _ _ _
  | .obj ((k, v) :: ms), hv, fs, ts, h => by
    obtain ⟨hd, hv, hms⟩ := hv
    have hf : (Frame.member (some []) (some k) :: fs).length + (depth - 1) ≤ greatestDepth := by
      rw [List.length_cons]
      omega
    have first := run_tokens v hv (.member (some []) (some k) :: fs)
      (fieldTokens ms ++ .closeObject :: ts) hf
    have others := run_fieldTokens ms hms [(k, v)] fs ts hd h
    have htokens : Json.tokens (.obj ((k, v) :: ms)) ++ ts = .openObject :: .str k :: .colon ::
        (v.tokens ++ (fieldTokens ms ++ .closeObject :: ts)) := by
      simp [tokens]
    rw [htokens, run_cons]
    exact first.trans others

/-- Items are added to an open list, which then ends. -/
theorem run_itemTokens {depth : Nat} : (vs : List Json) → AreWritable (depth - 1) vs →
    ∀ items fs ts, 0 < depth → fs.length + depth ≤ greatestDepth →
      (⟨.array (some items) :: fs, .next⟩ : Machine).run (itemTokens vs ++ .closeArray :: ts)
        = (deliver (.arr (items.reverse ++ vs)) fs).bind (·.run ts)
  | [], _, items, fs, ts, hd, h => by
    have hn := nested_some fs (by omega) (.arr items.reverse)
    rw [List.append_nil, ← hn]
    exact run_cons _ _ _
  | v :: vs, hv, items, fs, ts, hd, h => by
    obtain ⟨hv, hvs⟩ := hv
    have hf : (Frame.array (some items) :: fs).length + (depth - 1) ≤ greatestDepth := by
      rw [List.length_cons]
      omega
    have first := run_tokens v hv (.array (some items) :: fs)
      (itemTokens vs ++ .closeArray :: ts) hf
    have others := run_itemTokens vs hvs (v :: items) fs ts hd h
    rw [deliver, addItem_some hv] at first
    rw [List.reverse_cons, List.append_assoc] at others
    have htokens : itemTokens (v :: vs) ++ .closeArray :: ts
        = .comma :: (v.tokens ++ (itemTokens vs ++ .closeArray :: ts)) := by
      simp [itemTokens]
    rw [htokens, run_cons]
    exact first.trans others

/-- Members are added to an open object, which then ends. -/
theorem run_fieldTokens {depth : Nat} : (ms : List (String × Json)) →
    AreFieldsWritable (depth - 1) ms →
    ∀ fields fs ts, 0 < depth → fs.length + depth ≤ greatestDepth →
      (⟨.object (some fields) :: fs, .next⟩ : Machine).run (fieldTokens ms ++ .closeObject :: ts)
        = (deliver (.obj (fields.reverse ++ ms)) fs).bind (·.run ts)
  | [], _, fields, fs, ts, hd, h => by
    have hn := nested_some fs (by omega) (.obj fields.reverse)
    rw [List.append_nil, ← hn]
    exact run_cons _ _ _
  | (k, v) :: ms, hv, fields, fs, ts, hd, h => by
    obtain ⟨hv, hms⟩ := hv
    have hf : (Frame.member (some fields) (some k) :: fs).length + (depth - 1)
        ≤ greatestDepth := by
      rw [List.length_cons]
      omega
    have first := run_tokens v hv (.member (some fields) (some k) :: fs)
      (fieldTokens ms ++ .closeObject :: ts) hf
    have others := run_fieldTokens ms hms ((k, v) :: fields) fs ts hd h
    rw [List.reverse_cons, List.append_assoc] at others
    have htokens : fieldTokens ((k, v) :: ms) ++ .closeObject :: ts = .comma :: .str k :: .colon ::
        (v.tokens ++ (fieldTokens ms ++ .closeObject :: ts)) := by
      simp [fieldTokens]
    rw [htokens, run_cons]
    exact first.trans others

end

/-- The tokens of a value are the value again. -/
theorem ofTokens?_tokens {v : Json} (h : v.IsWritable greatestDepth) :
    ofTokens? v.tokens = some v := by
  have hr := run_tokens v h [] [] (Nat.le_of_eq (Nat.zero_add _))
  rw [List.append_nil] at hr
  rw [ofTokens?, hr]
  rfl

/-- What is written is read back. -/
theorem read_pretty {v : Json} (h : v.IsWritable greatestDepth) : read v.pretty = some v := by
  rw [read, scan_pretty h]
  exact ofTokens?_tokens h

end SwapMarket.Json
