import SwapMarket.Json.Printer
import Mathlib.Data.List.Basic
import Mathlib.Data.List.TakeWhile

/-!
# Scanning what was written

**`Lexed`** says that characters, with those that follow them, are scanned as certain tokens and
leave what follows to be scanned as if nothing had been before. It is a statement about the whole
rest of a text, since a number or a word goes on as long as it can: what follows such a token has to
be **`Delimited`**.

* `lexed_quoted`: a quoted text is scanned as that text, whatever its characters are.
* `lexed_integer`: an integer of 64 bits, signed or not, is scanned as that integer.
* `lexed_word`: a bare word is scanned as its token.
-/

namespace SwapMarket

/-! ## Scans in steps -/

/-- Tokens that were found before come before all others. -/
theorem scanFrom_eq_map (found : List Token) (s : Scan) (cs : List Char) :
    scanFrom found s cs = (scanFrom [] s cs).map (found.reverse ++ ·) := by
  induction cs generalizing found s with
  | nil => simp [scanFrom]
  | cons c cs ih =>
    unfold scanFrom
    cases hs : s.step c with
    | none => rfl
    | some r =>
      show scanFrom (r.2.reverse ++ found) r.1 cs
        = (scanFrom (r.2.reverse ++ []) r.1 cs).map (found.reverse ++ ·)
      rw [ih, ih (r.2.reverse ++ []), Option.map_map]
      simp [Function.comp_def]

/-- A step gives its tokens and goes on in its state. -/
theorem scanFrom_cons {s r : Scan} {c : Char} {ts : List Token} (h : s.step c = some (r, ts))
    (cs : List Char) : scanFrom [] s (c :: cs) = (scanFrom [] r cs).map (ts ++ ·) := by
  rw [scanFrom, h]
  show scanFrom (ts.reverse ++ []) r cs = _
  rw [scanFrom_eq_map, List.append_nil, List.reverse_reverse]

/-- A step without tokens only changes the state. -/
theorem scanFrom_skip {s r : Scan} {c : Char} (h : s.step c = some (r, [])) (cs : List Char) :
    scanFrom [] s (c :: cs) = scanFrom [] r cs := by
  rw [scanFrom_cons h]
  simp

/-- Before `rest`, the characters `cs` are the tokens `ts`, and nothing of them is left over. -/
def Lexed (cs rest : List Char) (ts : List Token) : Prop :=
  scanFrom [] .between (cs ++ rest) = (scanFrom [] .between rest).map (ts ++ ·)

namespace Lexed

variable {cs ds rest : List Char} {ts us : List Token} {c : Char} {t : Token}

/-- Nothing is no token. -/
theorem nil : Lexed [] rest [] := by
  simp [Lexed]

/-- Texts in a row are tokens in a row. -/
theorem append (h : Lexed cs (ds ++ rest) ts) (k : Lexed ds rest us) :
    Lexed (cs ++ ds) rest (ts ++ us) := by
  unfold Lexed at h k ⊢
  rw [List.append_assoc, h, k, Option.map_map]
  simp [Function.comp_def]

/-- A character that may stand between tokens is none. -/
theorem layout (hc : isLayout c = true) (h : Lexed cs rest ts) : Lexed (c :: cs) rest ts := by
  unfold Lexed
  rw [List.cons_append, scanFrom_skip (r := .between) (by simp [Scan.step, Scan.start, hc])]
  exact h

/-- A character that is a token of its own. -/
theorem mark (hc : Scan.start c = some (.between, [t])) (h : Lexed cs rest ts) :
    Lexed (c :: cs) rest (t :: ts) := by
  unfold Lexed at h ⊢
  rw [List.cons_append, scanFrom_cons (s := .between) hc, h, Option.map_map]
  simp [Function.comp_def]

end Lexed

/-- A new line is no token. -/
theorem lexed_newline (level : Nat) (rest : List Char) : Lexed (Json.newline level) rest [] := by
  refine Lexed.layout rfl ?_
  generalize 2 * level = n
  induction n with
  | zero => exact .nil
  | succ n ih =>
    rw [List.replicate_succ]
    exact ih.layout rfl

/-! ## Quoted texts -/

/-- Reads one digit of a numeric escape. -/
theorem scanFrom_escape {read : Option (List Char)} {todo value d : Nat} (hd : d < 16)
    (ht : 1 < todo) (cs : List Char) :
    scanFrom [] (.escape read todo value none) (d.digitChar :: cs)
      = scanFrom [] (.escape read (todo - 1) (value * 16 + d) none) cs := by
  have hv : Text.digitValue 16 d.digitChar = some d := by
    revert d
    decide
  refine scanFrom_skip ?_ cs
  simp [Scan.step, hv, Nat.not_le.2 ht]

/-- Reads the last digit of a numeric escape that stands for a character below the surrogates. -/
theorem scanFrom_escape_last {read : List Char} {value d : Nat} (hd : d < 16)
    (hv : value * 16 + d < 0xD800) (cs : List Char) :
    scanFrom [] (.escape (some read) 1 value none) (d.digitChar :: cs)
      = scanFrom [] (.text (some (Char.ofNat (value * 16 + d) :: read))) cs := by
  have hd' : Text.digitValue 16 d.digitChar = some d := by
    clear hv
    revert d
    decide
  refine scanFrom_skip ?_ cs
  have hl : value * 16 + d < 0xDC00 := Nat.lt_trans hv (by decide)
  simp [Scan.step, hd', Scan.finishEscape, Nat.not_le.2 hv, Nat.not_le.2 hl]

/-- A character as it is written is read as that character. -/
theorem scanFrom_escaped (c : Char) (read cs : List Char) :
    scanFrom [] (.text (some read)) (escaped c ++ cs)
      = scanFrom [] (.text (some (c :: read))) cs := by
  have backslash : ∀ ds, scanFrom [] (.text (some read)) ('\\' :: ds)
      = scanFrom [] (.backslash (some read)) ds := fun ds => scanFrom_skip rfl ds
  have simple : ∀ d, Scan.afterBackslash (some read) d = some (.text (some (c :: read)), []) →
      scanFrom [] (.text (some read)) (['\\', d] ++ cs)
        = scanFrom [] (.text (some (c :: read))) cs :=
    fun _ hd => (backslash _).trans (scanFrom_skip (s := .backslash (some read)) hd cs)
  unfold escaped
  split
  · next h => subst h; exact simple _ rfl
  split
  · next h => subst h; exact simple _ rfl
  split
  · next h => subst h; exact simple _ rfl
  split
  · next h => subst h; exact simple _ rfl
  split
  · next h => subst h; exact simple _ rfl
  split
  · next h => subst h; exact simple _ rfl
  split
  · next h => subst h; exact simple _ rfl
  split
  · next h =>
    -- A control character: two zeros and two digits, whose value is that of the character.
    have hq : c.toNat / 16 < 16 := by omega
    have hr : c.toNat % 16 < 16 := Nat.mod_lt _ (by decide)
    have hc : c.toNat / 16 * 16 + c.toNat % 16 = c.toNat := Nat.div_add_mod' _ _
    have zero : '0' = (0 : Nat).digitChar := rfl
    rw [Nat.toDigits_of_lt_base hq, Nat.toDigits_of_lt_base hr]
    simp only [List.cons_append, List.nil_append]
    rw [backslash, scanFrom_skip (r := .escape (some read) 4 0 none) rfl, zero,
      scanFrom_escape (by decide) (by decide), scanFrom_escape (by decide) (by decide),
      scanFrom_escape hq (by decide), scanFrom_escape_last hr (by omega)]
    simp [hc]
  · next hq hb _ _ _ _ _ hu =>
    exact scanFrom_skip (by simp [Scan.step, Scan.inText, hq, hb, hu]) cs

/-- The characters of a text are read one after the other. -/
theorem scanFrom_flatMap_escaped (cs read rest : List Char) :
    scanFrom [] (.text (some read)) (cs.flatMap escaped ++ rest)
      = scanFrom [] (.text (some (cs.reverse ++ read))) rest := by
  induction cs generalizing read with
  | nil => rfl
  | cons c cs ih =>
    rw [List.flatMap_cons, List.append_assoc, scanFrom_escaped, ih]
    simp

/-- A quoted text is one token, whatever its characters are. -/
theorem lexed_quoted (s : String) (rest : List Char) : Lexed (quoted s) rest [.str s] := by
  unfold Lexed quoted
  rw [List.cons_append, List.cons_append, scanFrom_skip (r := .text (some [])) rfl,
    List.append_assoc, scanFrom_flatMap_escaped, List.append_nil]
  exact scanFrom_cons (by simp [Scan.step, Scan.inText]) rest

/-! ## Words and numbers -/

/-- A text at whose start neither a number nor a word goes on. -/
def Delimited (cs : List Char) : Prop :=
  ∀ c, cs.head? = some c → isNumberChar c = false ∧ c.isLower = false

/-- At the end nothing goes on. -/
theorem Delimited.nil : Delimited [] := by
  intro c hc
  cases hc

theorem Delimited.cons {c : Char} (hn : isNumberChar c = false) (hw : c.isLower = false)
    (cs : List Char) : Delimited (c :: cs) := by
  intro d hd
  cases hd
  exact ⟨hn, hw⟩

/-- What a scan collects character by character, as a word or a number, is one token. It is complete
where something else starts, and at the end of the text. -/
theorem Lexed.collected {f : List Char → Scan} {c : Char} {cs rest : List Char} {t : Token}
    (hs : Scan.start c = some (f [c], []))
    (hc : ∀ d ∈ cs, ∀ read, (f read).step d = some (f (d :: read), []))
    (hf : (f (c :: cs).reverse).finish = some [t])
    (hr : ∀ d, rest.head? = some d →
      (f (c :: cs).reverse).step d = (Scan.start d).map fun r => (r.1, t :: r.2)) :
    Lexed (c :: cs) rest [t] := by
  have collect : ∀ read, scanFrom [] (f read) (cs ++ rest)
      = scanFrom [] (f (cs.reverse ++ read)) rest := by
    clear hf hr
    induction cs with
    | nil => exact fun _ => rfl
    | cons d ds ih =>
      obtain ⟨hd, hds⟩ := List.forall_mem_cons.1 hc
      intro read
      rw [List.cons_append, scanFrom_skip (hd read), ih hds, List.reverse_cons, List.append_assoc]
      rfl
  rw [List.reverse_cons] at hf hr
  unfold Lexed
  rw [List.cons_append, scanFrom_skip (s := .between) hs, collect]
  cases rest with
  | nil =>
    rw [scanFrom, hf]
    rfl
  | cons d ds =>
    have hd := hr d rfl
    cases hb : Scan.start d with
    | none =>
      rw [hb] at hd
      have hb' : Scan.between.step d = none := hb
      simp only [scanFrom, hd, hb', Option.map_none]
    | some r =>
      rw [hb] at hd
      have hb' : Scan.between.step d = some (r.1, r.2) := hb
      rw [scanFrom_cons hd, scanFrom_cons hb', Option.map_map]
      rfl

/-- A word is one token, if it ends where it should. -/
theorem lexed_word {w : String} {t : Token} {c : Char} {cs rest : List Char}
    (hw : w.toList = c :: cs) (hs : Scan.start c = some (.word [c], []))
    (hc : cs.all Char.isLower = true) (ht : wordToken? w = some t) (h : Delimited rest) :
    Lexed w.toList rest [t] := by
  have hr : wordToken? (.ofList (c :: cs).reverse.reverse) = some t := by
    rw [List.reverse_reverse, ← hw, String.ofList_toList]
    exact ht
  rw [hw]
  refine Lexed.collected hs (fun d hd read => ?_) ?_ fun d hd => ?_
  · simp only [Scan.step, List.all_eq_true.1 hc d hd, if_true]
  · rw [Scan.finish, hr]
    rfl
  · simp only [Scan.step, (h d hd).2, hr]
    cases Scan.start d <;> rfl

/-! ## Integers -/

/-- What is held is between the bounds. -/
theorem holds_iff {b : Text.Bounds} {n : Int} : b.holds n = true ↔ b.low ≤ n ∧ n ≤ b.high := by
  rw [Text.Bounds.holds, Bool.and_eq_true, decide_eq_true_iff, decide_eq_true_iff]

/-- What 64 bits hold without a sign. -/
theorem holds_unsigned {n : Int} :
    (Text.Bounds.unsigned 64).holds n = true ↔ 0 ≤ n ∧ n ≤ 18446744073709551615 := holds_iff

/-- What 64 bits hold with a sign. -/
theorem holds_signed {n : Int} : (Text.Bounds.signed 64).holds n = true ↔
    -9223372036854775808 ≤ n ∧ n ≤ 9223372036854775807 := holds_iff

/-- Digits that follow a number make it no smaller. -/
theorem le_ofDigitChars (n : Nat) (ds : List Char) : n ≤ Nat.ofDigitChars 10 ds n := by
  rw [Nat.ofDigitChars_eq_ofDigitChars_zero]
  have hn : 1 * n ≤ 10 ^ ds.length * n := Nat.mul_le_mul_right n (Nat.pow_pos (by decide))
  omega

/-- Digits whose value has 64 bits all fit. -/
theorem fittingDigits_eq {n : Nat} {ds : List Char}
    (h : (Text.Bounds.unsigned 64).holds (Nat.ofDigitChars 10 ds n) = true) :
    fittingDigits n ds = (Nat.ofDigitChars 10 ds n, []) := by
  induction ds generalizing n with
  | nil => rw [fittingDigits, Nat.ofDigitChars_nil]
  | cons c cs ih =>
    have hm : 10 * n + (c.toNat - '0'.toNat) = n * 10 + (c.toNat - 48) := by
      rw [Nat.mul_comm]
      rfl
    rw [Nat.ofDigitChars_cons, hm] at h ⊢
    have hle := le_ofDigitChars (n * 10 + (c.toNat - 48)) cs
    have hf : (Text.Bounds.unsigned 64).holds (n * 10 + (c.toNat - 48) : Nat) = true := by
      rw [holds_unsigned] at h ⊢
      omega
    simp only [fittingDigits, hf, if_true]
    exact ih h

/-- A number above zero is not written with a zero in front. -/
theorem head?_toDigits_ne {m : Nat} (hm : 0 < m) : (Nat.toDigits 10 m).head? ≠ some '0' := by
  induction m using Nat.strongRecOn with
  | ind m ih =>
    rcases Nat.lt_or_ge m 10 with h | h
    · rw [Nat.toDigits_of_lt_base h]
      simp
      omega
    · rw [Nat.toDigits_of_base_le (by decide) h, List.head?_append_of_ne_nil _ Nat.toDigits_ne_nil]
      exact ih (m / 10) (by omega) (by omega)

/-- The digits of a number of 64 bits are read as that number. -/
theorem magnitudeToken?_toDigits (negative : Bool) {m : Nat}
    (h : (Text.Bounds.unsigned 64).holds m = true) :
    magnitudeToken? negative (Nat.toDigits 10 m)
      = some (.ofNumber (integerNumber negative m 0)) := by
  have digit : ∀ c ∈ Nat.toDigits 10 m, c.isDigit = true := fun c hc =>
    Nat.isDigit_of_mem_toDigits (by decide) (by decide) hc
  have hl : leadingDigits (Nat.toDigits 10 m) = (Nat.toDigits 10 m, []) := by
    rw [leadingDigits, List.takeWhile_eq_self_iff.2 digit, List.dropWhile_eq_nil_iff.2 digit]
  have hf : fittingDigits 0 (Nat.toDigits 10 m) = (m, []) := by
    have hv : Nat.ofDigitChars 10 (Nat.toDigits 10 m) 0 = m := Nat.ofDigitChars_ten_toDigits
    rw [fittingDigits_eq (by rw [hv]; exact h), hv]
  have hz : ¬((Nat.toDigits 10 m).head? = some '0' ∧ (Nat.toDigits 10 m).length ≠ 1) := by
    rintro ⟨hh, hn⟩
    rcases Nat.eq_zero_or_pos m with rfl | hm
    · exact hn rfl
    · exact head?_toDigits_ne hm hh
  simp only [magnitudeToken?, hl, hf, Nat.toDigits_ne_nil, hz, or_self, if_false, List.length_nil]

/-- An integer of 64 bits, signed or not. -/
def isWord (n : Int) : Bool :=
  (Text.Bounds.signed 64).holds n || (Text.Bounds.unsigned 64).holds n

/-- How an integer is written: its digits, after a minus sign if it is below zero. -/
theorem toList_toString (n : Int) :
    (toString n).toList = (if n < 0 then ['-'] else []) ++ Nat.toDigits 10 n.natAbs := by
  rw [Int.toString_eq_repr, Int.repr_eq_if]
  rcases Int.lt_or_le n 0 with h | h
  · have ha : (-n).toNat = n.natAbs := by omega
    simp [h, Int.not_le.2 h, ha]
  · have ha : n.toNat = n.natAbs := by omega
    simp [h, Int.not_lt.2 h, ha]

/-- An integer of 64 bits is read as that integer. -/
theorem numberToken?_toString {n : Int} (h : isWord n = true) :
    numberToken? (toString n).toList = some (.num (.int n)) := by
  have bounds : -9223372036854775808 ≤ n ∧ n ≤ 18446744073709551615 := by
    rw [isWord, Bool.or_eq_true, holds_signed, holds_unsigned] at h
    omega
  have hu : (Text.Bounds.unsigned 64).holds n.natAbs = true := by
    rw [holds_unsigned]
    omega
  rw [toList_toString]
  rcases Int.lt_or_le n 0 with hn | hn
  · have hs : (Text.Bounds.signed 64).holds n = true := by
      rw [holds_signed]
      omega
    have ha : -(n.natAbs : Int) = n := by omega
    have hi : integerNumber true n.natAbs 0 = some (.int n) := by
      have hz : n.natAbs ≠ 0 := by omega
      rw [integerNumber, ha, if_neg (by simp), if_neg (by simp), if_pos ⟨hz, hs⟩]
    simp only [hn, if_true, List.singleton_append, numberToken?, magnitudeToken?_toDigits true hu, hi]
    rfl
  · have ha : (n.natAbs : Int) = n := by omega
    have hd : ∀ cs, Nat.toDigits 10 n.natAbs ≠ '-' :: cs := by
      intro cs hc
      have hm : '-' ∈ Nat.toDigits 10 n.natAbs := by
        rw [hc]
        exact List.mem_cons_self
      cases Nat.isDigit_of_mem_toDigits (by decide) (by decide) hm
    simp only [Int.not_lt.2 hn, if_false, List.nil_append]
    rw [numberToken?, magnitudeToken?_toDigits false hu]
    · rw [integerNumber, ha]
      rfl
    · exact hd

/-- An integer is written with digits and perhaps a minus sign. -/
theorem eq_minus_or_isDigit {n : Int} {c : Char} (hc : c ∈ (toString n).toList) :
    c = '-' ∨ c.isDigit = true := by
  rw [toList_toString] at hc
  rcases List.mem_append.1 hc with h | h
  · refine .inl ?_
    split at h
    · exact List.mem_singleton.1 h
    · cases h
  · exact .inr (Nat.isDigit_of_mem_toDigits (by decide) (by decide) h)

/-- A digit starts a number. -/
theorem start_of_isDigit {c : Char} (h : c.isDigit = true) :
    Scan.start c = some (.number [c], []) := by
  have ne : ∀ d : Char, d.isDigit = false → c ≠ d := by
    rintro d hd rfl
    rw [h] at hd
    cases hd
  have hl : isLayout c = false := by
    simp [isLayout, ne ' ' rfl, ne '\n' rfl, ne '\r' rfl, ne '\t' rfl]
  simp [Scan.start, hl, h, ne '[' rfl, ne ']' rfl, ne '\x7b' rfl, ne '\x7d' rfl, ne ',' rfl,
    ne ':' rfl, ne '"' rfl]

/-- A whole number is one token. -/
theorem lexed_integer {n : Int} (hn : isWord n = true) {rest : List Char} (h : Delimited rest) :
    Lexed (toString n).toList rest [.num (.int n)] := by
  have ht := numberToken?_toString hn
  have hm : ∀ c ∈ (toString n).toList, c = '-' ∨ c.isDigit = true :=
    fun _ => eq_minus_or_isDigit
  cases hs : (toString n).toList with
  | nil => rw [hs] at ht; cases ht
  | cons c cs =>
    rw [hs] at ht hm
    have hc : Scan.start c = some (.number [c], []) := by
      rcases hm c List.mem_cons_self with rfl | hd
      · rfl
      · exact start_of_isDigit hd
    have hcs : ∀ d ∈ cs, isNumberChar d = true := by
      intro d hd
      rcases hm d (List.mem_cons_of_mem _ hd) with rfl | hd
      · rfl
      · simp [isNumberChar, hd]
    have hr : numberToken? (c :: cs).reverse.reverse = some (.num (.int n)) := by
      rw [List.reverse_reverse]
      exact ht
    refine Lexed.collected hc (fun d hd read => ?_) ?_ fun d hd => ?_
    · simp only [Scan.step, hcs d hd, if_true]
    · rw [Scan.finish, hr]
      rfl
    · simp only [Scan.step, (h d hd).1, hr]
      cases Scan.start d <;> rfl

end SwapMarket
