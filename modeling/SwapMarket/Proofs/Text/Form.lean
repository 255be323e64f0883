import SwapMarket.Url.Basic

/-!
# Forms are read back

Decoding undoes each of the three encodings of a form. The bytes of a character are decoded to it
(`decode_utf8EncodeChar`), the percent encoding of a byte to the byte (`percentBytes_percentByte`),
and what `formEncode` writes to the text it was given (`formDecode_formEncode`). Since it writes
neither of the characters that part the fields of a form, the fields of **`Url.parameters`** are the
fields it was given (`formFields_parameters`), also after those of a form that was there before
(`Url.fields_withParameters`).
-/

namespace SwapMarket.Text

/-! ## Bytes -/

section Bytes

variable {b v : Nat}

/-- The first byte of two. -/
theorem Utf8.lead_two (hl : 0xC2 ≤ b) (hu : b ≤ 0xDF) :
    lead b = (.inside (b - 0xC0) 1 0x80 0xBF, []) := by
  unfold lead
  rw [if_neg (by omega), if_pos ⟨hl, hu⟩]

/-- The first byte of three. The next one is bounded so that nothing is written longer than it has
to be, and so that no surrogate is written. -/
theorem Utf8.lead_three (hl : 0xE0 ≤ b) (hu : b ≤ 0xEF) :
    lead b = (.inside (b - 0xE0) 2 (if b = 0xE0 then 0xA0 else 0x80)
      (if b = 0xED then 0x9F else 0xBF), []) := by
  unfold lead
  rw [if_neg (by omega), if_neg (by omega)]
  by_cases he : b = 0xE0
  · subst he
    rfl
  by_cases hd : b = 0xED
  · subst hd
    rfl
  · rw [if_neg he, if_neg hd, if_pos ⟨by omega, hu⟩, if_neg he, if_neg hd]

/-- The first byte of four. The next one is bounded so that nothing is written longer than it has
to be, and so that the number is that of a character. -/
theorem Utf8.lead_four (hl : 0xF0 ≤ b) (hu : b ≤ 0xF4) :
    lead b = (.inside (b - 0xF0) 3 (if b = 0xF0 then 0x90 else 0x80)
      (if b = 0xF4 then 0x8F else 0xBF), []) := by
  unfold lead
  rw [if_neg (by omega), if_neg (by omega), if_neg (by omega), if_neg (by omega),
    if_neg (by omega)]
  by_cases he : b = 0xF0
  · subst he
    rfl
  by_cases hf : b = 0xF4
  · subst hf
    rfl
  · rw [if_neg he, if_neg hf, if_pos ⟨by omega, by omega⟩, if_neg he, if_neg hf]

variable {bits low high : Nat}

/-- The last byte of a character. -/
theorem Utf8.decode_last (hl : low ≤ b) (hu : b ≤ high) (hb : b < 256) (bs : List UInt8) :
    decode (.inside bits 1 low high) (.ofNat b :: bs)
      = .ofNat (bits * 64 + (b - 0x80)) :: decode .between bs := by
  rw [decode, UInt8.toNat_ofNat_of_lt' hb]
  simp [step, hl, hu]

/-- A byte before the last one of a character. -/
theorem Utf8.decode_more (hl : low ≤ b) (hu : b ≤ high) (hb : b < 256) (todo : Nat)
    (bs : List UInt8) :
    decode (.inside bits (todo + 2) low high) (.ofNat b :: bs)
      = decode (.inside (bits * 64 + (b - 0x80)) (todo + 1) 0x80 0xBF) bs := by
  rw [decode, UInt8.toNat_ofNat_of_lt' hb]
  simp [step, hl, hu]

/-- Between two characters a byte is the first of the next one. -/
theorem Utf8.decode_lead (hb : b < 256) (bs : List UInt8) :
    decode .between (.ofNat b :: bs) = (lead b).2 ++ decode (lead b).1 bs := by
  rw [decode, UInt8.toNat_ofNat_of_lt' hb]
  rfl

/-- The numbers of characters leave out the surrogates. -/
theorem toNat_bounds (c : Char) : c.toNat < 0xD800 ∨ 0xE000 ≤ c.toNat ∧ c.toNat ≤ 0x10FFFF := by
  have h := c.valid
  unfold UInt32.isValidChar Nat.isValidChar at h
  rw [Char.toNat_val] at h
  omega

open Utf8 in
/-- The bytes of a character are decoded to it, whatever follows. -/
theorem decode_utf8EncodeChar (c : Char) (bs : List UInt8) :
    decode .between (String.utf8EncodeChar c ++ bs) = c :: decode .between bs := by
  have hc := toNat_bounds c
  have hchar : ∀ n, n = c.toNat → Char.ofNat n = c := fun n h => h ▸ Char.ofNat_toNat c
  unfold String.utf8EncodeChar
  simp only [Char.toNat_val]
  split
  · next h1 =>
    rw [List.singleton_append, decode_lead (by omega)]
    unfold lead
    rw [if_pos (by omega), Char.ofNat_toNat]
    rfl
  · split
    · next h2 =>
      rw [List.cons_append, decode_lead (by omega), lead_two (by omega) (by omega)]
      rw [List.nil_append, List.singleton_append, decode_last (by omega) (by omega) (by omega)]
      rw [hchar _ (by omega)]
    · split
      · next h3 =>
        rw [List.cons_append, decode_lead (by omega), lead_three (by omega) (by omega)]
        rw [List.nil_append, List.cons_append, decode_more (by split <;> omega)
          (by split <;> omega) (by omega), List.singleton_append,
          decode_last (by omega) (by omega) (by omega)]
        rw [hchar _ (by omega)]
      · next h4 =>
        rw [List.cons_append, decode_lead (by omega), lead_four (by omega) (by omega)]
        rw [List.nil_append, List.cons_append, decode_more (by split <;> omega)
          (by split <;> omega) (by omega), List.cons_append,
          decode_more (by omega) (by omega) (by omega), List.singleton_append,
          decode_last (by omega) (by omega) (by omega)]
        rw [hchar _ (by omega)]

/-- The bytes of a text are decoded to it. -/
theorem ofUtf8Lossy_utf8 (s : String) : ofUtf8Lossy (utf8 s) = s := by
  have hdecode : ∀ cs : List Char,
      Utf8.decode .between (cs.flatMap String.utf8EncodeChar) = cs := by
    intro cs
    induction cs with
    | nil => rfl
    | cons c cs ih => rw [List.flatMap_cons, decode_utf8EncodeChar, ih]
  unfold ofUtf8Lossy utf8
  rw [hdecode, String.ofList_toList]

end Bytes

/-! ## Percent encodings -/

section Percent

variable {c : Char} {r : List Char}

/-- A digit is read as its value. -/
theorem digitValue_hexDigit {n : Nat} (h : n < 16) : digitValue 16 (hexDigit n) = some n := by
  revert n
  decide

/-- The percent encoding of a byte is undone. -/
theorem percentBytes_percentByte (b : UInt8) (r : List Char) :
    percentBytes (fun _ => false) (percentByte b ++ r) = b :: percentBytes (fun _ => false) r := by
  have hb : b.toNat < 256 := b.toNat_lt
  have hvalue : b.toNat / 16 * 16 + b.toNat % 16 = b.toNat := by omega
  have hhigh := digitValue_hexDigit (n := b.toNat / 16) (by omega)
  have hlow := digitValue_hexDigit (n := b.toNat % 16) (by omega)
  show percentBytes _ ('%' :: hexDigit (b.toNat / 16) :: hexDigit (b.toNat % 16) :: r) = _
  rw [percentBytes]
  simp only [hhigh, hlow, Bool.false_eq_true, if_false, hvalue, UInt8.ofNat_toNat]

/-- The percent encodings of bytes are undone. -/
theorem percentBytes_flatMap_percentByte (bs : List UInt8) (r : List Char) :
    percentBytes (fun _ => false) (bs.flatMap percentByte ++ r)
      = bs ++ percentBytes (fun _ => false) r := by
  induction bs with
  | nil => rfl
  | cons b bs ih =>
    rw [List.flatMap_cons, List.append_assoc, percentBytes_percentByte, ih, List.cons_append]

/-- A character other than a percent sign stands for itself. -/
theorem percentBytes_cons (h : c ≠ '%') (r : List Char) :
    percentBytes (fun _ => false) (c :: r)
      = String.utf8EncodeChar c ++ percentBytes (fun _ => false) r := by
  rw [percentBytes]
  rintro a b r rfl
  exact absurd rfl h

end Percent

/-! ## Names and values -/

section Values

variable {c d : Char} {s : String}

/-- What a form writes for a character. -/
def formChars (c : Char) : List Char :=
  if c = ' ' then ['+'] else percentEncodeChars (fun c => !isFormChar c) [c]

/-- The character for which a character of a form stands, percent encodings apart. -/
def plusRead (c : Char) : Char := if c = '+' then ' ' else c

/-- A form writes character by character. -/
theorem toList_formEncode (s : String) : (formEncode s).toList = s.toList.flatMap formChars :=
  String.toList_ofList

/-- A percent encoding has a percent sign and digits. -/
theorem mem_percentByte {b : UInt8} (h : d ∈ percentByte b) : d = '%' ∨ isFormChar d = true := by
  have hdigit : ∀ n < 16, isFormChar (hexDigit n) = true := by decide
  have hb : b.toNat < 256 := b.toNat_lt
  simp only [percentByte, List.mem_cons, List.not_mem_nil, or_false] at h
  rcases h with rfl | rfl | rfl
  · exact .inl rfl
  · exact .inr (hdigit _ (by omega))
  · exact .inr (hdigit _ (by omega))

/-- A form writes a character as itself or as the encodings of its bytes. -/
theorem formChars_cases (c : Char) :
    c = ' ' ∧ formChars c = ['+'] ∨
      formChars c = (String.utf8EncodeChar c).flatMap percentByte ∨
      isFormChar c = true ∧ formChars c = [c] := by
  unfold formChars percentEncodeChars
  split
  · next h => exact .inl ⟨h, rfl⟩
  · rw [List.flatMap_cons, List.flatMap_nil, List.append_nil]
    cases hf : isFormChar c with
    | false => exact .inr (.inl (if_pos (by simp [hf])))
    | true =>
      split
      · exact .inr (.inl rfl)
      · exact .inr (.inr ⟨rfl, rfl⟩)

/-- A form writes plus signs, percent signs and characters that stand for themselves. -/
theorem mem_formChars (h : d ∈ formChars c) : d = '+' ∨ d = '%' ∨ isFormChar d = true := by
  rcases formChars_cases c with ⟨-, hc⟩ | hc | ⟨hf, hc⟩
  · exact .inl (List.mem_singleton.1 (hc ▸ h))
  · rw [hc, List.mem_flatMap] at h
    obtain ⟨b, -, hb⟩ := h
    exact .inr (mem_percentByte hb)
  · obtain rfl := List.mem_singleton.1 (hc ▸ h)
    exact .inr (.inr hf)

/-- A character that parts the fields of a form is not written in a name or a value. -/
theorem not_mem_formEncode (s : String) : '&' ∉ (formEncode s).toList ∧
    '=' ∉ (formEncode s).toList := by
  rw [toList_formEncode]
  constructor
  all_goals
    intro h
    obtain ⟨c, -, hc⟩ := List.mem_flatMap.1 h
    exact absurd (mem_formChars hc) (by decide)

/-- Undoing what a form writes for a character gives its bytes. -/
theorem percentBytes_formChars (c : Char) (r : List Char) :
    percentBytes (fun _ => false) ((formChars c ++ r).map plusRead)
      = String.utf8EncodeChar c ++ percentBytes (fun _ => false) (r.map plusRead) := by
  rw [List.map_append]
  rcases formChars_cases c with ⟨rfl, hc⟩ | hc | ⟨hf, hc⟩
  · rw [hc]
    exact percentBytes_cons (by decide) _
  · -- no plus sign is among the percent signs and digits
    have hsame : ∀ d ∈ (String.utf8EncodeChar c).flatMap percentByte, plusRead d = id d := by
      intro d hd
      obtain ⟨b, -, hb⟩ := List.mem_flatMap.1 hd
      have hplus : d ≠ '+' := by
        rintro rfl
        exact absurd (mem_percentByte hb) (by decide)
      exact if_neg hplus
    rw [hc, List.map_congr_left hsame, List.map_id, percentBytes_flatMap_percentByte]
  · have hplus : c ≠ '+' := by
      rintro rfl
      exact absurd hf (by decide)
    have hpercent : c ≠ '%' := by
      rintro rfl
      exact absurd hf (by decide)
    rw [hc, List.map_singleton, List.singleton_append, plusRead, if_neg hplus,
      percentBytes_cons hpercent]

/-- A name or a value of a form is read as it was given. -/
theorem formDecode_formEncode (s : String) : formDecode (formEncode s) = s := by
  have hbytes : ∀ cs : List Char,
      percentBytes (fun _ => false) ((cs.flatMap formChars).map plusRead)
        = cs.flatMap String.utf8EncodeChar := by
    intro cs
    induction cs with
    | nil => simp only [List.flatMap_nil, List.map_nil, percentBytes]
    | cons c cs ih => rw [List.flatMap_cons, percentBytes_formChars, ih, List.flatMap_cons]
  show percentDecode (.ofList ((formEncode s).toList.map plusRead)) = s
  unfold percentDecode
  rw [String.toList_ofList, toList_formEncode, hbytes]
  exact ofUtf8Lossy_utf8 s

end Values

/-! ## Fields -/

section Fields

variable {s : String}

/-- A field as a form writes it. -/
def fieldText (f : String × String) : String := formEncode f.1 ++ "=" ++ formEncode f.2

/-- A field as it is read. -/
def readField (p : String) : String × String :=
  match cut '=' p with
  | some (k, v) => (formDecode k, formDecode v)
  | none => (formDecode p, "")

theorem formFields_eq (s : String) :
    formFields s = ((pieces '&' s).filter (· ≠ "")).map readField := rfl

/-- A field is written as its name and its value, with an equals sign between them. -/
theorem toList_fieldText (f : String × String) :
    (fieldText f).toList = (formEncode f.1).toList ++ '=' :: (formEncode f.2).toList := by
  simp [fieldText]

/-- A field is read as it was written. -/
theorem readField_fieldText (f : String × String) : readField (fieldText f) = f := by
  have hcut : cut '=' (fieldText f) = some (formEncode f.1, formEncode f.2) := by
    have hchars := cutChars_eq_some_iff.2 ⟨toList_fieldText f, (not_mem_formEncode f.1).2⟩
    unfold cut
    rw [hchars, Option.map_some, String.ofList_toList, String.ofList_toList]
  unfold readField
  rw [hcut]
  simp only [formDecode_formEncode]

/-- No field is written as nothing. -/
theorem fieldText_ne_empty (f : String × String) : fieldText f ≠ "" := by
  intro h
  have hlist := toList_fieldText f
  rw [h] at hlist
  simp at hlist

/-- Texts without a character are the pieces between its occurrences where they are joined by it. -/
theorem pieces_intercalate {c : Char} {comma : String} {ps : List String}
    (hc : comma.toList = [c]) (h : ∀ p ∈ ps, c ∉ p.toList) (hne : ps ≠ []) :
    pieces c (comma.intercalate ps) = ps := by
  have hlists : ∀ l ∈ ps.map String.toList, c ∉ l := by
    simpa only [List.forall_mem_map] using h
  unfold pieces
  rw [String.toList_intercalate, hc, List.splitOn_intercalate c hlists (by simpa using hne),
    List.map_map]
  simp

/-- The fields of a form are those that were written. -/
theorem formFields_parameters (fs : List (String × String)) :
    formFields (Url.parameters fs) = fs := by
  by_cases hne : fs = []
  · subst hne
    rfl
  have hparted : ∀ p ∈ fs.map fieldText, '&' ∉ p.toList := by
    rw [List.forall_mem_map]
    intro f _ h
    rw [toList_fieldText, List.mem_append, List.mem_cons] at h
    rcases h with h | h | h
    · exact (not_mem_formEncode _).1 h
    · exact absurd h (by decide)
    · exact (not_mem_formEncode _).1 h
  have hpieces : pieces '&' (Url.parameters fs) = fs.map fieldText :=
    pieces_intercalate (by decide) hparted (by simpa using hne)
  have hwritten : ∀ p ∈ fs.map fieldText, decide (p ≠ "") = true := by
    intro p hp
    obtain ⟨f, -, rfl⟩ := List.mem_map.1 hp
    exact decide_eq_true (fieldText_ne_empty f)
  have hkept : (fs.map fieldText).filter (· ≠ "") = fs.map fieldText :=
    List.filter_eq_self.2 hwritten
  have hread : readField ∘ fieldText = id := by
    funext f
    rw [Function.comp_apply, readField_fieldText, id_eq]
  rw [formFields_eq, hpieces, hkept, List.map_map, hread, List.map_id]

/-- A form after another one has the fields of both. -/
theorem formFields_append (s t : String) :
    formFields (s ++ "&" ++ t) = formFields s ++ formFields t := by
  have hpieces : pieces '&' (s ++ "&" ++ t) = pieces '&' s ++ pieces '&' t := by
    have hlist : (s ++ "&" ++ t).toList = s.toList ++ '&' :: t.toList := by simp
    unfold pieces
    rw [hlist, List.splitOn_append_cons_self, List.map_append]
  rw [formFields_eq, hpieces, List.filter_append, List.map_append, ← formFields_eq,
    ← formFields_eq]

end Fields

end SwapMarket.Text

namespace SwapMarket.Url

/-- The fields of the query of an address. -/
def fields (u : Url) : List (String × String) := Text.formFields (u.query.getD "")

/-- Fields are added after those that an address has. -/
theorem fields_withParameters (u : Url) (fs : List (String × String)) :
    (u.withParameters fs).fields = u.fields ++ fs := by
  unfold fields withParameters
  match u.query with
  | none => exact Text.formFields_parameters fs
  | some q =>
    by_cases hq : q = ""
    · subst hq
      exact Text.formFields_parameters fs
    · simp only [Option.getD_some]
      rw [Text.formFields_append, Text.formFields_parameters]

end SwapMarket.Url
