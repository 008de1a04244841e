import Mathlib
import WfPublisher.CJson.Syntax

/-!
# `cJSON_Parse` accepts every JSON text

Each function of the parser reads a text of the grammar to its end and gives the
item the text denotes, whatever follows the text.
-/

namespace WfPublisher.Syntax

open CJson

-- ---------------------------------------------------------------------------
-- White space
-- ---------------------------------------------------------------------------

theorem bufferSkipWhitespace_white {space : CString} (h : White space) (rest : CString) :
    bufferSkipWhitespace (space ++ rest) = bufferSkipWhitespace rest := by
  refine List.dropWhile_append_of_pos fun c hc => ?_
  obtain rfl | rfl | rfl | rfl := h c hc <;> decide

theorem bufferSkipWhitespace_cons {c : Char} (h : 32 < c.toNat) (rest : CString) :
    bufferSkipWhitespace (c :: rest) = c :: rest :=
  List.dropWhile_cons_of_neg (by simpa using h)

-- ---------------------------------------------------------------------------
-- Hexadecimal digits
-- ---------------------------------------------------------------------------

theorem hexDigit_hexChars {digit : ℕ} (h : digit < 16) {c : Char} (hc : c ∈ hexChars digit) :
    hexDigit c = some digit ∧ c ≠ '"' ∧ c ≠ '\\' := by
  simp only [hexChars, List.mem_cons, List.not_mem_nil, or_false] at hc
  obtain rfl | rfl := hc <;> interval_cases digit <;> decide

theorem SpellsHex.cases {n : ℕ} {hex : CString} (h : SpellsHex n hex) :
    ∃ a b c d, hex = [a, b, c, d] ∧ a ∈ hexChars (n / 4096) ∧ b ∈ hexChars (n / 256 % 16) ∧
      c ∈ hexChars (n / 16 % 16) ∧ d ∈ hexChars (n % 16) := by
  obtain ⟨-, h⟩ := h
  cases h with
  | cons ha h =>
    cases h with
    | cons hb h =>
      cases h with
      | cons hc h =>
        cases h with
        | cons hd h =>
          cases h
          exact ⟨_, _, _, _, rfl, ha, hb, hc, hd⟩

theorem parseHex4_spells {n : ℕ} {hex : CString} (h : SpellsHex n hex) (rest : CString) :
    parseHex4 (hex ++ rest) = n := by
  have hn := h.1
  obtain ⟨a, b, c, d, rfl, ha, hb, hc, hd⟩ := h.cases
  have ha := (hexDigit_hexChars (by omega) ha).1
  have hb := (hexDigit_hexChars (by omega) hb).1
  have hc := (hexDigit_hexChars (by omega) hc).1
  have hd := (hexDigit_hexChars (by omega) hd).1
  have hdigits : (([a, b, c, d] ++ rest).take 4).mapM hexDigit =
      some [n / 4096, n / 256 % 16, n / 16 % 16, n % 16] := by
    simp [ha, hb, hc, hd]
  rw [parseHex4, hdigits]
  simp only [List.reverse_cons, List.reverse_nil, List.nil_append, List.cons_append,
    Nat.ofDigits_cons, Nat.ofDigits_nil]
  omega

theorem SpellsHex.length {n : ℕ} {hex : CString} (h : SpellsHex n hex) : hex.length = 4 :=
  h.2.length_eq

theorem SpellsHex.not_mem {n : ℕ} {hex : CString} (h : SpellsHex n hex) :
    ∀ c ∈ hex, c ≠ '"' ∧ c ≠ '\\' := by
  have hn := h.1
  obtain ⟨a, b, c, d, rfl, ha, hb, hc, hd⟩ := h.cases
  intro x hx
  simp only [List.mem_cons, List.not_mem_nil, or_false] at hx
  obtain rfl | rfl | rfl | rfl := hx
  · exact (hexDigit_hexChars (by omega) ha).2
  · exact (hexDigit_hexChars (by omega) hb).2
  · exact (hexDigit_hexChars (by omega) hc).2
  · exact (hexDigit_hexChars (by omega) hd).2

-- ---------------------------------------------------------------------------
-- UTF-8
-- ---------------------------------------------------------------------------

theorem utf8Bytes_toNat (c : Char) :
    utf8Bytes c.toNat = (String.utf8EncodeChar c).map UInt8.toNat := by
  have hvalid : c.toNat < 0xD800 ∨ 0xDFFF < c.toNat ∧ c.toNat < 0x110000 := c.valid
  have hval : c.val.toNat = c.toNat := rfl
  simp only [utf8Bytes, String.utf8EncodeChar, hval]
  split_ifs <;> first
    | omega
    | simp only [List.map_cons, List.map_nil, UInt8.toNat_ofNat', List.cons.injEq, and_true]
      omega

theorem map_utf8Bytes (c : Char) : (utf8Bytes c.toNat).map Char.ofNat = utf8 c := by
  rw [utf8Bytes_toNat, List.map_map]
  rfl

theorem utf16_unicode {c : Char} {hex : CString} (h : SpellsHex c.toNat hex) (rest : CString) :
    utf16LiteralToUtf8 ('\\' :: 'u' :: (hex ++ rest)) = some (utf8 c, 6) := by
  have hvalid : c.toNat < 0xD800 ∨ 0xDFFF < c.toNat ∧ c.toNat < 0x110000 := c.valid
  have hdrop : ('\\' :: 'u' :: (hex ++ rest)).drop 2 = hex ++ rest := rfl
  have hlength : ¬('\\' :: 'u' :: (hex ++ rest)).length < 6 := by
    rw [List.length_cons, List.length_cons, List.length_append, h.length]
    omega
  rw [utf16LiteralToUtf8, if_neg hlength, hdrop, parseHex4_spells h, if_neg (by omega),
    if_neg (by omega), map_utf8Bytes]

theorem utf16_surrogates {c : Char} {high low : CString} (hc : 0x10000 ≤ c.toNat)
    (hhigh : SpellsHex (0xD800 + (c.toNat - 0x10000) / 1024) high)
    (hlow : SpellsHex (0xDC00 + (c.toNat - 0x10000) % 1024) low) (rest : CString) :
    utf16LiteralToUtf8 ('\\' :: 'u' :: (high ++ '\\' :: 'u' :: (low ++ rest))) =
      some (utf8 c, 12) := by
  have hvalid : c.toNat < 0xD800 ∨ 0xDFFF < c.toNat ∧ c.toNat < 0x110000 := c.valid
  have hfirst : ('\\' :: 'u' :: (high ++ '\\' :: 'u' :: (low ++ rest))).drop 2 =
      high ++ '\\' :: 'u' :: (low ++ rest) := rfl
  have hsecond : ('\\' :: 'u' :: (high ++ '\\' :: 'u' :: (low ++ rest))).drop 6 =
      '\\' :: 'u' :: (low ++ rest) := by
    rw [show 6 = 2 + 4 from rfl, ← List.drop_drop, hfirst, ← hhigh.length, List.drop_left]
  have hlength : ¬('\\' :: 'u' :: (high ++ '\\' :: 'u' :: (low ++ rest))).length < 6 := by
    rw [List.length_cons, List.length_cons, List.length_append, hhigh.length]
    omega
  have hlength' : ¬('\\' :: 'u' :: (low ++ rest)).length < 6 := by
    rw [List.length_cons, List.length_cons, List.length_append, hlow.length]
    omega
  have hcode : 0x10000 + ((0xD800 + (c.toNat - 0x10000) / 1024) % 1024 * 1024 +
      (0xDC00 + (c.toNat - 0x10000) % 1024) % 1024) = c.toNat := by omega
  have hsecondHex : ('\\' :: 'u' :: (low ++ rest)).drop 2 = low ++ rest := rfl
  rw [utf16LiteralToUtf8, if_neg hlength, hfirst, parseHex4_spells hhigh, if_neg (by omega),
    if_pos (by omega), hsecond, if_neg hlength', if_neg (by simp), hsecondHex,
    parseHex4_spells hlow, if_neg (by omega), hcode]
  simp only [map_utf8Bytes]

-- ---------------------------------------------------------------------------
-- Strings
-- ---------------------------------------------------------------------------

theorem scanString_plain {c : Char} (hquote : c ≠ '"') (hbackslash : c ≠ '\\') (rest : CString) :
    scanString (c :: rest) =
      (scanString rest).map fun (raw, after) => (c :: raw, after) := by
  rw [scanString]
  · exact hquote
  · intro c' rest' h
    exact absurd h hbackslash

theorem scanString_escape (c : Char) (rest : CString) :
    scanString ('\\' :: c :: rest) =
      (scanString rest).map fun (raw, after) => ('\\' :: c :: raw, after) := by
  rw [scanString]

theorem scanString_plains {text : CString} (h : ∀ c ∈ text, c ≠ '"' ∧ c ≠ '\\') (rest : CString) :
    scanString (text ++ rest) =
      (scanString rest).map fun (raw, after) => (text ++ raw, after) := by
  induction text with
  | nil => simp
  | cons c text ih =>
    obtain ⟨hquote, hbackslash⟩ := h c List.mem_cons_self
    rw [List.cons_append, scanString_plain hquote hbackslash,
      ih fun d hd => h d (List.mem_cons_of_mem c hd), Option.map_map]
    rfl

theorem SpellsChar.scanString {bytes text : CString} (h : SpellsChar bytes text) (rest : CString) :
    scanString (text ++ rest) =
      (scanString rest).map fun (raw, after) => (text ++ raw, after) := by
  cases h with
  | plain c _ hquote hbackslash => exact scanString_plain hquote hbackslash rest
  | letter letter c _ => exact scanString_escape letter rest
  | unicode c hex hhex =>
    rw [List.cons_append, List.cons_append, scanString_escape, scanString_plains hhex.not_mem,
      Option.map_map]
    rfl
  | surrogates c high low _ hhigh hlow =>
    rw [List.cons_append, List.cons_append, List.append_assoc, List.cons_append, List.cons_append,
      scanString_escape, scanString_plains hhigh.not_mem, scanString_escape,
      scanString_plains hlow.not_mem, Option.map_map, Option.map_map, Option.map_map]
    congr 1
    funext r
    simp

theorem SpellsChars.scanString {bytes text : CString} (h : SpellsChars bytes text)
    (rest : CString) : scanString (text ++ '"' :: rest) = some (text, rest) := by
  induction h with
  | nil => rw [List.nil_append, WfPublisher.scanString]
  | cons hchar _ ih => rw [List.append_assoc, hchar.scanString, ih, Option.map_some]

theorem SpellsChar.unescape {bytes text : CString} (h : SpellsChar bytes text) (n : ℕ)
    (rest : CString) :
    unescape (n + 1) (text ++ rest) = (unescape n rest).map (bytes ++ ·) := by
  cases h with
  | plain c _ _ hbackslash =>
    rw [List.singleton_append, WfPublisher.unescape]
    · rfl
    · exact hbackslash
  | letter letter c h =>
    simp only [escapeLetters, List.mem_cons, Prod.mk.injEq, List.not_mem_nil, or_false] at h
    obtain ⟨rfl, rfl⟩ | ⟨rfl, rfl⟩ | ⟨rfl, rfl⟩ | ⟨rfl, rfl⟩ | ⟨rfl, rfl⟩ | ⟨rfl, rfl⟩ |
      ⟨rfl, rfl⟩ | ⟨rfl, rfl⟩ := h <;> rfl
  | unicode c hex hhex =>
    have hdrop : ('\\' :: 'u' :: (hex ++ rest)).drop 6 = rest := by
      rw [show 6 = 2 + hex.length by rw [hhex.length], ← List.drop_drop]
      exact List.drop_left
    rw [List.cons_append, List.cons_append, WfPublisher.unescape]
    simp only [utf16_unicode hhex, hdrop]
  | surrogates c high low hc hhigh hlow =>
    have hdrop : ('\\' :: 'u' :: (high ++ '\\' :: 'u' :: (low ++ rest))).drop 12 = rest := by
      rw [show 12 = 2 + (high.length + (2 + low.length)) by rw [hhigh.length, hlow.length],
        ← List.drop_drop, ← List.drop_drop, ← List.drop_drop]
      change List.drop low.length (List.drop 2 (List.drop high.length (high ++ _))) = rest
      rw [List.drop_left]
      exact List.drop_left
    rw [List.cons_append, List.cons_append, List.append_assoc, List.cons_append, List.cons_append,
      WfPublisher.unescape]
    simp only [utf16_surrogates hc hhigh hlow, hdrop]

theorem SpellsChar.length_pos {bytes text : CString} (h : SpellsChar bytes text) :
    0 < text.length := by
  cases h <;> simp

theorem SpellsChars.unescape {bytes text : CString} (h : SpellsChars bytes text) :
    ∀ n, text.length ≤ n → unescape n text = some bytes := by
  induction h with
  | nil =>
    rintro (_ | n) - <;> rfl
  | cons hchar _ ih =>
    intro n hn
    have hpos := hchar.length_pos
    rw [List.length_append] at hn
    obtain ⟨m, rfl⟩ : ∃ m, n = m + 1 := ⟨n - 1, by omega⟩
    rw [hchar.unescape, ih m (by omega), Option.map_some]

theorem SpellsString.parseString {s text : CString} (h : SpellsString s text) (rest : CString) :
    parseString (text ++ rest) = some (s, rest) := by
  cases h with
  | quoted h =>
    rw [List.cons_append, List.append_assoc, List.singleton_append, WfPublisher.parseString,
      h.scanString]
    simp only [Option.bind_eq_bind, Option.bind_some, h.unescape _ le_rfl]
    rfl

-- ---------------------------------------------------------------------------
-- Numbers
-- ---------------------------------------------------------------------------

/-- No character that the predicate accepts comes next. -/
def NoHead (p : Char → Bool) (text : CString) : Prop := ∀ c ∈ text.head?, p c = false

theorem takeWhile_noHead {p : Char → Bool} {text rest : CString} (h : ∀ c ∈ text, p c = true)
    (hrest : NoHead p rest) : (text ++ rest).takeWhile p = text := by
  rw [List.takeWhile_append_of_pos h]
  cases rest with
  | nil => simp
  | cons c rest => rw [List.takeWhile_cons_of_neg (by simpa using hrest c rfl), List.append_nil]

theorem dropWhile_noHead {p : Char → Bool} {text rest : CString} (h : ∀ c ∈ text, p c = true)
    (hrest : NoHead p rest) : (text ++ rest).dropWhile p = rest := by
  rw [List.dropWhile_append_of_pos h]
  cases rest with
  | nil => rfl
  | cons c rest => exact List.dropWhile_cons_of_neg (by simpa using hrest c rfl)

theorem digitsValue_eq (digits : CString) : digitsValue digits = Nat.ofDigitChars 10 digits 0 := by
  induction digits using List.reverseRecOn with
  | nil => rfl
  | append_singleton digits c ih =>
    rw [Nat.ofDigitChars_append, ← ih, digitsValue, List.map_append, List.reverse_append,
      Nat.ofDigitChars_cons, Nat.ofDigitChars_nil]
    simp only [List.map_cons, List.map_nil, List.reverse_cons, List.reverse_nil, List.nil_append,
      List.singleton_append, Nat.ofDigits_cons, digitsValue]
    exact Nat.add_comm _ _

theorem takeSign_digit {c : Char} (h : c.isDigit = true) (rest : CString) :
    takeSign (c :: rest) = (false, c :: rest) := by
  unfold takeSign
  split
  · rename_i hc
    cases hc
    cases h
  · rename_i hc
    cases hc
    cases h
  · rfl

theorem takeExponent_text {e : Decimal.Exponent} (h : e.WellFormed) :
    takeExponent e.text = (e.value, []) := by
  have hdigits : e.digits.takeWhile Char.isDigit = e.digits := by
    simpa using takeWhile_noHead h.isDigit (show NoHead _ [] by simp [NoHead])
  have hrest : e.digits.dropWhile Char.isDigit = [] := by
    simpa using dropWhile_noHead h.isDigit (show NoHead _ [] by simp [NoHead])
  have hsign : takeSign (e.sign ++ e.digits) = (decide (e.sign = ['-']), e.digits) := by
    obtain hsign | hsign | hsign := h.sign
    · obtain ⟨c, rest, hcons⟩ := List.exists_cons_of_ne_nil h.digits_ne_nil
      have hc := h.isDigit c (by rw [hcons]; exact List.mem_cons_self)
      rw [hsign, List.nil_append, hcons, takeSign_digit hc]
      rfl
    · rw [hsign]
      rfl
    · rw [hsign]
      rfl
  have hletter : (if e.capital then 'E' else 'e') = 'e' ∨
      (if e.capital then 'E' else 'e') = 'E' := by
    cases e.capital
    · exact .inl rfl
    · exact .inr rfl
  simp only [Decimal.Exponent.text, takeExponent]
  rw [if_pos hletter, hsign]
  dsimp only
  rw [hdigits, if_neg h.digits_ne_nil, hrest, digitsValue_eq, Decimal.Exponent.value]
  simp only [decide_eq_true_eq]

section
variable {K : Type} [Neg K] [CDouble K] {n : Decimal.Numeral}

theorem takeExponent_exponentText (h : n.WellFormed) :
    takeExponent n.exponentText = (n.exponentValue, []) := by
  unfold Decimal.Numeral.exponentText Decimal.Numeral.exponentValue
  cases he : n.exponent with
  | none => rfl
  | some e => exact takeExponent_text (h.exponent e he)

theorem noHead_exponentText (n : Decimal.Numeral) : NoHead Char.isDigit n.exponentText := by
  unfold Decimal.Numeral.exponentText
  cases n.exponent with
  | none => simp [NoHead]
  | some e =>
    intro c hc
    cases hc
    split <;> rfl

theorem noHead_fractionText (n : Decimal.Numeral) :
    NoHead Char.isDigit (n.fractionText ++ n.exponentText) := by
  unfold Decimal.Numeral.fractionText
  split
  · exact noHead_exponentText n
  · intro c hc
    cases hc
    rfl

theorem exponentText_ne_point (n : Decimal.Numeral) (rest : CString) :
    n.exponentText ≠ '.' :: rest := by
  unfold Decimal.Numeral.exponentText
  cases n.exponent with
  | none => simp
  | some e =>
    intro h
    have hhead := congrArg List.head? h
    simp only [Option.elim, Decimal.Exponent.text, List.head?_cons, Option.some.injEq] at hhead
    split at hhead <;> cases hhead

theorem strtod_text (h : n.WellFormed) : strtod n.text = some ((numberOf n : K), []) := by
  obtain ⟨c, rest, hcons⟩ := List.exists_cons_of_ne_nil h.whole_ne_nil
  have hc := h.whole_isDigit c (by rw [hcons]; exact List.mem_cons_self)
  have hsign : takeSign n.text =
      (n.negative, n.whole ++ (n.fractionText ++ n.exponentText)) := by
    unfold Decimal.Numeral.text Decimal.Numeral.signText
    rw [List.append_assoc, List.append_assoc]
    split
    · rename_i hnegative
      rw [hnegative]
      rfl
    · rename_i hpositive
      rw [eq_false_of_ne_true hpositive, List.nil_append, hcons, List.cons_append,
        takeSign_digit hc]
  have hwhole := takeWhile_noHead h.whole_isDigit (noHead_fractionText n)
  have hrest := dropWhile_noHead h.whole_isDigit (noHead_fractionText n)
  have hnonempty : n.whole ++ n.fraction ≠ [] := fun hnil =>
    h.whole_ne_nil (List.append_eq_nil_iff.mp hnil).1
  have hfinish : ∀ fraction, fraction = n.fraction →
      (if n.whole ++ fraction = [] then none
        else
          let exponent := takeExponent n.exponentText
          let value : K := CDouble.ofDecimal (digitsValue (n.whole ++ fraction))
            (exponent.1 - (fraction.length : ℤ))
          some (if n.negative then -value else value, exponent.2)) = some (numberOf n, []) := by
    rintro fraction rfl
    rw [if_neg hnonempty, takeExponent_exponentText h, digitsValue_eq]
    rfl
  simp only [strtod, hsign, hwhole, hrest]
  obtain hfraction | hfraction := eq_or_ne n.fraction []
  · have hpoint : n.fractionText = [] := if_pos hfraction
    rw [hpoint, List.nil_append]
    split
    · rename_i more hmore
      exact absurd hmore (exponentText_ne_point n more)
    · exact hfinish [] hfraction.symm
  · have hpoint : n.fractionText = '.' :: n.fraction := if_neg hfraction
    have hdigits := takeWhile_noHead h.fraction_isDigit (noHead_exponentText n)
    have hafter := dropWhile_noHead h.fraction_isDigit (noHead_exponentText n)
    simp only [hpoint, List.cons_append, hdigits, hafter]
    exact hfinish _ rfl

theorem isNumberChar_of_isDigit {c : Char} (h : c.isDigit = true) : isNumberChar c = true := by
  simp [isNumberChar, h]

theorem isNumberChar_text (h : n.WellFormed) : ∀ c ∈ n.text, isNumberChar c = true := by
  intro c hc
  simp only [Decimal.Numeral.text, List.mem_append] at hc
  obtain ((hc | hc) | hc) | hc := hc
  · unfold Decimal.Numeral.signText at hc
    split at hc
    · cases List.mem_singleton.mp hc
      rfl
    · cases hc
  · exact isNumberChar_of_isDigit (h.whole_isDigit c hc)
  · unfold Decimal.Numeral.fractionText at hc
    split at hc
    · cases hc
    · obtain rfl | hc := List.mem_cons.mp hc
      · rfl
      · exact isNumberChar_of_isDigit (h.fraction_isDigit c hc)
  · unfold Decimal.Numeral.exponentText at hc
    cases he : n.exponent with
    | none =>
      rw [he] at hc
      cases hc
    | some e =>
      rw [he] at hc
      obtain ⟨hsign, -, hdigit⟩ := h.exponent e he
      obtain rfl | hc := List.mem_cons.mp hc
      · split <;> rfl
      obtain hc | hc := List.mem_append.mp hc
      · obtain hsign | hsign | hsign := hsign <;> rw [hsign] at hc
        · cases hc
        · cases List.mem_singleton.mp hc
          rfl
        · cases List.mem_singleton.mp hc
          rfl
      · exact isNumberChar_of_isDigit (hdigit c hc)

theorem parseNumber_text (h : n.WellFormed) (hlength : n.text.length ≤ 63) {rest : CString}
    (hrest : NoHead isNumberChar rest) :
    parseNumber (n.text ++ rest) = some (.number (numberOf n : K), rest) := by
  have hcopied : ((n.text ++ rest).take 63).takeWhile isNumberChar = n.text := by
    rw [List.take_append, List.take_of_length_le hlength]
    refine takeWhile_noHead (isNumberChar_text h) fun c hc => ?_
    rw [List.head?_take] at hc
    split at hc
    · cases hc
    · exact hrest c hc
  rw [parseNumber]
  simp only [hcopied, strtod_text (K := K) h, Option.bind_eq_bind, Option.bind_some, List.length_nil,
    Nat.sub_zero, List.drop_left]

theorem exists_text_cons (h : n.WellFormed) :
    ∃ c rest, n.text = c :: rest ∧ (c = '-' ∨ c.isDigit = true) := by
  obtain ⟨c, rest, hcons⟩ := List.exists_cons_of_ne_nil h.whole_ne_nil
  have hc := h.whole_isDigit c (by rw [hcons]; exact List.mem_cons_self)
  unfold Decimal.Numeral.text Decimal.Numeral.signText
  split
  · exact ⟨_, _, rfl, .inl rfl⟩
  · rw [hcons]
    exact ⟨_, _, rfl, .inr hc⟩

end

-- ---------------------------------------------------------------------------
-- Values
-- ---------------------------------------------------------------------------

section
variable {K : Type} {value : CString → Option (CJson K × CString)}

/-- The first character of a value is neither white space nor a closing bracket. -/
def Opens (text : CString) : Prop := ∃ c rest, text = c :: rest ∧ 32 < c.toNat ∧ c ≠ ']'

theorem white_nil : White [] := fun _ hc => absurd hc List.not_mem_nil

theorem Opens.skip {text : CString} (h : Opens text) {space : CString} (hspace : White space)
    (rest : CString) : bufferSkipWhitespace (space ++ (text ++ rest)) = text ++ rest := by
  obtain ⟨c, tail, rfl, hc, -⟩ := h
  rw [bufferSkipWhitespace_white hspace]
  exact bufferSkipWhitespace_cons hc _

theorem noHead_white {space : CString} (hspace : White space) {c : Char}
    (hc : isNumberChar c = false) (rest : CString) :
    NoHead isNumberChar (space ++ c :: rest) := by
  cases space with
  | nil =>
    intro d hd
    cases hd
    exact hc
  | cons s space =>
    intro d hd
    cases hd
    obtain rfl | rfl | rfl | rfl := hspace s List.mem_cons_self <;> rfl

/-- What `parse_value` does with an element of an array or the value of a member. -/
structure Readable (value : CString → Option (CJson K × CString)) (e : Element K) : Prop where
  white : e.White
  opens : Opens e.text
  value : ∀ rest, NoHead isNumberChar rest → value (e.text ++ rest) = some (e.item, rest)

theorem Readable.round {e : Element K} (h : Readable value e) {c : Char}
    (hc : isNumberChar c = false) (hblack : 32 < c.toNat) (rest : CString) :
    ∃ after, value (bufferSkipWhitespace (e.spelling ++ c :: rest)) = some (e.item, after) ∧
      bufferSkipWhitespace after = c :: rest := by
  refine ⟨e.after ++ c :: rest, ?_, ?_⟩
  · rw [Element.spelling, List.append_assoc, List.append_assoc, h.opens.skip h.white.1]
    exact h.value _ (noHead_white h.white.2 hc rest)
  · rw [bufferSkipWhitespace_white h.white.2]
    exact bufferSkipWhitespace_cons hblack rest

theorem parseElements_separated (rest : CString) (es : List (Element K)) :
    ∀ e fuel, Readable value e → (∀ e ∈ es, Readable value e) → es.length < fuel →
      parseElements value fuel
          (e.spelling ++ ((es.map Element.spelling).flatMap (',' :: ·) ++ ']' :: rest)) =
        some (e.item :: es.map Element.item, rest) := by
  induction es with
  | nil =>
    intro e fuel he _ hfuel
    obtain ⟨fuel, rfl⟩ : ∃ n, fuel = n + 1 := ⟨fuel - 1, by omega⟩
    obtain ⟨after, hvalue, hafter⟩ := he.round (c := ']') rfl (by decide) rest
    simp only [List.map_nil, List.flatMap_nil, List.nil_append, parseElements, hvalue,
      Option.bind_eq_bind, Option.bind_some, hafter]
  | cons next es ih =>
    intro e fuel he hes hfuel
    obtain ⟨fuel, rfl⟩ : ∃ n, fuel = n + 1 := ⟨fuel - 1, by omega⟩
    have hnext := ih next fuel (hes next List.mem_cons_self)
      (fun e h => hes e (List.mem_cons_of_mem next h)) (by simpa using hfuel)
    obtain ⟨after, hvalue, hafter⟩ := he.round (c := ',') rfl (by decide)
      (next.spelling ++ ((es.map Element.spelling).flatMap (',' :: ·) ++ ']' :: rest))
    simp only [List.map_cons, List.flatMap_cons, List.cons_append, List.append_assoc,
      parseElements, hvalue, Option.bind_eq_bind, Option.bind_some, hafter, hnext, Option.map_some]

theorem length_le_flatMap_commas (texts : List CString) :
    texts.length ≤ (texts.flatMap (',' :: ·)).length := by
  induction texts with
  | nil => exact le_rfl
  | cons text texts ih =>
    rw [List.flatMap_cons, List.length_append, List.length_cons, List.length_cons]
    omega

theorem parseArray_separated {elements : List (Element K)} (hne : elements ≠ [])
    (h : ∀ e ∈ elements, Readable value e) (rest : CString) :
    parseArray value (separated (elements.map Element.spelling) ++ ']' :: rest) =
      some (.array (elements.map Element.item), rest) := by
  obtain ⟨e, es, rfl⟩ := List.exists_cons_of_ne_nil hne
  have he := h e List.mem_cons_self
  -- the white space in front of the first element is gone before the loop
  have hskip : bufferSkipWhitespace (separated ((e :: es).map Element.spelling) ++ ']' :: rest) =
      ({ e with before := [] } : Element K).spelling ++
        ((es.map Element.spelling).flatMap (',' :: ·) ++ ']' :: rest) := by
    simp only [List.map_cons, separated, Element.spelling, List.append_assoc, List.nil_append]
    exact he.opens.skip he.white.1 _
  have hloop := parseElements_separated rest es { e with before := [] }
    (({ e with before := [] } : Element K).spelling ++
      ((es.map Element.spelling).flatMap (',' :: ·) ++ ']' :: rest)).length
    ⟨⟨fun _ hc => absurd hc List.not_mem_nil, he.white.2⟩, he.opens, he.value⟩
    (fun e h' => h e (List.mem_cons_of_mem _ h')) (by
      have := length_le_flatMap_commas (es.map Element.spelling)
      rw [List.length_map] at this
      simp only [List.length_append, List.length_cons]
      omega)
  unfold parseArray
  rw [hskip]
  split
  · rename_i heq
    obtain ⟨c, tail, htext, -, hc⟩ := he.opens
    simp only [Element.spelling, htext, List.nil_append, List.cons_append, List.cons.injEq] at heq
    exact absurd heq.1 hc
  · rw [hloop]
    rfl

structure ReadableMember (value : CString → Option (CJson K × CString)) (m : Member K) : Prop where
  white : m.White
  name : SpellsString m.name m.nameText
  value : Readable value m.value

theorem SpellsString.exists_quote {s text : CString} (h : SpellsString s text) :
    ∃ rest, text = '"' :: rest := by
  cases h with
  | quoted => exact ⟨_, rfl⟩

theorem opens_string {s text : CString} (h : SpellsString s text) : Opens text := by
  obtain ⟨rest, rfl⟩ := h.exists_quote
  exact ⟨_, _, rfl, by decide, by decide⟩

theorem ReadableMember.round {m : Member K} (h : ReadableMember value m) {c : Char}
    (hc : isNumberChar c = false) (hblack : 32 < c.toNat) (rest : CString) :
    ∃ afterName after,
      parseString (bufferSkipWhitespace (m.spelling ++ c :: rest)) = some (m.name, afterName) ∧
      bufferSkipWhitespace afterName = ':' :: (m.value.spelling ++ c :: rest) ∧
      value (bufferSkipWhitespace (m.value.spelling ++ c :: rest)) = some (m.value.item, after) ∧
      bufferSkipWhitespace after = c :: rest := by
  obtain ⟨after, hvalue, hafter⟩ := h.value.round hc hblack rest
  refine ⟨m.afterName ++ ':' :: (m.value.spelling ++ c :: rest), after, ?_, ?_, hvalue, hafter⟩
  · simp only [Member.spelling, List.append_assoc, List.cons_append]
    rw [(opens_string h.name).skip h.white.1]
    exact h.name.parseString _
  · rw [bufferSkipWhitespace_white h.white.2.1]
    exact bufferSkipWhitespace_cons (by decide) _

theorem parseMembers_separated (rest : CString) (ms : List (Member K)) :
    ∀ m fuel, ReadableMember value m → (∀ m ∈ ms, ReadableMember value m) → ms.length < fuel →
      parseMembers value fuel
          (m.spelling ++ ((ms.map Member.spelling).flatMap (',' :: ·) ++ '}' :: rest)) =
        some ((m.name, m.value.item) :: ms.map fun m => (m.name, m.value.item), rest) := by
  induction ms with
  | nil =>
    intro m fuel hm _ hfuel
    obtain ⟨fuel, rfl⟩ : ∃ n, fuel = n + 1 := ⟨fuel - 1, by omega⟩
    obtain ⟨afterName, after, hname, hcolon, hvalue, hafter⟩ :=
      hm.round (c := '}') rfl (by decide) rest
    simp only [List.map_nil, List.flatMap_nil, List.nil_append, parseMembers, hname, hcolon, hvalue,
      Option.bind_eq_bind, Option.bind_some, hafter]
  | cons next ms ih =>
    intro m fuel hm hms hfuel
    obtain ⟨fuel, rfl⟩ : ∃ n, fuel = n + 1 := ⟨fuel - 1, by omega⟩
    have hnext := ih next fuel (hms next List.mem_cons_self)
      (fun m h => hms m (List.mem_cons_of_mem next h)) (by simpa using hfuel)
    obtain ⟨afterName, after, hname, hcolon, hvalue, hafter⟩ :=
      hm.round (c := ',') rfl (by decide)
        (next.spelling ++ ((ms.map Member.spelling).flatMap (',' :: ·) ++ '}' :: rest))
    simp only [List.map_cons, List.flatMap_cons, List.cons_append, List.append_assoc,
      parseMembers, hname, hcolon, hvalue, Option.bind_eq_bind, Option.bind_some, hafter, hnext,
      Option.map_some]

theorem parseObject_separated {members : List (Member K)} (hne : members ≠ [])
    (h : ∀ m ∈ members, ReadableMember value m) (rest : CString) :
    parseObject value (separated (members.map Member.spelling) ++ '}' :: rest) =
      some (.object (members.map fun m => (m.name, m.value.item)), rest) := by
  obtain ⟨m, ms, rfl⟩ := List.exists_cons_of_ne_nil hne
  have hm := h m List.mem_cons_self
  have hskip : bufferSkipWhitespace (separated ((m :: ms).map Member.spelling) ++ '}' :: rest) =
      ({ m with before := [] } : Member K).spelling ++
        ((ms.map Member.spelling).flatMap (',' :: ·) ++ '}' :: rest) := by
    simp only [List.map_cons, separated, Member.spelling, List.append_assoc, List.nil_append,
      List.cons_append]
    exact (opens_string hm.name).skip hm.white.1 _
  have hloop := parseMembers_separated rest ms { m with before := [] }
    (({ m with before := [] } : Member K).spelling ++
      ((ms.map Member.spelling).flatMap (',' :: ·) ++ '}' :: rest)).length
    ⟨⟨fun _ hc => absurd hc List.not_mem_nil, hm.white.2⟩, hm.name, hm.value⟩
    (fun m h' => h m (List.mem_cons_of_mem _ h')) (by
      have := length_le_flatMap_commas (ms.map Member.spelling)
      rw [List.length_map] at this
      simp only [List.length_append, List.length_cons]
      omega)
  unfold parseObject
  rw [hskip]
  split
  · rename_i heq
    obtain ⟨tail, hname⟩ := hm.name.exists_quote
    simp only [Member.spelling, hname, List.nil_append, List.cons_append, List.cons.injEq] at heq
    exact absurd heq.1 (by decide)
  · rw [hloop]
    rfl

-- ---------------------------------------------------------------------------
-- Texts
-- ---------------------------------------------------------------------------

variable [Neg K] [CDouble K]

theorem Spells.opens {n : ℕ} {item : CJson K} {text : CString} (h : Spells n item text) :
    Opens text := by
  cases h with
  | null => exact ⟨_, _, rfl, by decide, by decide⟩
  | bool b => cases b <;> exact ⟨_, _, rfl, by decide, by decide⟩
  | number numeral h =>
    obtain ⟨c, rest, htext, hc⟩ := exists_text_cons h
    refine ⟨c, rest, htext, ?_, ?_⟩
    · obtain rfl | hc := hc
      · decide
      · simp only [Char.isDigit, Bool.and_eq_true, decide_eq_true_eq] at hc
        have : 48 ≤ c.toNat := hc.1
        omega
    · rintro rfl
      obtain hc | hc := hc <;> cases hc
  | string h => exact opens_string h
  | emptyArray => exact ⟨_, _, rfl, by decide, by decide⟩
  | array => exact ⟨_, _, rfl, by decide, by decide⟩
  | emptyObject => exact ⟨_, _, rfl, by decide, by decide⟩
  | object => exact ⟨_, _, rfl, by decide, by decide⟩

theorem parseValue_scalar (n : ℕ) {c : Char} {rest : CString} (harray : c ≠ '[')
    (hobject : c ≠ '{') : parseValue (K := K) n (c :: rest) = parseScalar (c :: rest) := by
  cases n with
  | zero => rfl
  | succ n =>
    rw [parseValue]
    · rintro rest h
      cases h
      exact harray rfl
    · rintro rest h
      cases h
      exact hobject rfl

theorem parseScalar_number {c : Char} {rest : CString} (h : c = '-' ∨ c.isDigit = true) :
    parseScalar (K := K) (c :: rest) = parseNumber (c :: rest) := by
  have hnot : ∀ d : Char, d.isDigit = false → d ≠ '-' → d ≠ c := by
    rintro d hdigit hminus rfl
    obtain rfl | hc := h
    · exact hminus rfl
    · rw [hc] at hdigit
      cases hdigit
  have hnull : "null".toList.isPrefixOf (c :: rest) = false := by
    change (('n' == c) && _) = false
    rw [beq_false_of_ne (hnot 'n' rfl (by decide)), Bool.false_and]
  have hfalse : "false".toList.isPrefixOf (c :: rest) = false := by
    change (('f' == c) && _) = false
    rw [beq_false_of_ne (hnot 'f' rfl (by decide)), Bool.false_and]
  have htrue : "true".toList.isPrefixOf (c :: rest) = false := by
    change (('t' == c) && _) = false
    rw [beq_false_of_ne (hnot 't' rfl (by decide)), Bool.false_and]
  have hquote := hnot '"' rfl (by decide)
  rw [parseScalar, hnull, hfalse, htrue]
  simp only [Bool.false_eq_true, if_false]
  rw [if_pos h]
  exact fun hc => hquote hc.symm

theorem parseScalar_string {s text : CString} (h : SpellsString s text) (rest : CString) :
    parseScalar (K := K) (text ++ rest) = some (.string s, rest) := by
  have hparse := h.parseString rest
  obtain ⟨tail, rfl⟩ := h.exists_quote
  change (WfPublisher.parseString ('"' :: (tail ++ rest))).map
    (fun (s, rest) => ((.string s : CJson K), rest)) = _
  rw [← List.cons_append, hparse]
  rfl

/-- What comes behind a number does not go on with it. -/
def NumberEnds (item : CJson K) (rest : CString) : Prop :=
  ∀ d, item = .number d → NoHead isNumberChar rest

omit [Neg K] [CDouble K] in
theorem NumberEnds.of_noHead {item : CJson K} {rest : CString} (h : NoHead isNumberChar rest) :
    NumberEnds item rest := fun _ _ => h

theorem Spells.parseValue {n : ℕ} {item : CJson K} {text : CString} (h : Spells n item text) :
    ∀ rest, NumberEnds item rest → parseValue n (text ++ rest) = some (item, rest) := by
  induction h with
  | null =>
    intro rest _
    exact parseValue_scalar _ (by decide) (by decide)
  | bool b =>
    intro rest _
    cases b <;> exact parseValue_scalar _ (by decide) (by decide)
  | number numeral h hlength =>
    intro rest hrest
    have hnumber := parseNumber_text (K := K) h hlength (hrest _ rfl)
    obtain ⟨c, tail, htext, hc⟩ := exists_text_cons h
    rw [htext, List.cons_append] at hnumber ⊢
    rw [parseValue_scalar _ (by rintro rfl; obtain hc | hc := hc <;> cases hc)
      (by rintro rfl; obtain hc | hc := hc <;> cases hc), parseScalar_number hc]
    exact hnumber
  | string h =>
    intro rest _
    have hstring := parseScalar_string (K := K) h rest
    obtain ⟨tail, rfl⟩ := h.exists_quote
    rw [List.cons_append, parseValue_scalar _ (by decide) (by decide)]
    exact hstring
  | @emptyArray n space h =>
    intro rest _
    rw [List.cons_append, List.append_assoc]
    change parseArray (WfPublisher.parseValue n) (space ++ ']' :: rest) = _
    have hskip : bufferSkipWhitespace (space ++ ']' :: rest) = ']' :: rest := by
      rw [bufferSkipWhitespace_white h]
      exact bufferSkipWhitespace_cons (by decide) rest
    rw [parseArray, hskip]
    rfl
  | array elements hne hwhite h ih =>
    intro rest _
    rw [List.cons_append, List.append_assoc]
    refine parseArray_separated hne (fun e he => ⟨hwhite e he, (h e he).opens, ?_⟩) rest
    exact fun rest hrest => ih e he rest (.of_noHead hrest)
  | @emptyObject n space h =>
    intro rest _
    rw [List.cons_append, List.append_assoc]
    change parseObject (WfPublisher.parseValue n) (space ++ '}' :: rest) = _
    have hskip : bufferSkipWhitespace (space ++ '}' :: rest) = '}' :: rest := by
      rw [bufferSkipWhitespace_white h]
      exact bufferSkipWhitespace_cons (by decide) rest
    rw [parseObject, hskip]
    rfl
  | object members hne hwhite hname h ih =>
    intro rest _
    rw [List.cons_append, List.append_assoc]
    refine parseObject_separated hne
      (fun m hm => ⟨hwhite m hm, hname m hm, (hwhite m hm).2.2, (h m hm).opens, ?_⟩) rest
    exact fun rest hrest => ih m hm rest (.of_noHead hrest)

def utf8Bom : CString := [Char.ofNat 0xEF, Char.ofNat 0xBB, Char.ofNat 0xBF]

theorem skipUtf8Bom_bom {text : CString} (h : text ≠ []) :
    skipUtf8Bom (utf8Bom ++ text) = text := by
  have hpos := List.length_pos_iff.mpr h
  refine if_pos ⟨?_, rfl⟩
  rw [List.length_append, show utf8Bom.length = 3 from rfl]
  omega

theorem skipUtf8Bom_cons {c : Char} (h : c ≠ Char.ofNat 0xEF) (rest : CString) :
    skipUtf8Bom (c :: rest) = c :: rest := by
  refine if_neg ?_
  rintro ⟨-, heq⟩
  exact h (List.cons.inj heq).1

theorem Spells.ne_bom {n : ℕ} {item : CJson K} {text : CString} (h : Spells n item text) :
    ∃ c rest, text = c :: rest ∧ c ≠ Char.ofNat 0xEF := by
  cases h with
  | null => exact ⟨_, _, rfl, by decide⟩
  | bool b => cases b <;> exact ⟨_, _, rfl, by decide⟩
  | number numeral h =>
    obtain ⟨c, rest, htext, hc⟩ := exists_text_cons h
    refine ⟨c, rest, htext, ?_⟩
    rintro rfl
    obtain hc | hc := hc <;> cases hc
  | string h =>
    obtain ⟨rest, rfl⟩ := h.exists_quote
    exact ⟨_, _, rfl, by decide⟩
  | emptyArray => exact ⟨_, _, rfl, by decide⟩
  | array => exact ⟨_, _, rfl, by decide⟩
  | emptyObject => exact ⟨_, _, rfl, by decide⟩
  | object => exact ⟨_, _, rfl, by decide⟩

theorem Spells.cJSONParse {item : CJson K} {text : CString} (h : Spells nestingLimit item text) :
    cJSONParse text = some item := by
  have hparse := h.parseValue [] (.of_noHead (by simp [NoHead]))
  have hskip := h.opens.skip white_nil []
  rw [List.append_nil] at hparse
  rw [List.nil_append, List.append_nil] at hskip
  obtain ⟨c, rest, htext, hc⟩ := h.ne_bom
  have hbom : skipUtf8Bom text = text := by
    rw [htext]
    exact skipUtf8Bom_cons hc rest
  rw [WfPublisher.cJSONParse, hbom, hskip, hparse, Option.map_some]

/-- A JSON text of no more than a thousand levels is accepted, after a byte
order mark too, and gives the item it denotes, whatever comes behind it. -/
theorem accepts_json {item : CJson K} {bom space text rest : CString}
    (hbom : bom = [] ∨ bom = utf8Bom) (hspace : White space) (h : Spells nestingLimit item text)
    (hrest : NumberEnds item rest) :
    cJSONParse (bom ++ (space ++ (text ++ rest))) = some item := by
  have hskip : skipUtf8Bom (bom ++ (space ++ (text ++ rest))) = space ++ (text ++ rest) := by
    obtain ⟨c, tail, htext, hc⟩ := h.ne_bom
    obtain rfl | rfl := hbom
    · cases space with
      | nil =>
        rw [List.nil_append, List.nil_append, htext]
        exact skipUtf8Bom_cons hc _
      | cons s space =>
        refine skipUtf8Bom_cons ?_ _
        obtain rfl | rfl | rfl | rfl := hspace s List.mem_cons_self <;> decide
    · refine skipUtf8Bom_bom ?_
      rw [htext]
      simp
  rw [cJSONParse, hskip, h.opens.skip hspace, h.parseValue rest hrest, Option.map_some]

theorem accepts_json_face :
    cJSONParse (utf8Bom ++ (['\n'] ++
        ("[\"\\uD83d\\uDE00\" , -2.51E+1,1E999]".toList ++ ['5']))) =
      some (.array [.string (utf8 (Char.ofNat 0x1F600)), .number (-25.1 : Float),
        .number (1.0 / 0.0)]) := by
  have hface : Spells 999 (.string (utf8 (Char.ofNat 0x1F600)) : CJson Float)
      "\"\\uD83d\\uDE00\"".toList :=
    .string (.quoted (.cons (.surrogates (Char.ofNat 0x1F600) "D83d".toList "DE00".toList
      (by decide) (by decide +kernel) (by decide +kernel)) .nil))
  have hwellFormed : (⟨true, ['2'], ['5', '1'], some ⟨true, ['+'], ['1']⟩⟩ :
      Decimal.Numeral).WellFormed := by
    refine ⟨List.cons_ne_nil _ _, by simp, by simp, by simp, ?_⟩
    rintro e he
    cases he
    exact ⟨.inr (.inl rfl), List.cons_ne_nil _ _, by simp⟩
  have hnumber : Spells 999 (.number (-25.1 : Float)) "-2.51E+1".toList := by
    have hvalue : numberOf ⟨true, ['2'], ['5', '1'], some ⟨true, ['+'], ['1']⟩⟩ =
        (-25.1 : Float) := by decide +kernel
    rw [← hvalue]
    exact .number _ hwellFormed (by decide)
  have hlargeWellFormed : (⟨false, ['1'], [], some ⟨true, [], ['9', '9', '9']⟩⟩ :
      Decimal.Numeral).WellFormed := by
    refine ⟨List.cons_ne_nil _ _, by simp, by simp, by simp, ?_⟩
    rintro e he
    cases he
    exact ⟨.inl rfl, List.cons_ne_nil _ _, by simp⟩
  have hlarge : Spells 999 (.number (1.0 / 0.0 : Float)) "1E999".toList := by
    have hvalue : numberOf ⟨false, ['1'], [], some ⟨true, [], ['9', '9', '9']⟩⟩ =
        (1.0 / 0.0 : Float) := by decide +kernel
    rw [← hvalue]
    exact .number _ hlargeWellFormed (by decide)
  have hspace : White [' '] := fun c hc => .inl (List.mem_singleton.mp hc)
  have hnone : White [] := fun _ hc => absurd hc List.not_mem_nil
  have harray := Spells.array (n := 999)
    [⟨[], .string (utf8 (Char.ofNat 0x1F600)), "\"\\uD83d\\uDE00\"".toList, [' ']⟩,
      ⟨[' '], .number (-25.1 : Float), "-2.51E+1".toList, []⟩,
      ⟨[], .number (1.0 / 0.0), "1E999".toList, []⟩]
    (List.cons_ne_nil _ _)
    (List.forall_mem_cons.mpr ⟨⟨hnone, hspace⟩,
      List.forall_mem_cons.mpr ⟨⟨hspace, hnone⟩, List.forall_mem_singleton.mpr ⟨hnone, hnone⟩⟩⟩)
    (List.forall_mem_cons.mpr ⟨hface,
      List.forall_mem_cons.mpr ⟨hnumber, List.forall_mem_singleton.mpr hlarge⟩⟩)
  exact accepts_json (.inr rfl) (fun c hc => .inr (.inr (.inl (List.mem_singleton.mp hc)))) harray
    (fun d h => by cases h)

end

end WfPublisher.Syntax
