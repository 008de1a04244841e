import Mathlib
import WfPublisher.CJson.Complete
import WfPublisher.CJson.Print

/-!
# What is printed is read back

`cJSON_Print` and `cJSON_PrintUnformatted` write a text of the grammar. Reading
it gives the item that was printed, with every number bit for bit the same: the
fifteen digits that are tried first are only kept when they read back, and
seventeen always do.
-/

namespace WfPublisher.Syntax

open CJson Rounding

-- ---------------------------------------------------------------------------
-- Doubles
-- ---------------------------------------------------------------------------

section
variable {K : Type} [Field K] [LinearOrder K] [FloorRing K]

/-- The values of a finite `double`. -/
def IsDouble (d : K) : Prop :=
  ∃ m e : ℤ, |m| < 2 ^ 53 ∧ -1074 ≤ e ∧ e ≤ 971 ∧ d = m * 2 ^ e

variable [IsStrictOrderedRing K] {d : K}

theorem IsDouble.representable (h : IsDouble d) : binary64.Representable d := by
  obtain ⟨m, e, hm, hlow, -, rfl⟩ := h
  have := binary64.representable_of_lt (K := K) (m := m) (e := e) hm
    (by rintro lowest hlowest; cases hlowest; exact hlow)
  simpa [binary64] using this

theorem IsDouble.toDouble (h : IsDouble d) : toDouble d = d := h.representable.nearest

theorem IsDouble.bounds (h : IsDouble d) (hd : d ≠ 0) :
    (10 : K) ^ (-(537 : ℕ) : ℤ) ≤ |d| ∧ |d| < 10 ^ ((537 : ℕ) : ℤ) := by
  obtain ⟨m, e, hm, hlow, hhigh, rfl⟩ := h
  have hpow : (0 : K) < 2 ^ e := zpow_pos (by norm_num) e
  have hne : m ≠ 0 := by
    rintro rfl
    exact hd (by simp)
  have hone : (1 : K) ≤ |(m : K)| := by exact_mod_cast Int.one_le_abs hne
  have hlt : |(m : K)| < 2 ^ (53 : ℤ) := by exact_mod_cast hm
  have hfour : (2 : K) ^ ((2 * 537 : ℕ) : ℤ) ≤ 10 ^ ((537 : ℕ) : ℤ) := by
    rw [zpow_natCast, zpow_natCast, pow_mul]
    exact pow_le_pow_left₀ (by norm_num) (by norm_num) 537
  rw [abs_mul, abs_of_pos hpow]
  constructor
  · calc (10 : K) ^ (-(537 : ℕ) : ℤ) = (10 ^ ((537 : ℕ) : ℤ))⁻¹ := zpow_neg _ _
      _ ≤ (2 ^ ((2 * 537 : ℕ) : ℤ))⁻¹ := inv_anti₀ (zpow_pos (by norm_num) _) hfour
      _ = 2 ^ (-((2 * 537 : ℕ) : ℤ)) := (zpow_neg _ _).symm
      _ ≤ 2 ^ e := zpow_le_zpow_right₀ (by norm_num) (by omega)
      _ ≤ |(m : K)| * 2 ^ e := le_mul_of_one_le_left hpow.le hone
  · calc |(m : K)| * 2 ^ e < 2 ^ (53 : ℤ) * 2 ^ e := mul_lt_mul_of_pos_right hlt hpow
      _ = 2 ^ (53 + e) := (zpow_add₀ (by norm_num) _ _).symm
      _ ≤ 2 ^ ((2 * 537 : ℕ) : ℤ) := zpow_le_zpow_right₀ (by norm_num) (by omega)
      _ ≤ 10 ^ ((537 : ℕ) : ℤ) := hfour

-- ---------------------------------------------------------------------------
-- Numbers
-- ---------------------------------------------------------------------------

omit [IsStrictOrderedRing K] in
theorem numberOf_eq_value (numeral : Decimal.Numeral) : (numberOf numeral : K) = numeral.value :=
  rfl

theorem length_printG_double (h : IsDouble d) {p : ℕ} (hp : 0 < p) :
    (Decimal.printG p d).text.length ≤ p + 7 :=
  Decimal.length_printG_le hp fun hd => by
    have := Decimal.natAbs_significand_le (p := p) hd (h.bounds hd).1 (h.bounds hd).2
    omega

theorem printNumber_eq (h : IsDouble d) : ∃ numeral : Decimal.Numeral,
    numeral.WellFormed ∧ numeral.text.length ≤ 25 ∧ printNumber d = some numeral.text ∧
      WfPublisher.toDouble numeral.value = d := by
  have hfifteen := Decimal.wellFormed_printG (p := 15) (by decide) d
  have hseventeen := Decimal.wellFormed_printG (p := 17) (by decide) d
  have hread := strtod_text (K := K) hfifteen
  rw [numberOf_eq_value] at hread
  by_cases htest : WfPublisher.toDouble (Decimal.printG 15 d).value = d
  · have := length_printG_double h (p := 15) (by decide)
    refine ⟨Decimal.printG 15 d, hfifteen, this.trans (by decide), ?_, htest⟩
    simp only [printNumber, hread, Option.map_some, htest, if_true]
    exact if_pos (this.trans (by decide))
  · have := length_printG_double h (p := 17) (by decide)
    refine ⟨Decimal.printG 17 d, hseventeen, this.trans (by decide), ?_, ?_⟩
    · simp only [printNumber, hread, Option.map_some, Option.some.injEq, htest, if_false]
      exact if_pos (this.trans (by decide))
    · rw [Decimal.value_printG (by decide)]
      exact h.representable.nearest_nearest (g := decimal 17) ⟨rfl, by decide⟩

/-- Neither `sprintf` of `print_number` leaves the 26 bytes, the function does not
fail, and its numeral reads back as the same double. -/
theorem printNumber_exact (h : IsDouble d) :
    (Decimal.printG 15 d).text.length < 26 ∧ (Decimal.printG 17 d).text.length < 26 ∧
      ∃ numeral : Decimal.Numeral, numeral.WellFormed ∧ printNumber d = some numeral.text ∧
        (strtod numeral.text).map (fun read => WfPublisher.toDouble read.1) = some d := by
  obtain ⟨numeral, hwellFormed, -, hprint, hround⟩ := printNumber_eq h
  have hfifteen := length_printG_double h (p := 15) (by decide)
  have hseventeen := length_printG_double h (p := 17) (by decide)
  refine ⟨by omega, by omega, numeral, hwellFormed, hprint, ?_⟩
  rw [strtod_text hwellFormed, Option.map_some, numberOf_eq_value, hround]

theorem printNumber_exact_tenth :
    (Decimal.printG 15 (3602879701896397 * 2 ^ (-55 : ℤ) : ℚ)).text.length < 26 ∧
      (Decimal.printG 17 (3602879701896397 * 2 ^ (-55 : ℤ) : ℚ)).text.length < 26 ∧
      ∃ numeral : Decimal.Numeral, numeral.WellFormed ∧
        printNumber (3602879701896397 * 2 ^ (-55 : ℤ) : ℚ) = some numeral.text ∧
        (strtod numeral.text).map (fun read => WfPublisher.toDouble read.1) =
          some (3602879701896397 * 2 ^ (-55 : ℤ) : ℚ) :=
  printNumber_exact ⟨3602879701896397, -55, by decide, by decide, by decide, by norm_num⟩

end

-- ---------------------------------------------------------------------------
-- Strings
-- ---------------------------------------------------------------------------

theorem spellsHex_toDigits {n : ℕ} (h : n < 32) :
    SpellsHex n ((Nat.toDigits 16 n).leftpad 4 '0') := by
  refine ⟨by omega, ?_⟩
  interval_cases n <;> decide

theorem utf8_ascii {c : Char} (h : c.toNat < 128) : utf8 c = [c] := by
  rw [← map_utf8Bytes, utf8Bytes, if_pos h, List.map_singleton, Char.ofNat_toNat]

theorem spellsChar_escape (c : Char) : SpellsChar [c] (escape c) := by
  unfold escape
  split_ifs with hplain hbackslash hquote hb hf hn hr ht
  · exact .plain c hplain.1 hplain.2.1 hplain.2.2
  · subst hbackslash
    exact .letter '\\' '\\' (by simp [escapeLetters])
  · subst hquote
    exact .letter '"' '"' (by simp [escapeLetters])
  · subst hb
    exact .letter 'b' _ (by simp [escapeLetters])
  · subst hf
    exact .letter 'f' _ (by simp [escapeLetters])
  · subst hn
    exact .letter 'n' '\n' (by simp [escapeLetters])
  · subst hr
    exact .letter 'r' '\r' (by simp [escapeLetters])
  · subst ht
    exact .letter 't' '\t' (by simp [escapeLetters])
  · have hcontrol : c.toNat < 32 := by
      by_contra hlarge
      exact hplain ⟨by omega, hquote, hbackslash⟩
    rw [← utf8_ascii (c := c) (by omega)]
    exact .unicode c _ (spellsHex_toDigits hcontrol)

theorem spellsChars_escape (s : CString) : SpellsChars s (s.flatMap escape) := by
  induction s with
  | nil => exact .nil
  | cons c s ih => exact .cons (spellsChar_escape c) ih

theorem cString_eq {s : CString} (h : Char.ofNat 0 ∉ s) : cString s = s :=
  List.takeWhile_eq_self_iff.mpr fun _ hc => decide_eq_true fun hnul => h (hnul ▸ hc)

theorem spellsString_printStringPtr {s : CString} (h : Char.ofNat 0 ∉ s) :
    SpellsString s (printStringPtr s) := by
  have := SpellsString.quoted (spellsChars_escape s)
  rwa [cString_eq h] at this

-- ---------------------------------------------------------------------------
-- Items
-- ---------------------------------------------------------------------------

section
variable {K : Type} [Field K] [LinearOrder K] [FloorRing K]

/-- Items as the parser builds them: strings that end at their NUL, no more than
so many levels, and numbers of some kind. -/
inductive Storable (number : K → Prop) : ℕ → CJson K → Prop
  | null {n} : Storable number n .null
  | bool {n} (b : Bool) : Storable number n (.bool b)
  | number {n} {d : K} : number d → Storable number n (.number d)
  | string {n} {s : CString} : Char.ofNat 0 ∉ s → Storable number n (.string s)
  | array {n} {items : List (CJson K)} : (∀ item ∈ items, Storable number n item) →
      Storable number (n + 1) (.array items)
  | object {n} {members : List (CString × CJson K)} : (∀ m ∈ members, Char.ofNat 0 ∉ m.1) →
      (∀ m ∈ members, Storable number n m.2) → Storable number (n + 1) (.object members)

omit [Field K] [LinearOrder K] [FloorRing K] in
theorem Storable.mono {number number' : K → Prop} {n : ℕ} {item : CJson K}
    (h : Storable number n item) (hnumber : ∀ d, number d → number' d) :
    Storable number' n item := by
  induction h with
  | null => exact .null
  | bool b => exact .bool b
  | number hd => exact .number (hnumber _ hd)
  | string hs => exact .string hs
  | array _ ih => exact .array ih
  | object hname _ ih => exact .object hname ih

mutual

/-- The item with every number as the double that `strtod` reads. -/
def roundNumbers : CJson K → CJson K
  | .null => .null
  | .bool b => .bool b
  | .number d => .number (toDouble d)
  | .string s => .string s
  | .array items => .array (roundItems items)
  | .object members => .object (roundMembers members)

def roundItems : List (CJson K) → List (CJson K)
  | [] => []
  | item :: next => roundNumbers item :: roundItems next

def roundMembers : List (CString × CJson K) → List (CString × CJson K)
  | [] => []
  | (name, item) :: next => (name, roundNumbers item) :: roundMembers next

end

def Prints (format : Bool) (n depth : ℕ) (item : CJson K) : Prop :=
  ∃ text exact, printValue format depth item = some text ∧ Spells n exact text ∧
    roundNumbers exact = item

theorem white_formatted {format : Bool} {text : CString} (h : White text) :
    White (formatted format text) := by
  unfold formatted
  split
  · exact h
  · exact fun c hc => absurd hc List.not_mem_nil

theorem white_append {first second : CString} (h : White first) (h' : White second) :
    White (first ++ second) := by
  intro c hc
  obtain hc | hc := List.mem_append.mp hc
  · exact h c hc
  · exact h' c hc

theorem white_tabs (depth : ℕ) : White (tabs depth) := by
  intro c hc
  exact .inr (.inl (List.eq_of_mem_replicate hc))

variable {format : Bool} {n depth : ℕ}

theorem separated_cons_cons (text next : CString) (rest : List CString) :
    separated (text :: next :: rest) = text ++ ',' :: separated (next :: rest) := by
  simp [separated]

theorem printElements_separated (items : List (CJson K)) (hne : items ≠ [])
    (h : ∀ item ∈ items, Prints format n depth item) :
    ∃ text, printElements format depth items = some text ∧
      ∀ before, White before → ∃ elements : List (Element K), elements ≠ [] ∧
        before ++ text = separated (elements.map Element.spelling) ∧
        (∀ e ∈ elements, e.White ∧ Spells n e.item e.text) ∧
        roundItems (elements.map Element.item) = items := by
  induction items with
  | nil => exact absurd rfl hne
  | cons item next ih =>
    obtain ⟨text, exact, htext, hspells, hround⟩ := h item List.mem_cons_self
    cases next with
    | nil =>
      refine ⟨text, by simp [printElements, htext], fun before hbefore => ?_⟩
      refine ⟨[⟨before, exact, text, []⟩], List.cons_ne_nil _ _, ?_, ?_, ?_⟩
      · simp [separated, Element.spelling]
      · rintro e he
        cases List.mem_singleton.mp he
        exact ⟨⟨hbefore, white_nil⟩, hspells⟩
      · simp [roundItems, hround]
    | cons second next =>
      obtain ⟨rest, hrest, hseparated⟩ := ih (List.cons_ne_nil _ _)
        fun item hitem => h item (List.mem_cons_of_mem _ hitem)
      have hspace : White (formatted format [' ']) :=
        white_formatted fun c hc => .inl (List.mem_singleton.mp hc)
      obtain ⟨elements, hne, heq, hall, hitems⟩ := hseparated _ hspace
      refine ⟨text ++ (',' :: formatted format [' ']) ++ rest, by
        rw [printElements, htext, hrest]; rfl, fun before hbefore => ?_⟩
      refine ⟨⟨before, exact, text, []⟩ :: elements, List.cons_ne_nil _ _, ?_, ?_, ?_⟩
      · obtain ⟨e, es, rfl⟩ := List.exists_cons_of_ne_nil hne
        rw [List.map_cons, List.map_cons, separated_cons_cons, ← List.map_cons, ← heq]
        simp [Element.spelling]
      · rintro e he
        obtain rfl | he := List.mem_cons.mp he
        · exact ⟨⟨hbefore, white_nil⟩, hspells⟩
        · exact hall e he
      · simp [roundItems, hround, hitems]

theorem printMembers_separated (members : List (CString × CJson K)) (hne : members ≠ [])
    (hname : ∀ m ∈ members, Char.ofNat 0 ∉ m.1) (h : ∀ m ∈ members, Prints format n depth m.2) :
    ∃ text, printMembers format depth members = some text ∧
      ∀ before after, White before → White after → ∃ ms : List (Member K), ms ≠ [] ∧
        before ++ text ++ after = separated (ms.map Member.spelling) ∧
        (∀ m ∈ ms, m.White ∧ SpellsString m.name m.nameText ∧
          Spells n m.value.item m.value.text) ∧
        roundMembers (ms.map fun m => (m.name, m.value.item)) = members := by
  have hnewline : White (formatted format ['\n']) :=
    white_formatted fun c hc => .inr (.inr (.inl (List.mem_singleton.mp hc)))
  have htab : White (formatted format ['\t']) :=
    white_formatted fun c hc => .inr (.inl (List.mem_singleton.mp hc))
  have htabs : White (formatted format (tabs depth)) := white_formatted (white_tabs depth)
  induction members with
  | nil => exact absurd rfl hne
  | cons m next ih =>
    obtain ⟨name, item⟩ := m
    obtain ⟨text, exact, htext, hspells, hround⟩ := h (name, item) List.mem_cons_self
    have hspellsName := spellsString_printStringPtr (hname (name, item) List.mem_cons_self)
    cases next with
    | nil =>
      refine ⟨_, by rw [printMembers, htext]; rfl, fun before after hbefore hafter => ?_⟩
      refine ⟨[⟨before ++ formatted format (tabs depth), name, printStringPtr name, [],
        ⟨formatted format ['\t'], exact, text, formatted format ['\n'] ++ after⟩⟩],
        List.cons_ne_nil _ _, ?_, ?_, ?_⟩
      · simp [separated, Member.spelling, Element.spelling]
      · rintro m hm
        cases List.mem_singleton.mp hm
        exact ⟨⟨white_append hbefore htabs, white_nil, htab, white_append hnewline hafter⟩,
          hspellsName, hspells⟩
      · simp [roundMembers, hround]
    | cons second next =>
      obtain ⟨rest, hrest, hseparated⟩ := ih (List.cons_ne_nil _ _)
        (fun m hm => hname m (List.mem_cons_of_mem _ hm))
        (fun m hm => h m (List.mem_cons_of_mem _ hm))
      refine ⟨_, by rw [printMembers, htext, hrest]; rfl, fun before after hbefore hafter => ?_⟩
      obtain ⟨ms, hne, heq, hall, hitems⟩ := hseparated _ _ hnewline hafter
      refine ⟨⟨before ++ formatted format (tabs depth), name, printStringPtr name, [],
        ⟨formatted format ['\t'], exact, text, []⟩⟩ :: ms, List.cons_ne_nil _ _, ?_, ?_, ?_⟩
      · obtain ⟨m, ms, rfl⟩ := List.exists_cons_of_ne_nil hne
        rw [List.map_cons, List.map_cons, separated_cons_cons, ← List.map_cons, ← heq]
        simp [Member.spelling, Element.spelling]
      · rintro m hm
        obtain rfl | hm := List.mem_cons.mp hm
        · exact ⟨⟨white_append hbefore htabs, white_nil, htab, white_nil⟩, hspellsName, hspells⟩
        · exact hall m hm
      · simp [roundMembers, hround, hitems]

theorem Prints.parse {item : CJson K} (h : Prints format nestingLimit depth item) :
    ∃ text, printValue format depth item = some text ∧
      (cJSONParse text).map roundNumbers = some item := by
  obtain ⟨text, exact, htext, hspells, hround⟩ := h
  exact ⟨text, htext, by rw [hspells.cJSONParse, Option.map_some, hround]⟩

variable [IsStrictOrderedRing K]

theorem Storable.prints (format : Bool) {n : ℕ} {item : CJson K} (h : Storable IsDouble n item) :
    ∀ depth, Prints format n depth item := by
  induction h with
  | null => exact fun _ => ⟨_, .null, rfl, .null, rfl⟩
  | bool b =>
    intro depth
    refine ⟨_, .bool b, ?_, .bool b, rfl⟩
    cases b <;> rfl
  | number h =>
    intro depth
    obtain ⟨numeral, hwellFormed, hlength, hprint, hround⟩ := printNumber_eq h
    exact ⟨_, _, hprint, .number numeral hwellFormed (hlength.trans (by decide)),
      congrArg CJson.number hround⟩
  | string h => exact fun _ => ⟨_, _, rfl, .string (spellsString_printStringPtr h), rfl⟩
  | @array n items h ih =>
    intro depth
    obtain rfl | hne := eq_or_ne items []
    · exact ⟨_, .array [], rfl, .emptyArray white_nil, rfl⟩
    obtain ⟨text, htext, hseparated⟩ :=
      printElements_separated items hne fun item hitem => ih item hitem (depth + 1)
    obtain ⟨elements, hne, heq, hall, hround⟩ := hseparated [] white_nil
    refine ⟨'[' :: (text ++ [']']), .array (elements.map Element.item),
      by rw [printValue, htext]; rfl, ?_, congrArg CJson.array hround⟩
    rw [List.nil_append] at heq
    rw [heq]
    exact .array elements hne (fun e he => (hall e he).1) fun e he => (hall e he).2
  | @object n members hname h ih =>
    intro depth
    have hnewline : White (formatted format ['\n']) :=
      white_formatted fun c hc => .inr (.inr (.inl (List.mem_singleton.mp hc)))
    have htabs : White (formatted format (tabs depth)) := white_formatted (white_tabs depth)
    obtain rfl | hne := eq_or_ne members []
    · refine ⟨_, .object [], rfl, ?_, rfl⟩
      simp only [List.append_nil]
      exact .emptyObject (white_append hnewline htabs)
    obtain ⟨text, htext, hseparated⟩ :=
      printMembers_separated members hne hname fun m hm => ih m hm (depth + 1)
    obtain ⟨ms, hne, heq, hall, hround⟩ := hseparated _ _ hnewline htabs
    refine ⟨'{' :: (formatted format ['\n'] ++ text ++ formatted format (tabs depth) ++ ['}']),
      .object (ms.map fun m => (m.name, m.value.item)), by rw [printValue, htext]; rfl, ?_,
      congrArg CJson.object hround⟩
    rw [heq]
    exact .object ms hne (fun m hm => (hall m hm).1) (fun m hm => (hall m hm).2.1)
      fun m hm => (hall m hm).2.2

/-- What `cJSON_Print` or `cJSON_PrintUnformatted` writes is JSON, and reading it
gives the same item with the same doubles. -/
theorem print_parse (format : Bool) {item : CJson K}
    (h : Storable IsDouble nestingLimit item) :
    ∃ text, printValue format 0 item = some text ∧
      (∃ exact : CJson K, Spells nestingLimit exact text) ∧
      (cJSONParse text).map roundNumbers = some item := by
  obtain ⟨text, exact, htext, hspells, hround⟩ := h.prints format 0
  exact ⟨text, htext, ⟨exact, hspells⟩, by rw [hspells.cJSONParse, Option.map_some, hround]⟩

theorem print_parse_quarter : ∃ text,
    printValue true 0 (.array [.number (1 / 4 : ℚ), .string ['\n'], .object [(['a'], .null)]]) =
        some text ∧
      (∃ exact : CJson ℚ, Spells nestingLimit exact text) ∧
      (cJSONParse text).map roundNumbers =
        some (.array [.number (1 / 4 : ℚ), .string ['\n'], .object [(['a'], .null)]]) := by
  refine print_parse true (.array fun item hitem => ?_)
  simp only [List.mem_cons, List.not_mem_nil, or_false] at hitem
  obtain rfl | rfl | rfl := hitem
  · exact .number ⟨1, -2, by decide, by decide, by decide, by norm_num⟩
  · exact .string (by decide)
  · refine .object (fun m hm => ?_) fun m hm => ?_
    · cases List.mem_singleton.mp hm
      decide
    · cases List.mem_singleton.mp hm
      exact .null

end

end WfPublisher.Syntax
