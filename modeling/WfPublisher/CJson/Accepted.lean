import Mathlib
import WfPublisher.CJson.RoundTrip

/-!
# What `cJSON_Parse` accepts

More than the grammar has, but nothing that depends on what comes after it: a
text that is cut off somewhere is rejected or gives the item of the whole text.
Every item that is accepted can be printed and parsed again.
-/

namespace WfPublisher.Syntax

open CJson

-- ---------------------------------------------------------------------------
-- Characters
-- ---------------------------------------------------------------------------

theorem isNumberChar_white {c : Char} (h : c.toNat ≤ 32) : isNumberChar c = false := by
  have hdigit : c.isDigit = false := by
    refine Bool.eq_false_iff.mpr fun hd => ?_
    simp only [Char.isDigit, Bool.and_eq_true, decide_eq_true_eq] at hd
    have : 48 ≤ c.toNat := hd.1
    omega
  have hne : ∀ d : Char, 32 < d.toNat → (c == d) = false := by
    rintro d hd
    exact beq_false_of_ne (by rintro rfl; omega)
  simp only [isNumberChar, hdigit, hne '+' (by decide), hne '-' (by decide), hne 'e' (by decide),
    hne 'E' (by decide), hne '.' (by decide), Bool.or_false]

theorem bufferSkipWhitespace_append {p rest : CString} {c : Char}
    (h : bufferSkipWhitespace p = c :: rest) (q : CString) :
    bufferSkipWhitespace (p ++ q) = c :: (rest ++ q) := by
  unfold bufferSkipWhitespace at h ⊢
  rw [List.dropWhile_append, h]
  rfl

/-- The text goes on, and not with a number. -/
structure Closed (rest : CString) : Prop where
  ne_nil : rest ≠ []
  noHead : NoHead isNumberChar rest

theorem closed_of_skip {p rest : CString} {c : Char} (h : bufferSkipWhitespace p = c :: rest)
    (hc : isNumberChar c = false) : Closed p := by
  cases p with
  | nil => cases h
  | cons d p =>
    refine ⟨List.cons_ne_nil _ _, ?_⟩
    intro e he
    cases he
    unfold bufferSkipWhitespace at h
    by_cases hd : d.toNat ≤ 32
    · exact isNumberChar_white hd
    · rw [List.dropWhile_cons_of_neg (by simpa using hd)] at h
      cases h
      exact hc

-- ---------------------------------------------------------------------------
-- Strings
-- ---------------------------------------------------------------------------

theorem scanString_append {p raw after : CString} (h : scanString p = some (raw, after))
    (q : CString) : scanString (p ++ q) = some (raw, after ++ q) := by
  fun_induction scanString p generalizing raw with
  | case1 => cases h
  | case2 rest =>
    cases h
    rfl
  | case3 c rest ih =>
    obtain ⟨⟨raw', after'⟩, hrest, heq⟩ := Option.map_eq_some_iff.mp h
    cases heq
    rw [List.cons_append, List.cons_append, scanString_escape, ih hrest]
    rfl
  | case4 c rest hquote hescape ih =>
    obtain ⟨⟨raw', after'⟩, hrest, heq⟩ := Option.map_eq_some_iff.mp h
    cases heq
    have hbackslash : c ≠ '\\' := by
      rintro rfl
      cases rest with
      | nil => cases hrest
      | cons d rest => exact hescape d rest rfl rfl
    rw [List.cons_append, scanString_plain hquote hbackslash, ih hrest]
    rfl

theorem parseString_append {p s rest : CString} (h : parseString p = some (s, rest))
    (q : CString) : parseString (p ++ q) = some (s, rest ++ q) := by
  unfold parseString at h
  split at h
  · rename_i text
    obtain ⟨⟨raw, after⟩, hscan, h⟩ := Option.bind_eq_some_iff.mp h
    obtain ⟨output, hunescape, h⟩ := Option.bind_eq_some_iff.mp h
    cases h
    rw [List.cons_append, parseString, scanString_append hscan]
    simp only [Option.bind_eq_bind, Option.bind_some, hunescape]
  · cases h

theorem parseString_nul {p s rest : CString} (h : parseString p = some (s, rest)) :
    Char.ofNat 0 ∉ s := by
  unfold parseString at h
  split at h
  · obtain ⟨⟨raw, after⟩, -, h⟩ := Option.bind_eq_some_iff.mp h
    obtain ⟨output, -, h⟩ := Option.bind_eq_some_iff.mp h
    cases h
    intro hmem
    have := List.mem_takeWhile_imp hmem
    simp at this
  · cases h

-- ---------------------------------------------------------------------------
-- Scalars
-- ---------------------------------------------------------------------------

def parseWord {K : Type} (word : CString) (item : CJson K) (text : CString) :
    Option (CJson K × CString) :=
  if word.isPrefixOf text then some (item, text.drop word.length) else none

theorem parseWord_append {K : Type} {word p rest : CString} {item item' : CJson K}
    (h : parseWord word item p = some (item', rest)) (q : CString) :
    parseWord word item (p ++ q) = some (item', rest ++ q) := by
  unfold parseWord at h ⊢
  split at h
  · rename_i hword
    cases h
    rw [List.isPrefixOf_iff_prefix] at hword
    rw [if_pos (List.isPrefixOf_iff_prefix.mpr (hword.trans (List.prefix_append p q))),
      List.drop_append_of_le_length hword.length_le]
  · cases h

section
variable {K : Type}

/-- Nothing that may follow changes what has been read. -/
def Settled (item : CJson K) (rest : CString) : Prop := Closed rest ∨ ∀ d, item ≠ .number d

variable [Neg K] [CDouble K]

theorem takeWhile_take_append {p : Char → Bool} {text : CString} {n : ℕ} {rest : CString}
    (h : ∀ c ∈ text, p c = true) (hlength : text.length ≤ n) (hrest : NoHead p rest) :
    ((text ++ rest).take n).takeWhile p = text := by
  rw [List.take_append, List.take_of_length_le hlength]
  refine takeWhile_noHead h fun c hc => ?_
  rw [List.head?_take] at hc
  split at hc
  · cases hc
  · exact hrest c hc

theorem parseNumber_append {p rest : CString} {item : CJson K}
    (h : parseNumber p = some (item, rest)) (hrest : Closed rest) (q : CString) :
    parseNumber (p ++ q) = some (item, rest ++ q) := by
  obtain ⟨⟨value, afterEnd⟩, hstrtod, h⟩ := Option.bind_eq_some_iff.mp h
  obtain ⟨rfl, hdrop⟩ : .number value = item ∧ p.drop
      (((p.take 63).takeWhile isNumberChar).length - afterEnd.length) = rest := by
    simpa using h
  have hnumber : ∀ c ∈ (p.take 63).takeWhile isNumberChar, isNumberChar c = true :=
    fun c hc => List.mem_takeWhile_imp hc
  have hlength : ((p.take 63).takeWhile isNumberChar).length ≤ 63 :=
    (List.takeWhile_prefix _).length_le.trans (by simp)
  obtain ⟨tail, htail⟩ : ∃ tail, p = (p.take 63).takeWhile isNumberChar ++ tail :=
    ⟨_, ((List.takeWhile_prefix _).trans (List.take_prefix 63 p)).choose_spec.symm⟩
  generalize (p.take 63).takeWhile isNumberChar = number at *
  have hnil : number ≠ [] := by
    rintro rfl
    cases hstrtod
  -- otherwise a character of the number would come next
  have hend : afterEnd = [] := by
    by_contra hafter
    have hpos := List.length_pos_iff.mpr hafter
    have hnumberPos := List.length_pos_iff.mpr hnil
    have hsplit : rest = number.drop (number.length - afterEnd.length) ++ tail := by
      rw [← hdrop, htail, List.drop_append_of_le_length (by omega)]
    have hne : number.drop (number.length - afterEnd.length) ≠ [] := by
      rw [Ne, List.drop_eq_nil_iff]
      omega
    obtain ⟨c, more, hcons⟩ := List.exists_cons_of_ne_nil hne
    have hc := hrest.noHead c (by rw [hsplit, hcons]; rfl)
    rw [hnumber c (List.mem_of_mem_drop (by rw [hcons]; exact List.mem_cons_self))] at hc
    cases hc
  subst hend
  have hrestEq : rest = tail := by
    rw [← hdrop, htail]
    exact List.drop_left
  subst hrestEq
  have hcopied : ((p ++ q).take 63).takeWhile isNumberChar = number := by
    rw [htail, List.append_assoc]
    refine takeWhile_take_append hnumber hlength fun c hc => hrest.noHead c ?_
    rwa [List.head?_append_of_ne_nil _ hrest.ne_nil] at hc
  rw [parseNumber]
  simp only [hcopied, hstrtod, Option.bind_eq_bind, Option.bind_some, List.length_nil,
    Nat.sub_zero]
  rw [htail, List.append_assoc, List.drop_left]

theorem parseScalar_cons (c : Char) (text : CString) : parseScalar (K := K) (c :: text) =
    if c = 'n' then parseWord "ull".toList .null text
    else if c = 'f' then parseWord "alse".toList (.bool false) text
    else if c = 't' then parseWord "rue".toList (.bool true) text
    else if c = '"' then
      (parseString (c :: text)).map fun (s, rest) => ((.string s : CJson K), rest)
    else if c = '-' ∨ c.isDigit then parseNumber (c :: text)
    else none := by
  have hnull : "null".toList.isPrefixOf (c :: text) =
      ('n' == c && "ull".toList.isPrefixOf text) := rfl
  have hfalse : "false".toList.isPrefixOf (c :: text) =
      ('f' == c && "alse".toList.isPrefixOf text) := rfl
  have htrue : "true".toList.isPrefixOf (c :: text) =
      ('t' == c && "rue".toList.isPrefixOf text) := rfl
  rw [parseScalar.eq_def, hnull, hfalse, htrue]
  by_cases hn : c = 'n'
  · subst hn
    unfold parseWord
    generalize "ull".toList.isPrefixOf text = found
    cases found <;> rfl
  by_cases hf : c = 'f'
  · subst hf
    unfold parseWord
    generalize "alse".toList.isPrefixOf text = found
    cases found <;> rfl
  by_cases ht : c = 't'
  · subst ht
    unfold parseWord
    generalize "rue".toList.isPrefixOf text = found
    cases found <;> rfl
  rw [beq_false_of_ne (Ne.symm hn), beq_false_of_ne (Ne.symm hf), beq_false_of_ne (Ne.symm ht)]
  simp only [Bool.false_and, Bool.false_eq_true, if_false, hn, hf, ht]
  split
  · rename_i heq
    cases heq
    rw [if_pos rfl]
  · rename_i hquote heq
    cases heq
    rw [if_neg hquote]
  · rename_i heq
    cases heq

theorem parseScalar_append {p rest : CString} {item : CJson K}
    (h : parseScalar p = some (item, rest)) (hrest : Settled item rest) (q : CString) :
    parseScalar (p ++ q) = some (item, rest ++ q) := by
  cases p with
  | nil => cases h
  | cons c p =>
    rw [parseScalar_cons] at h
    rw [List.cons_append, parseScalar_cons]
    split_ifs at h ⊢ with hn hf ht hquote hnumber
    · exact parseWord_append h q
    · exact parseWord_append h q
    · exact parseWord_append h q
    · obtain ⟨⟨s, after⟩, hstring, heq⟩ := Option.map_eq_some_iff.mp h
      cases heq
      rw [← List.cons_append, parseString_append hstring]
      rfl
    · refine parseNumber_append h (hrest.resolve_right fun hitem => ?_) q
      obtain ⟨⟨value, afterEnd⟩, -, h⟩ := Option.bind_eq_some_iff.mp h
      cases h
      exact hitem value rfl

end

-- ---------------------------------------------------------------------------
-- Values
-- ---------------------------------------------------------------------------

section
variable {K : Type}

/-- A parser of values that does not look past what it has settled on. -/
structure Stable (value : CString → Option (CJson K × CString)) : Prop where
  nil : value [] = none
  append : ∀ {p rest item}, value p = some (item, rest) → Settled item rest →
    ∀ q, value (p ++ q) = some (item, rest ++ q)

variable {value : CString → Option (CJson K × CString)}

theorem Stable.skip (h : Stable value) {p rest : CString} {item : CJson K}
    (hvalue : value (bufferSkipWhitespace p) = some (item, rest)) (hrest : Settled item rest)
    (q : CString) : value (bufferSkipWhitespace (p ++ q)) = some (item, rest ++ q) := by
  cases hskip : bufferSkipWhitespace p with
  | nil =>
    rw [hskip, h.nil] at hvalue
    cases hvalue
  | cons c text =>
    rw [hskip] at hvalue
    rw [bufferSkipWhitespace_append hskip, ← List.cons_append]
    exact h.append hvalue hrest q

theorem parseElements_append (h : Stable value) {q : CString} :
    ∀ {n p list rest}, parseElements value n p = some (list, rest) →
      ∀ n', n ≤ n' → parseElements value n' (p ++ q) = some (list, rest ++ q) := by
  intro n
  induction n with
  | zero =>
    intro p list rest hloop
    cases hloop
  | succ n ih =>
    intro p list rest hloop n' hn'
    obtain ⟨n', rfl⟩ : ∃ m, n' = m + 1 := ⟨n' - 1, by omega⟩
    obtain ⟨⟨item, after⟩, hvalue, hloop⟩ := Option.bind_eq_some_iff.mp hloop
    dsimp only at hloop
    split at hloop
    · rename_i more hcomma
      obtain ⟨⟨list', after'⟩, hnext, heq⟩ := Option.map_eq_some_iff.mp hloop
      cases heq
      have hclosed := closed_of_skip hcomma rfl
      simp only [parseElements, h.skip hvalue (.inl hclosed), Option.bind_eq_bind, Option.bind_some,
        bufferSkipWhitespace_append hcomma, ih hnext n' (by omega), Option.map_some]
    · rename_i more hbracket
      cases hloop
      have hclosed := closed_of_skip hbracket rfl
      simp only [parseElements, h.skip hvalue (.inl hclosed), Option.bind_eq_bind, Option.bind_some,
        bufferSkipWhitespace_append hbracket]
    · cases hloop

theorem parseArray_append (h : Stable value) {p rest : CString} {item : CJson K}
    (harray : parseArray value p = some (item, rest)) (q : CString) :
    parseArray value (p ++ q) = some (item, rest ++ q) := by
  unfold parseArray at harray
  split at harray
  · rename_i more hbracket
    cases harray
    rw [parseArray, bufferSkipWhitespace_append hbracket]
    rfl
  · rename_i hbracket
    obtain ⟨⟨list, after⟩, hloop, heq⟩ := Option.map_eq_some_iff.mp harray
    cases heq
    cases hskip : bufferSkipWhitespace p with
    | nil =>
      rw [hskip] at hloop
      cases hloop
    | cons c text =>
      rw [hskip] at hloop hbracket
      have hnext := parseElements_append h (q := q) hloop ((c :: text) ++ q).length
        (by simp)
      rw [parseArray, bufferSkipWhitespace_append hskip]
      split
      · rename_i heq
        cases heq
        exact absurd rfl (hbracket text)
      · rw [← List.cons_append, hnext]
        rfl

theorem parseMembers_append (h : Stable value) {q : CString} :
    ∀ {n p list rest}, parseMembers value n p = some (list, rest) →
      ∀ n', n ≤ n' → parseMembers value n' (p ++ q) = some (list, rest ++ q) := by
  intro n
  induction n with
  | zero =>
    intro p list rest hloop
    cases hloop
  | succ n ih =>
    intro p list rest hloop n' hn'
    obtain ⟨n', rfl⟩ : ∃ m, n' = m + 1 := ⟨n' - 1, by omega⟩
    obtain ⟨⟨name, afterName⟩, hname, hloop⟩ := Option.bind_eq_some_iff.mp hloop
    have hnameAppend : parseString (bufferSkipWhitespace (p ++ q)) =
        some (name, afterName ++ q) := by
      cases hskip : bufferSkipWhitespace p with
      | nil =>
        rw [hskip] at hname
        cases hname
      | cons c text =>
        rw [hskip] at hname
        rw [bufferSkipWhitespace_append hskip, ← List.cons_append]
        exact parseString_append hname q
    dsimp only at hloop
    split at hloop
    · rename_i more hcolon
      obtain ⟨⟨item, after⟩, hvalue, hloop⟩ := Option.bind_eq_some_iff.mp hloop
      dsimp only at hloop
      split at hloop
      · rename_i more' hcomma
        obtain ⟨⟨list', after'⟩, hnext, heq⟩ := Option.map_eq_some_iff.mp hloop
        cases heq
        have hclosed := closed_of_skip hcomma rfl
        simp only [parseMembers, hnameAppend, Option.bind_eq_bind, Option.bind_some,
          bufferSkipWhitespace_append hcolon, h.skip hvalue (.inl hclosed),
          bufferSkipWhitespace_append hcomma, ih hnext n' (by omega), Option.map_some]
      · rename_i more' hbrace
        cases hloop
        have hclosed := closed_of_skip hbrace rfl
        simp only [parseMembers, hnameAppend, Option.bind_eq_bind, Option.bind_some,
          bufferSkipWhitespace_append hcolon, h.skip hvalue (.inl hclosed),
          bufferSkipWhitespace_append hbrace]
      · cases hloop
    · cases hloop

theorem parseObject_append (h : Stable value) {p rest : CString} {item : CJson K}
    (hobject : parseObject value p = some (item, rest)) (q : CString) :
    parseObject value (p ++ q) = some (item, rest ++ q) := by
  unfold parseObject at hobject
  split at hobject
  · rename_i more hbrace
    cases hobject
    rw [parseObject, bufferSkipWhitespace_append hbrace]
    rfl
  · rename_i hbrace
    obtain ⟨⟨list, after⟩, hloop, heq⟩ := Option.map_eq_some_iff.mp hobject
    cases heq
    cases hskip : bufferSkipWhitespace p with
    | nil =>
      rw [hskip] at hloop
      cases hloop
    | cons c text =>
      rw [hskip] at hloop hbrace
      have hnext := parseMembers_append h (q := q) hloop ((c :: text) ++ q).length
        (by simp)
      rw [parseObject, bufferSkipWhitespace_append hskip]
      split
      · rename_i heq
        cases heq
        exact absurd rfl (hbrace text)
      · rw [← List.cons_append, hnext]
        rfl

variable [Neg K] [CDouble K]

theorem stable_parseValue (n : ℕ) : Stable (parseValue (K := K) n) := by
  induction n with
  | zero => exact ⟨rfl, fun h hrest q => parseScalar_append h hrest q⟩
  | succ n ih =>
    refine ⟨rfl, ?_⟩
    intro p rest item h hrest q
    unfold parseValue at h
    split at h
    · exact parseArray_append ih h q
    · exact parseObject_append ih h q
    · rename_i harray hobject
      cases p with
      | nil => cases h
      | cons c text =>
        rw [List.cons_append, parseValue_scalar _ (by rintro rfl; exact harray text rfl)
          (by rintro rfl; exact hobject text rfl), ← List.cons_append]
        exact parseScalar_append h hrest q

-- ---------------------------------------------------------------------------
-- Texts
-- ---------------------------------------------------------------------------

theorem parseValue_bom (n : ℕ) (rest : CString) :
    parseValue (K := K) n (Char.ofNat 0xEF :: rest) = none := by
  rw [parseValue_scalar n (by decide) (by decide), parseScalar_cons, if_neg (by decide),
    if_neg (by decide), if_neg (by decide), if_neg (by decide), if_neg (by decide)]

theorem skipUtf8Bom_append {p rest : CString} {item : CJson K}
    (h : parseValue nestingLimit (bufferSkipWhitespace (skipUtf8Bom p)) = some (item, rest))
    (q : CString) : skipUtf8Bom (p ++ q) = skipUtf8Bom p ++ q := by
  unfold skipUtf8Bom at h ⊢
  split at h
  · rename_i hbom
    have htake : (p ++ q).take 3 = p.take 3 := List.take_append_of_le_length (by omega)
    rw [if_pos hbom, if_pos ⟨by rw [List.length_append]; omega, htake.trans hbom.2⟩,
      List.drop_append_of_le_length (by omega)]
  · rename_i hbom
    cases p with
    | nil => cases h
    | cons c p =>
      have hc : c ≠ Char.ofNat 0xEF := by
        rintro rfl
        rw [bufferSkipWhitespace_cons (by decide), parseValue_bom] at h
        cases h
      rw [if_neg hbom, if_neg]
      rintro ⟨-, heq⟩
      exact hc (List.cons.inj heq).1

theorem cJSONParse_append {p : CString} {item : CJson K} (h : cJSONParse p = some item)
    (hitem : ∀ d, item ≠ .number d) (q : CString) : cJSONParse (p ++ q) = some item := by
  obtain ⟨⟨item', rest⟩, hparse, rfl⟩ := Option.map_eq_some_iff.mp h
  rw [cJSONParse, skipUtf8Bom_append hparse,
    (stable_parseValue nestingLimit).skip hparse (.inr hitem) q]
  rfl

theorem Spells.cut {p q : CString} {item item' : CJson K} (h : Spells nestingLimit item (p ++ q))
    (hq : q ≠ []) (hp : WfPublisher.cJSONParse p = some item') : ∃ d, item' = .number d := by
  by_contra hnumber
  obtain ⟨⟨_, rest⟩, hparse, rfl⟩ := Option.map_eq_some_iff.mp hp
  have hwhole := (stable_parseValue nestingLimit).skip hparse
    (.inr fun d hd => hnumber ⟨d, hd⟩) q
  have hbom : skipUtf8Bom (p ++ q) = p ++ q := by
    obtain ⟨c, tail, htext, hc⟩ := h.ne_bom
    rw [htext]
    exact skipUtf8Bom_cons hc tail
  have hskip := h.opens.skip white_nil []
  have hread := h.parseValue [] (.of_noHead (by simp [NoHead]))
  rw [List.nil_append, List.append_nil] at hskip
  rw [← skipUtf8Bom_append hparse, hbom, hskip] at hwhole
  rw [List.append_nil, hwhole] at hread
  exact hq (List.append_eq_nil_iff.mp (Prod.mk.inj (Option.some.inj hread)).2).2

-- ---------------------------------------------------------------------------
-- Items
-- ---------------------------------------------------------------------------

def AnyNumber : K → Prop := fun _ => True

theorem parseScalar_storable {n : ℕ} {p rest : CString} {item : CJson K}
    (h : parseScalar p = some (item, rest)) : Storable AnyNumber n item := by
  cases p with
  | nil => cases h
  | cons c p =>
    rw [parseScalar_cons] at h
    have hword : ∀ {word : CString} {item' : CJson K}, Storable AnyNumber n item' →
        parseWord word item' p = some (item, rest) → Storable AnyNumber n item := by
      intro word item' hitem' hparse
      unfold parseWord at hparse
      split at hparse
      · cases hparse
        exact hitem'
      · cases hparse
    split_ifs at h
    · exact hword .null h
    · exact hword (.bool false) h
    · exact hword (.bool true) h
    · obtain ⟨⟨s, after⟩, hstring, heq⟩ := Option.map_eq_some_iff.mp h
      cases heq
      exact .string (parseString_nul hstring)
    · obtain ⟨⟨value, afterEnd⟩, -, heq⟩ := Option.bind_eq_some_iff.mp h
      cases heq
      exact .number trivial

omit [Neg K] [CDouble K] in
theorem parseElements_storable {value : CString → Option (CJson K × CString)} {n : ℕ}
    (h : ∀ {p rest item}, value p = some (item, rest) → Storable AnyNumber n item) :
    ∀ {fuel p list rest}, parseElements value fuel p = some (list, rest) →
      ∀ item ∈ list, Storable AnyNumber n item := by
  intro fuel
  induction fuel with
  | zero =>
    intro p list rest hloop
    cases hloop
  | succ fuel ih =>
    intro p list rest hloop
    obtain ⟨⟨item, after⟩, hvalue, hloop⟩ := Option.bind_eq_some_iff.mp hloop
    dsimp only at hloop
    split at hloop
    · obtain ⟨⟨list', after'⟩, hnext, heq⟩ := Option.map_eq_some_iff.mp hloop
      cases heq
      exact List.forall_mem_cons.mpr ⟨h hvalue, ih hnext⟩
    · cases hloop
      exact List.forall_mem_singleton.mpr (h hvalue)
    · cases hloop

omit [Neg K] [CDouble K] in
theorem parseMembers_storable {value : CString → Option (CJson K × CString)} {n : ℕ}
    (h : ∀ {p rest item}, value p = some (item, rest) → Storable AnyNumber n item) :
    ∀ {fuel p list rest}, parseMembers value fuel p = some (list, rest) →
      ∀ m ∈ list, Char.ofNat 0 ∉ m.1 ∧ Storable AnyNumber n m.2 := by
  intro fuel
  induction fuel with
  | zero =>
    intro p list rest hloop
    cases hloop
  | succ fuel ih =>
    intro p list rest hloop
    obtain ⟨⟨name, afterName⟩, hname, hloop⟩ := Option.bind_eq_some_iff.mp hloop
    dsimp only at hloop
    split at hloop
    · obtain ⟨⟨item, after⟩, hvalue, hloop⟩ := Option.bind_eq_some_iff.mp hloop
      dsimp only at hloop
      split at hloop
      · obtain ⟨⟨list', after'⟩, hnext, heq⟩ := Option.map_eq_some_iff.mp hloop
        cases heq
        exact List.forall_mem_cons.mpr ⟨⟨parseString_nul hname, h hvalue⟩, ih hnext⟩
      · cases hloop
        exact List.forall_mem_singleton.mpr ⟨parseString_nul hname, h hvalue⟩
      · cases hloop
    · cases hloop

theorem parseValue_storable :
    ∀ {n p rest} {item : CJson K}, parseValue n p = some (item, rest) →
      Storable AnyNumber n item := by
  intro n
  induction n with
  | zero => exact fun h => parseScalar_storable h
  | succ n ih =>
    intro p rest item h
    unfold parseValue at h
    split at h
    · unfold parseArray at h
      split at h
      · cases h
        exact .array fun _ hitem => absurd hitem List.not_mem_nil
      · obtain ⟨⟨list, after⟩, hloop, heq⟩ := Option.map_eq_some_iff.mp h
        cases heq
        exact .array (parseElements_storable ih hloop)
    · unfold parseObject at h
      split at h
      · cases h
        exact .object (fun _ hm => absurd hm List.not_mem_nil)
          fun _ hm => absurd hm List.not_mem_nil
      · obtain ⟨⟨list, after⟩, hloop, heq⟩ := Option.map_eq_some_iff.mp h
        cases heq
        have hall := parseMembers_storable ih hloop
        exact .object (fun m hm => (hall m hm).1) fun m hm => (hall m hm).2
    · exact parseScalar_storable h

end

-- ---------------------------------------------------------------------------
-- Printed again
-- ---------------------------------------------------------------------------

section
variable {K : Type}

mutual

def numbers : CJson K → List K
  | .null => []
  | .bool _ => []
  | .number d => [d]
  | .string _ => []
  | .array items => numbersOfItems items
  | .object members => numbersOfMembers members

def numbersOfItems : List (CJson K) → List K
  | [] => []
  | item :: next => numbers item ++ numbersOfItems next

def numbersOfMembers : List (CString × CJson K) → List K
  | [] => []
  | (_, item) :: next => numbers item ++ numbersOfMembers next

end

theorem mem_numbersOfItems {items : List (CJson K)} {item : CJson K} (h : item ∈ items) {d : K}
    (hd : d ∈ numbers item) : d ∈ numbersOfItems items := by
  induction items with
  | nil => cases h
  | cons first next ih =>
    rw [numbersOfItems, List.mem_append]
    obtain rfl | h := List.mem_cons.mp h
    · exact .inl hd
    · exact .inr (ih h)

theorem mem_numbersOfMembers {members : List (CString × CJson K)} {m : CString × CJson K}
    (h : m ∈ members) {d : K} (hd : d ∈ numbers m.2) : d ∈ numbersOfMembers members := by
  induction members with
  | nil => cases h
  | cons first next ih =>
    rw [numbersOfMembers, List.mem_append]
    obtain rfl | h := List.mem_cons.mp h
    · exact .inl hd
    · exact .inr (ih h)

variable [Field K] [LinearOrder K] [FloorRing K]

theorem roundItems_eq (items : List (CJson K)) : roundItems items = items.map roundNumbers := by
  induction items with
  | nil => rfl
  | cons item next ih => rw [roundItems, ih, List.map_cons]

theorem roundMembers_eq (members : List (CString × CJson K)) :
    roundMembers members = members.map fun m => (m.1, roundNumbers m.2) := by
  induction members with
  | nil => rfl
  | cons m next ih => rw [roundMembers, ih, List.map_cons]

theorem Storable.round {n : ℕ} {item : CJson K} (h : Storable AnyNumber n item)
    (hdouble : ∀ d ∈ numbers item, IsDouble (toDouble d)) :
    Storable IsDouble n (roundNumbers item) := by
  induction h with
  | null => exact .null
  | bool b => exact .bool b
  | number => exact .number (hdouble _ (List.mem_singleton.mpr rfl))
  | string h => exact .string h
  | array _ ih =>
    rw [roundNumbers, roundItems_eq]
    refine .array fun item hitem => ?_
    obtain ⟨item, hmem, rfl⟩ := List.mem_map.mp hitem
    exact ih item hmem fun d hd => hdouble d (mem_numbersOfItems hmem hd)
  | object hname _ ih =>
    rw [roundNumbers, roundMembers_eq]
    refine .object (fun m hm => ?_) fun m hm => ?_
    · obtain ⟨m, hmem, rfl⟩ := List.mem_map.mp hm
      exact hname m hmem
    · obtain ⟨m, hmem, rfl⟩ := List.mem_map.mp hm
      exact ih m hmem fun d hd => hdouble d (mem_numbersOfMembers hmem hd)

/-- Whatever text was accepted, the item has no more levels than allowed, no NUL
in its strings, and is printed as a text that gives the same item again. -/
theorem accepted_item [IsStrictOrderedRing K] {text : CString} {item : CJson K}
    (h : cJSONParse text = some item) :
    Storable AnyNumber nestingLimit item ∧
      ((∀ d ∈ numbers item, IsDouble (toDouble d)) →
        ∀ format, ∃ printed, printValue format 0 (roundNumbers item) = some printed ∧
          (cJSONParse printed).map roundNumbers = some (roundNumbers item)) := by
  obtain ⟨⟨item', rest⟩, hparse, rfl⟩ := Option.map_eq_some_iff.mp h
  have hitem := parseValue_storable hparse
  exact ⟨hitem, fun hdouble format => ((hitem.round hdouble).prints format 0).parse⟩

/-- A name, one string that is cut short by its escapes, and two numbers, one no double. -/
def acceptedText : CString :=
  "\x7b\"name\":\"\\uZZZ\\\\\",\"obs\":[[0.1,-2.5e1,\"\\u00e9\"]]\x7d?".toList

def acceptedReport : CJson ℚ :=
  .object [("name".toList, .string []),
    ("obs".toList, .array [.array [.number 0.1, .number (-25), .string (utf8 (Char.ofNat 0xe9))]])]

theorem accepted_item_report : Storable AnyNumber nestingLimit acceptedReport ∧
    ∀ format, ∃ printed, printValue format 0 (roundNumbers acceptedReport) = some printed ∧
      (cJSONParse printed).map roundNumbers = some (roundNumbers acceptedReport) := by
  have hparse : cJSONParse acceptedText = some acceptedReport := by
    obtain ⟨x, y, htext, rfl, rfl⟩ : ∃ x y : ℚ, cJSONParse acceptedText =
        some (.object [("name".toList, .string []), ("obs".toList,
          .array [.array [.number x, .number y, .string (utf8 (Char.ofNat 0xe9))]])]) ∧
        x = 0.1 ∧ y = -25 := ⟨_, _, rfl, by decide +kernel, by decide +kernel⟩
    exact htext
  obtain ⟨hstorable, hprints⟩ := accepted_item hparse
  refine ⟨hstorable, hprints ?_⟩
  have hnumbers : numbers acceptedReport = [0.1, -25] := rfl
  have htenth : toDouble (0.1 : ℚ) = 3602879701896397 / 2 ^ 55 := by decide +kernel
  have hwhole : toDouble (-25 : ℚ) = -25 := by decide +kernel
  rw [hnumbers]
  refine List.forall_mem_cons.mpr ⟨?_, List.forall_mem_singleton.mpr ?_⟩
  · rw [htenth]
    exact ⟨3602879701896397, -55, by decide, by decide, by decide, by norm_num⟩
  · rw [hwhole]
    exact ⟨-25, 0, by decide, by decide, by decide, by norm_num⟩

end

end WfPublisher.Syntax
