import Mathlib
import WfPublisher.CJson.PrintBuffer
import WfPublisher.Lib.Fallible

/-!
# Strings are read into memory

`parse_string` measures a literal and allocates a block before it copies and
unescapes. The first loop takes a backslash and the byte after it together; the
second goes on where an invalid `\u` literal ends, which may be between the two.
The block is large enough all the same.
-/

namespace WfPublisher.ParseString

open Fallible TextBuffer

-- ---------------------------------------------------------------------------
-- `parse_string`
-- ---------------------------------------------------------------------------

/-- How far `input_end` is behind the opening quote, and how many bytes are
skipped on the way. -/
def findEnd : CString → Option (ℕ × ℕ)
  | [] => none
  | '"' :: _ => some (0, 0)
  | '\\' :: _ :: rest => (findEnd rest).map fun (length, skipped) => (length + 2, skipped + 1)
  | _ :: rest => (findEnd rest).map fun (length, skipped) => (length + 1, skipped)

def unescapedLetter (c : Char) : Option Char :=
  if c = 'b' then some (Char.ofNat 8)
  else if c = 'f' then some (Char.ofNat 12)
  else if c = 'n' then some '\n'
  else if c = 'r' then some '\r'
  else if c = 't' then some '\t'
  else if c = '"' ∨ c = '\\' ∨ c = '/' then some c
  else none

def write (output : CString) (position : ℕ) (bytes : CString) : Except Stop CString :=
  match store output position bytes with
  | none => .error .overrun
  | some output => .ok output

/-- The loop through the literal, with the bytes from the input pointer on and how
many of them are before `input_end`. Each round is nearer to it. -/
def copyLoop : ℕ → ℕ → CString → ℕ → CString → Except Stop (ℕ × CString)
  | _, 0, _, position, output => .ok (position, output)
  | 0, _ + 1, _, _, _ => .error .overrun
  | _ + 1, _ + 1, [], _, _ => .error .overrun
  | fuel + 1, left + 1, c :: input, position, output =>
    if c ≠ '\\' then do
      let output ← write output position [c]
      copyLoop fuel left input (position + 1) output
    else
      match input with
      | [] => .error .overrun
      | letter :: rest =>
        match unescapedLetter letter with
        | some byte => do
          let output ← write output position [byte]
          copyLoop fuel (left - 1) rest (position + 1) output
        | none =>
          if letter = 'u' then
            match utf16LiteralToUtf8 ((c :: input).take (left + 1)) with
            | none => .error .refused
            | some (bytes, sequenceLength) => do
              let output ← write output position bytes
              copyLoop fuel (left + 1 - sequenceLength) ((c :: input).drop sequenceLength)
                (position + bytes.length) output
          else .error .refused

def parseString (hooks : Hooks) : CString → Except Stop (CString × CString)
  | '"' :: content =>
    match findEnd content with
    | none => .error .refused
    | some (inputEnd, skippedBytes) =>
      let allocationLength := inputEnd + 1 - skippedBytes
      match hooks.allocate (allocationLength + 1) with
      | none => .error .refused
      | some output => do
        let (position, output) ← copyLoop inputEnd inputEnd content 0 output
        let output ← write output position [nul]
        return (output, content.drop (inputEnd + 1))
  | _ => .error .refused

-- ---------------------------------------------------------------------------
-- Measures
-- ---------------------------------------------------------------------------

/-- The first loop goes through the text in so many rounds and ends with it. -/
inductive Rounds : CString → ℕ → Prop
  | nil : Rounds [] 0
  | plain {c : Char} {rest : CString} {n : ℕ} :
      c ≠ '\\' → Rounds rest n → Rounds (c :: rest) (n + 1)
  | escape {c : Char} {rest : CString} {n : ℕ} : Rounds rest n → Rounds ('\\' :: c :: rest) (n + 1)

/-- So many bytes are enough for the second loop: it is where a round of the first
loop begins, or inside one and a byte ahead of it. -/
def Enough (rest : CString) (n : ℕ) : Prop :=
  (∃ m ≤ n, Rounds rest m) ∨ ∃ c rest' m, rest = c :: rest' ∧ m < n ∧ Rounds rest' m

theorem findEnd_plain {c : Char} (hquote : c ≠ '"') (hbackslash : c ≠ '\\') (rest : CString) :
    findEnd (c :: rest) =
      (findEnd rest).map fun (length, skipped) => (length + 1, skipped) := by
  rw [findEnd]
  · exact hquote
  · intro c' rest' h
    exact absurd h hbackslash

theorem ne_backslash {c : Char} {rest : CString} {r : CString × CString}
    (hescape : ∀ d rest', c = '\\' → rest = d :: rest' → False) (h : scanString rest = some r) :
    c ≠ '\\' := by
  rintro rfl
  cases rest with
  | nil => cases h
  | cons d rest => exact hescape d rest rfl rfl

theorem scanString_rounds {content raw after : CString}
    (h : scanString content = some (raw, after)) :
    content = raw ++ '"' :: after ∧
      ∃ skipped, findEnd content = some (raw.length, skipped) ∧ skipped ≤ raw.length ∧
        Rounds raw (raw.length - skipped) := by
  fun_induction scanString content generalizing raw with
  | case1 => cases h
  | case2 rest =>
    cases h
    exact ⟨rfl, 0, rfl, le_rfl, .nil⟩
  | case3 c rest ih =>
    obtain ⟨⟨raw', after'⟩, hrest, heq⟩ := Option.map_eq_some_iff.mp h
    cases heq
    obtain ⟨rfl, skipped, hend, hle, hrounds⟩ := ih hrest
    refine ⟨rfl, skipped + 1, by rw [findEnd, hend]; rfl, ?_, ?_⟩
    · rw [List.length_cons, List.length_cons]
      omega
    · rw [List.length_cons, List.length_cons,
        show raw'.length + 1 + 1 - (skipped + 1) = raw'.length - skipped + 1 by omega]
      exact .escape hrounds
  | case4 c rest hquote hescape ih =>
    obtain ⟨⟨raw', after'⟩, hrest, heq⟩ := Option.map_eq_some_iff.mp h
    cases heq
    have hbackslash := ne_backslash hescape hrest
    obtain ⟨rfl, skipped, hend, hle, hrounds⟩ := ih hrest
    refine ⟨rfl, skipped, by rw [findEnd_plain hquote hbackslash, hend]; rfl, ?_, ?_⟩
    · rw [List.length_cons]
      omega
    · rw [List.length_cons, show raw'.length + 1 - skipped = raw'.length - skipped + 1 by omega]
      exact .plain hbackslash hrounds

theorem findEnd_none {content : CString} (h : scanString content = none) :
    findEnd content = none := by
  fun_induction scanString content with
  | case1 => rfl
  | case2 rest => cases h
  | case3 c rest ih => rw [findEnd, ih (Option.map_eq_none_iff.mp h)]; rfl
  | case4 c rest hquote hescape ih =>
    rw [findEnd, ih (Option.map_eq_none_iff.mp h)]
    · rfl
    · exact hquote
    · exact hescape

theorem Rounds.tail {c : Char} {rest : CString} {n : ℕ} (h : Rounds (c :: rest) n) :
    Enough rest n := by
  cases h with
  | plain _ hrest => exact .inl ⟨_, Nat.le_succ _, hrest⟩
  | escape hrest => exact .inr ⟨_, _, _, rfl, Nat.lt_succ_self _, hrest⟩

theorem Enough.mono {rest : CString} {m n : ℕ} (h : Enough rest m) (hmn : m ≤ n) :
    Enough rest n := by
  obtain ⟨k, hk, hrounds⟩ | ⟨c, rest', k, rfl, hk, hrounds⟩ := h
  · exact .inl ⟨k, hk.trans hmn, hrounds⟩
  · exact .inr ⟨c, rest', k, rfl, hk.trans_le hmn, hrounds⟩

theorem Enough.plain {c : Char} {rest : CString} {n : ℕ} (h : Enough (c :: rest) n)
    (hc : c ≠ '\\') : 0 < n ∧ Enough rest (n - 1) := by
  obtain ⟨m, hm, hrounds⟩ | ⟨c', rest', m, heq, hm, hrounds⟩ := h
  · cases hrounds with
    | plain _ hrest => exact ⟨by omega, .inl ⟨_, by omega, hrest⟩⟩
    | escape => exact absurd rfl hc
  · cases heq
    exact ⟨by omega, .inl ⟨m, by omega, hrounds⟩⟩

theorem Enough.pair {c c' : Char} {rest : CString} {n : ℕ} (h : Enough (c :: c' :: rest) n) :
    0 < n ∧ Enough rest (n - 1) := by
  obtain ⟨m, hm, hrounds⟩ | ⟨c'', rest', m, heq, hm, hrounds⟩ := h
  · cases hrounds with
    | plain _ hrest => exact ⟨by omega, hrest.tail.mono (by omega)⟩
    | escape hrest => exact ⟨by omega, .inl ⟨_, by omega, hrest⟩⟩
  · cases heq
    exact ⟨by omega, hrounds.tail.mono (by omega)⟩

theorem Enough.pairs (k : ℕ) : ∀ {rest : CString} {n : ℕ}, Enough rest n → 2 * k ≤ rest.length →
    k ≤ n ∧ Enough (rest.drop (2 * k)) (n - k) := by
  induction k with
  | zero => exact fun h _ => ⟨Nat.zero_le _, h⟩
  | succ k ih =>
    intro rest n h hlength
    match rest, h, hlength with
    | [_], _, hlength =>
      rw [List.length_singleton] at hlength
      omega
    | c :: c' :: rest, h, hlength =>
      obtain ⟨hpos, hrest⟩ := h.pair
      rw [List.length_cons, List.length_cons] at hlength
      obtain ⟨hk, hrest⟩ := ih hrest (by omega)
      rw [Nat.sub_sub, Nat.add_comm 1] at hrest
      exact ⟨by omega, hrest⟩

theorem Enough.backslash {n : ℕ} (h : Enough ['\\'] n) : 0 < n := by
  obtain ⟨m, hm, hrounds⟩ | ⟨_, _, m, -, hm, -⟩ := h
  · cases hrounds with
    | plain hc => exact absurd rfl hc
  · omega

-- ---------------------------------------------------------------------------
-- The second loop
-- ---------------------------------------------------------------------------

theorem hexDigit_lt {c : Char} {digit : ℕ} (h : hexDigit c = some digit) : digit < 16 := by
  unfold hexDigit at h
  split_ifs at h with hdecimal hcapital hsmall <;> cases h
  · have hle : c.toNat ≤ 57 := hdecimal.2
    change c.toNat - 48 < 16
    omega
  · have hle : c.toNat ≤ 70 := hcapital.2
    change 10 + c.toNat - 65 < 16
    omega
  · have hle : c.toNat ≤ 102 := hsmall.2
    change 10 + c.toNat - 97 < 16
    omega

theorem mapM_hexDigit {input : CString} {digits : List ℕ}
    (h : input.mapM hexDigit = some digits) :
    digits.length = input.length ∧ ∀ digit ∈ digits, digit < 16 := by
  induction input generalizing digits with
  | nil =>
    cases h
    exact ⟨rfl, fun _ hmem => absurd hmem List.not_mem_nil⟩
  | cons c input ih =>
    rw [List.mapM_cons] at h
    obtain ⟨digit, hdigit, h⟩ := Option.bind_eq_some_iff.mp h
    obtain ⟨rest, hrest, h⟩ := Option.bind_eq_some_iff.mp h
    cases h
    obtain ⟨hlength, hall⟩ := ih hrest
    exact ⟨congrArg (· + 1) hlength, List.forall_mem_cons.mpr ⟨hexDigit_lt hdigit, hall⟩⟩

theorem parseHex4_lt (input : CString) : parseHex4 input < 0x10000 := by
  unfold parseHex4
  split
  · rename_i digits hdigits
    obtain ⟨hlength, hall⟩ := mapM_hexDigit hdigits
    have hlt := Nat.ofDigits_lt_base_pow_length (b := 16) (l := digits.reverse) (by decide)
      fun digit hmem => hall digit (List.mem_reverse.mp hmem)
    refine hlt.trans_le (Nat.pow_le_pow_right (n := 16) (by decide) (?_ : _ ≤ 4))
    rw [List.length_reverse, hlength]
    exact List.length_take_le _ _
  · decide

theorem length_utf8Bytes_le {codepoint : ℕ} :
    (utf8Bytes codepoint).length ≤ 4 ∧
      (codepoint < 0x10000 → (utf8Bytes codepoint).length ≤ 3) := by
  unfold utf8Bytes
  refine ⟨?_, fun h => ?_⟩
  · split_ifs <;> simp
  · rw [if_pos h]
    split_ifs <;> simp

theorem utf16LiteralToUtf8_pairs {input bytes : CString} {sequenceLength : ℕ}
    (h : utf16LiteralToUtf8 input = some (bytes, sequenceLength)) :
    ∃ k, sequenceLength = 2 * k ∧ 0 < k ∧ 2 * k ≤ input.length ∧ bytes.length ≤ k := by
  unfold utf16LiteralToUtf8 at h
  dsimp only at h
  split_ifs at h with hsix hlow hhigh htwelve hletters hsecond
  · cases h
    rw [List.length_drop] at htwelve
    refine ⟨6, rfl, by decide, by omega, ?_⟩
    rw [List.length_map]
    exact length_utf8Bytes_le.1.trans (by decide)
  · cases h
    refine ⟨3, rfl, by decide, by omega, ?_⟩
    rw [List.length_map]
    exact length_utf8Bytes_le.2 (parseHex4_lt _)

theorem unescape_plain {c : Char} (hc : c ≠ '\\') (n : ℕ) (rest : CString) :
    unescape (n + 1) (c :: rest) = (unescape n rest).map ([c] ++ ·) := by
  rw [unescape]
  · rfl
  · exact hc

theorem unescape_letter {letter byte : Char} (h : unescapedLetter letter = some byte) (n : ℕ)
    (rest : CString) :
    unescape (n + 1) ('\\' :: letter :: rest) = (unescape n rest).map ([byte] ++ ·) := by
  unfold unescapedLetter at h
  split_ifs at h with hb hf hn hr ht hself
  · cases h
    subst hb
    rfl
  · cases h
    subst hf
    rfl
  · cases h
    subst hn
    rfl
  · cases h
    subst hr
    rfl
  · cases h
    subst ht
    rfl
  · cases h
    obtain rfl | rfl | rfl := hself <;> rfl

theorem unescape_unicode (n : ℕ) (rest : CString) :
    unescape (n + 1) ('\\' :: 'u' :: rest) =
      match utf16LiteralToUtf8 ('\\' :: 'u' :: rest) with
      | some (output, taken) =>
        (unescape n (('\\' :: 'u' :: rest).drop taken)).map (output ++ ·)
      | none => none := rfl

theorem unescape_other {letter : Char} (h : unescapedLetter letter = none) (hu : letter ≠ 'u')
    (n : ℕ) (rest : CString) : unescape (n + 1) ('\\' :: letter :: rest) = none := by
  unfold unescapedLetter at h
  split_ifs at h with hb hf hn hr ht hself
  simp only [not_or] at hself
  simp [unescape, hb, hf, hn, hr, ht, hself, hu]

theorem write_ok {output bytes : CString} {position : ℕ}
    (h : position + bytes.length ≤ output.length) :
    ∃ output', write output position bytes = .ok output' ∧ output'.length = output.length ∧
      output'.take (position + bytes.length) = output.take position ++ bytes := by
  refine ⟨_, by rw [write, store, if_pos h], ?_, ?_⟩
  · simp only [List.length_append, List.length_take, List.length_drop]
    omega
  · have htake : (output.take position).length = position := by
      rw [List.length_take]
      omega
    rw [← List.append_assoc, List.take_append_of_le_length
      (by rw [List.length_append, htake]), List.take_of_length_le
      (by rw [List.length_append, htake])]

def Copies (unescaped : Option CString) (position : ℕ) (output : CString) :
    Except Stop (ℕ × CString) → Prop
  | .ok (position', output') => position' < output'.length ∧ output'.length = output.length ∧
    ∃ bytes, unescaped = some bytes ∧ output'.take position' = output.take position ++ bytes
  | .error .overrun => False
  | .error .refused => unescaped = none

theorem Copies.round {unescaped rest : Option CString} {position : ℕ} {output bytes : CString}
    {next : CString → Except Stop (ℕ × CString)}
    (hroom : position + bytes.length ≤ output.length)
    (hunescape : unescaped = rest.map (bytes ++ ·))
    (hnext : ∀ output', output'.length = output.length →
      Copies rest (position + bytes.length) output' (next output')) :
    Copies unescaped position output (write output position bytes >>= next) := by
  obtain ⟨output', hwrite, hlength, htake⟩ := write_ok hroom
  have hcopies := hnext output' hlength
  rw [hwrite]
  change Copies unescaped position output (next output')
  subst hunescape
  cases hresult : next output' with
  | ok result =>
    rw [hresult] at hcopies
    obtain ⟨hposition, hlength', bytes', rfl, hbytes⟩ := hcopies
    refine ⟨hposition, hlength'.trans hlength, bytes ++ bytes', rfl, ?_⟩
    rw [hbytes, htake, List.append_assoc]
  | error stop =>
    rw [hresult] at hcopies
    cases stop with
    | overrun => exact hcopies
    | refused => exact Option.map_eq_none_iff.mpr hcopies

section
variable {fuel left position : ℕ} {rest output : CString}

theorem copyLoop_end : copyLoop fuel 0 rest position output = .ok (position, output) := by
  cases fuel <;> rfl

theorem copyLoop_plain {c : Char} (hc : c ≠ '\\') :
    copyLoop (fuel + 1) (left + 1) (c :: rest) position output =
      write output position [c] >>= copyLoop fuel left rest (position + 1) := if_pos hc

theorem copyLoop_letter {letter byte : Char} (h : unescapedLetter letter = some byte) :
    copyLoop (fuel + 1) (left + 1) ('\\' :: letter :: rest) position output =
      write output position [byte] >>= copyLoop fuel (left - 1) rest (position + 1) := by
  conv_lhs => unfold copyLoop
  simp only [ne_eq, not_true_eq_false, if_false, h]

theorem copyLoop_unicode :
    copyLoop (fuel + 1) (left + 1) ('\\' :: 'u' :: rest) position output =
      match utf16LiteralToUtf8 (('\\' :: 'u' :: rest).take (left + 1)) with
      | none => .error .refused
      | some (bytes, sequenceLength) =>
        write output position bytes >>= copyLoop fuel (left + 1 - sequenceLength)
          (('\\' :: 'u' :: rest).drop sequenceLength) (position + bytes.length) := rfl

theorem copyLoop_other {letter : Char} (h : unescapedLetter letter = none) (hu : letter ≠ 'u') :
    copyLoop (fuel + 1) (left + 1) ('\\' :: letter :: rest) position output = .error .refused := by
  conv_lhs => unfold copyLoop
  simp only [ne_eq, not_true_eq_false, if_false, h, hu]

end

theorem copyLoop_copies (after : CString) (fuel : ℕ) : ∀ {raw output : CString} {position n : ℕ},
    raw.length ≤ fuel → Enough raw n → position + n < output.length →
      Copies (unescape fuel raw) position output
        (copyLoop fuel raw.length (raw ++ '"' :: after) position output) := by
  induction fuel with
  | zero =>
    intro raw output position n hfuel _ hroom
    rw [List.eq_nil_of_length_eq_zero (Nat.le_zero.mp hfuel)]
    exact ⟨by omega, rfl, [], rfl, (List.append_nil _).symm⟩
  | succ fuel ih =>
    intro raw output position n hfuel henough hroom
    match raw, hfuel, henough with
    | [], _, _ => exact ⟨by omega, rfl, [], rfl, (List.append_nil _).symm⟩
    | c :: rest, hfuel, henough =>
      rw [List.length_cons] at hfuel
      by_cases hplain : c ≠ '\\'
      · obtain ⟨hpos, hrest⟩ := henough.plain hplain
        rw [List.length_cons, List.cons_append, copyLoop_plain hplain]
        refine Copies.round (by rw [List.length_singleton]; omega) (unescape_plain hplain fuel rest)
          fun output' hlength => ?_
        exact ih (by omega) hrest (by rw [List.length_singleton]; omega)
      obtain rfl := not_not.mp hplain
      match rest, hfuel, henough with
      | [], _, henough =>
        -- the closing quote is taken for the letter
        have hpos := henough.backslash
        rw [List.length_singleton, List.singleton_append, copyLoop_letter rfl]
        refine @Copies.round _ (some []) _ _ _ _ (by rw [List.length_singleton]; omega) rfl
          fun output' hlength => ?_
        rw [copyLoop_end]
        exact ⟨by omega, rfl, [], rfl, (List.append_nil _).symm⟩
      | letter :: rest, hfuel, henough =>
        rw [List.length_cons] at hfuel
        cases hletter : unescapedLetter letter with
        | some byte =>
          obtain ⟨hpos, hrest⟩ := henough.pair
          rw [List.length_cons, List.length_cons, List.cons_append, List.cons_append,
            copyLoop_letter hletter]
          refine Copies.round (by rw [List.length_singleton]; omega)
            (unescape_letter hletter fuel rest) fun output' hlength => ?_
          exact ih (by omega) hrest (by rw [List.length_singleton]; omega)
        | none =>
          by_cases hu : letter = 'u'
          · subst hu
            have htake : ('\\' :: 'u' :: (rest ++ '"' :: after)).take (rest.length + 1 + 1) =
                '\\' :: 'u' :: rest := by
              rw [List.take_succ_cons, List.take_succ_cons, List.take_left]
            rw [List.length_cons, List.length_cons, List.cons_append, List.cons_append,
              copyLoop_unicode, htake, unescape_unicode]
            cases hutf : utf16LiteralToUtf8 ('\\' :: 'u' :: rest) with
            | none => exact rfl
            | some r =>
              obtain ⟨bytes, sequenceLength⟩ := r
              obtain ⟨k, rfl, hk, hle, hbytes⟩ := utf16LiteralToUtf8_pairs hutf
              obtain ⟨hpos, hrest⟩ := henough.pairs k hle
              refine Copies.round (by omega) rfl fun output' hlength => ?_
              have hnext := ih
                (by rw [List.length_drop, List.length_cons, List.length_cons]; omega) hrest
                (show position + bytes.length + (n - k) < output'.length by omega)
              rw [List.length_drop] at hnext
              rw [← List.cons_append, ← List.cons_append, List.drop_append_of_le_length hle]
              exact hnext
          · rw [List.length_cons, List.cons_append, List.cons_append, copyLoop_other hletter hu]
            exact unescape_other hletter hu fuel rest

theorem takeWhile_nul (bytes rest : CString) :
    (bytes ++ nul :: rest).takeWhile (· ≠ nul) = bytes.takeWhile (· ≠ nul) := by
  rw [List.takeWhile_append]
  split
  · rename_i hall
    rw [List.takeWhile_cons_of_neg (by simp), List.append_nil,
      (List.takeWhile_prefix _).eq_of_length hall]
  · rfl

/-- The NUL at the end of the copied bytes. -/
theorem write_nul {output : CString} {position : ℕ} (hposition : position < output.length) :
    ∃ block, write output position [nul] = .ok block ∧ nul ∈ block ∧
      block.takeWhile (· ≠ nul) = (output.take position).takeWhile (· ≠ nul) := by
  obtain ⟨block, hwrite, -, htake⟩ := write_ok
    (show position + [nul].length ≤ output.length from hposition)
  have hblock : block = output.take position ++ nul :: block.drop (position + 1) := by
    rw [← List.singleton_append, ← List.append_assoc, ← htake, List.length_singleton,
      List.take_append_drop]
  refine ⟨block, hwrite, ?_, ?_⟩
  · rw [hblock]
    simp
  · rw [hblock, takeWhile_nul]

theorem parseString_of_scan_none {content : CString} (hscan : scanString content = none) :
    WfPublisher.parseString ('"' :: content) = none := by
  rw [WfPublisher.parseString, hscan]
  rfl

theorem parseString_of_scan {content raw after : CString}
    (hscan : scanString content = some (raw, after)) :
    WfPublisher.parseString ('"' :: content) =
      (unescape raw.length raw).map fun bytes => (bytes.takeWhile (· ≠ nul), after) := by
  simp only [WfPublisher.parseString, hscan, Option.bind_eq_bind, Option.bind_some]
  cases unescape raw.length raw <;> rfl

theorem parseString_unquoted {text : CString} (htext : ∀ content, text ≠ '"' :: content) :
    WfPublisher.parseString text = none := by
  unfold WfPublisher.parseString
  split
  · exact absurd rfl (htext _)
  · rfl

/-- `parse_string` never writes or reads outside its memory, whatever the text.
The block it returns holds the string that the text begins with and its NUL, and
with memory it returns every such string. -/
theorem parseString_in_block (hooks : Hooks) (text : CString) :
    parseString hooks text ≠ .error .overrun ∧
    (∀ block rest, parseString hooks text = .ok (block, rest) → nul ∈ block ∧
      WfPublisher.parseString text = some (block.takeWhile (· ≠ nul), rest)) ∧
    (hooks.Total → ∀ string rest, WfPublisher.parseString text = some (string, rest) →
      ∃ block, parseString hooks text = .ok (block, rest) ∧
        block.takeWhile (· ≠ nul) = string) := by
  unfold parseString
  split
  · rename_i content
    cases hscan : scanString content with
    | none =>
      rw [findEnd_none hscan, parseString_of_scan_none hscan]
      simp
    | some r =>
      obtain ⟨raw, after⟩ := r
      rw [parseString_of_scan hscan]
      obtain ⟨rfl, skipped, hend, hle, hrounds⟩ := scanString_rounds hscan
      rw [hend]
      dsimp only
      cases hallocate : hooks.allocate (raw.length + 1 - skipped + 1) with
      | none => exact ⟨by simp, by simp, fun htotal => absurd hallocate (htotal.1 _)⟩
      | some output =>
        have hlength := hooks.length_allocate hallocate
        have hcopies := copyLoop_copies after raw.length le_rfl (.inl ⟨_, le_rfl, hrounds⟩)
          (show 0 + (raw.length - skipped) < output.length by omega)
        dsimp only
        cases hloop : copyLoop raw.length raw.length (raw ++ '"' :: after) 0 output with
        | error stop =>
          rw [hloop] at hcopies
          cases stop with
          | overrun => exact hcopies.elim
          | refused =>
            rw [show unescape raw.length raw = none from hcopies]
            simp
        | ok r =>
          obtain ⟨position, output'⟩ := r
          rw [hloop] at hcopies
          obtain ⟨hposition, -, bytes, hunescape, hbytes⟩ := hcopies
          obtain ⟨block, hwrite, hnul, hstring⟩ := write_nul hposition
          rw [hbytes, List.take_zero, List.nil_append] at hstring
          have hdrop : (raw ++ '"' :: after).drop (raw.length + 1) = after := by
            rw [← List.drop_drop, List.drop_left]
            rfl
          rw [hunescape, ok_bind, hwrite, ok_bind, hdrop, Option.map_some, ← hstring]
          refine ⟨by simp, fun block' rest h => ?_, fun _ string rest h => ⟨block, ?_, ?_⟩⟩
          · cases h
            exact ⟨hnul, rfl⟩
          · cases h
            rfl
          · cases h
            rfl
  · rename_i hquote
    rw [parseString_unquoted hquote]
    simp

end WfPublisher.ParseString
