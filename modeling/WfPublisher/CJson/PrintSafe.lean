import Mathlib
import WfPublisher.CJson.PrintBuffer

/-!
# Printing stays inside the buffer

Each step of the printer extends the text at the beginning of the block. It is
refused only for want of memory, or when the text is not there to print, and it
never leaves the block.
-/

namespace WfPublisher.PrintBuffer

open TextBuffer Syntax

-- ---------------------------------------------------------------------------
-- The buffer between the steps
-- ---------------------------------------------------------------------------

/-- The block begins with the text so far, the offset is behind it, and there are
more than so many bytes left. -/
structure Room (depth : ℕ) (format : Bool) (n : ℕ) (out : CString) (p : PrintBuffer) : Prop where
  buffer : ∃ rest, p.buffer = some (out ++ rest) ∧ n < rest.length
  offset : p.offset = out.length
  depth : p.depth = depth
  format : p.format = format

def Ready (depth : ℕ) (format : Bool) : CString → PrintBuffer → Prop := Room depth format 0

/-- The text so far is a C string in the block, the offset somewhere in it. -/
structure Written (depth : ℕ) (format : Bool) (out : CString) (p : PrintBuffer) : Prop where
  buffer : ∃ rest, p.buffer = some (out ++ nul :: rest)
  offset : p.offset ≤ out.length
  depth : p.depth = depth
  format : p.format = format

/-- A step appends the text, where there is one, and fails only without memory. -/
def Emits (hooks : Hooks) (out : CString) (text? : Option CString)
    (post : CString → PrintBuffer → Prop) : Except Stop PrintBuffer → Prop
  | .ok p => ∃ text, text? = some text ∧ post (out ++ text) p
  | .error .overrun => False
  | .error .refused =>
    ¬(hooks.Total ∧ ∃ text, text? = some text ∧ ((out ++ text).length + 2 : ℤ) ≤ intMax)

def join (first second : Option CString) : Option CString := do
  let first ← first
  let second ← second
  some (first ++ second)

variable {hooks : Hooks} {out : CString} {depth : ℕ} {format : Bool}

theorem join_eq_some {first second : Option CString} {text : CString} :
    join first second = some text ↔
      ∃ front back, first = some front ∧ second = some back ∧ text = front ++ back := by
  cases first with
  | none => simp [join]
  | some front => cases second <;> simp [join, eq_comm]

theorem Emits.bind {first second : Option CString} {mid post : CString → PrintBuffer → Prop}
    {r : Except Stop PrintBuffer} {f : PrintBuffer → Except Stop PrintBuffer}
    (h : Emits hooks out first mid r)
    (hf : ∀ text p, first = some text → mid (out ++ text) p →
      Emits hooks (out ++ text) second post (f p)) :
    Emits hooks out (join first second) post (r >>= f) := by
  cases r with
  | ok p =>
    obtain ⟨text, rfl, hmid⟩ := h
    have hnext := hf text p rfl hmid
    change Emits hooks out _ post (f p)
    cases hresult : f p with
    | ok p' =>
      rw [hresult] at hnext
      obtain ⟨text', rfl, hpost⟩ := hnext
      exact ⟨text ++ text', rfl, by rwa [← List.append_assoc]⟩
    | error stop =>
      rw [hresult] at hnext
      cases stop with
      | overrun => exact hnext
      | refused =>
        rintro ⟨htotal, both, hboth, hlimit⟩
        obtain ⟨text', rfl, hboth⟩ := Option.bind_eq_some_iff.mp hboth
        cases hboth
        exact hnext ⟨htotal, text', rfl, by rwa [List.append_assoc]⟩
  | error stop =>
    cases stop with
    | overrun => exact h
    | refused =>
      rintro ⟨htotal, both, hboth, hlimit⟩
      obtain ⟨text, rfl, hboth⟩ := Option.bind_eq_some_iff.mp hboth
      obtain ⟨text', rfl, hboth⟩ := Option.bind_eq_some_iff.mp hboth
      cases hboth
      refine h ⟨htotal, text, rfl, ?_⟩
      simp only [List.length_append] at hlimit ⊢
      push_cast at hlimit ⊢
      omega

theorem Emits.map {text? : Option CString} {post post' : CString → PrintBuffer → Prop}
    {r : Except Stop PrintBuffer} {f : PrintBuffer → PrintBuffer}
    (h : Emits hooks out text? post r) (hf : ∀ out p, post out p → post' out (f p)) :
    Emits hooks out text? post' (r >>= fun p => pure (f p)) := by
  cases r with
  | ok p =>
    obtain ⟨text, rfl, hpost⟩ := h
    exact ⟨text, rfl, hf _ _ hpost⟩
  | error stop =>
    cases stop with
    | overrun => exact h
    | refused => exact h

-- ---------------------------------------------------------------------------
-- Memory
-- ---------------------------------------------------------------------------

theorem reallocate_room {buffer block : CString} {rest : CString} {size n : ℕ}
    (hbuffer : buffer = out ++ rest) (hsize : out.length + n < size)
    (h : hooks.reallocate buffer size = some block) :
    ∃ rest', block = out ++ rest' ∧ n < rest'.length := by
  have hlength := hooks.length_reallocate h
  have hkeeps : out <+: block := by
    refine List.IsPrefix.trans ?_ (hooks.reallocate_keeps h)
    rw [hbuffer, List.take_append, List.take_of_length_le (by omega)]
    exact List.prefix_append _ _
  obtain ⟨rest', rfl⟩ := hkeeps
  refine ⟨rest', rfl, ?_⟩
  rw [List.length_append] at hlength
  omega

theorem ensure_spec (hooks : Hooks) (n : ℕ) {p : PrintBuffer} (h : Ready depth format out p) :
    match ensure hooks n p with
    | .ok p' => Room depth format n out p'
    | .error .overrun => False
    | .error .refused => ¬(hooks.Total ∧ (out.length + n + 1 : ℤ) ≤ intMax) := by
  obtain ⟨⟨rest, hbuffer, hrest⟩, hoffset, hdepth, hformat⟩ := h
  have hgrown : ∀ size block, out.length + n < size →
      hooks.reallocate (out ++ rest) size = some block →
      Room depth format n out { p with buffer := some block } := by
    intro size block hsize hblock
    obtain ⟨rest', rfl, hrest'⟩ := reallocate_room rfl hsize hblock
    exact ⟨⟨rest', rfl, hrest'⟩, hoffset, hdepth, hformat⟩
  have hpositive : ¬(0 < (out ++ rest).length ∧ (out ++ rest).length ≤ p.offset) := by
    rw [List.length_append]
    omega
  simp only [ensure, hbuffer]
  rw [if_neg hpositive]
  by_cases hlarge : intMax < (n : ℤ)
  · rw [if_pos hlarge]
    rintro ⟨-, hlimit⟩
    omega
  rw [if_neg hlarge]
  by_cases hfits : n + p.offset + 1 ≤ (out ++ rest).length
  · rw [if_pos hfits]
    refine ⟨⟨rest, hbuffer, ?_⟩, hoffset, hdepth, hformat⟩
    rw [List.length_append] at hfits
    omega
  rw [if_neg hfits]
  by_cases hhalf : intMax / 2 < ((n + p.offset + 1 : ℕ) : ℤ)
  · rw [if_pos hhalf]
    cases le_or_gt ((n + p.offset + 1 : ℕ) : ℤ) intMax with
    | inl hmax =>
      rw [if_pos hmax]
      cases hblock : hooks.reallocate (out ++ rest) intMax.toNat with
      | none => exact fun hmemory => hmemory.1.2 _ _ hblock
      | some block => exact hgrown _ _ (by omega) hblock
    | inr hmax =>
      rw [if_neg hmax.not_ge]
      rintro ⟨-, hlimit⟩
      omega
  · rw [if_neg hhalf]
    cases hblock : hooks.reallocate (out ++ rest) ((n + p.offset + 1) * 2) with
    | none => exact fun hmemory => hmemory.1.2 _ _ hblock
    | some block => exact hgrown _ _ (by omega) hblock

theorem emit {text : CString} {post : CString → PrintBuffer → Prop} {n : ℕ} {p : PrintBuffer}
    {f : PrintBuffer → Except Stop PrintBuffer} (h : Ready depth format out p)
    (hn : n ≤ text.length + 1)
    (hf : ∀ p', Room depth format n out p' → ∃ p'', f p' = .ok p'' ∧ post (out ++ text) p'') :
    Emits hooks out (some text) post (ensure hooks n p >>= f) := by
  have hensure := ensure_spec hooks n h
  cases hresult : ensure hooks n p with
  | ok p' =>
    rw [hresult] at hensure
    obtain ⟨p'', hp'', hpost⟩ := hf p' hensure
    change Emits hooks out _ post (f p')
    rw [hp'']
    exact ⟨text, rfl, hpost⟩
  | error stop =>
    rw [hresult] at hensure
    cases stop with
    | overrun => exact hensure
    | refused =>
      rintro ⟨htotal, text', htext, hlimit⟩
      cases htext
      refine hensure ⟨htotal, ?_⟩
      rw [List.length_append] at hlimit
      push_cast at hlimit
      omega

-- ---------------------------------------------------------------------------
-- Writing
-- ---------------------------------------------------------------------------

/-- Behind the text so far stands a piece of the next one, and so many bytes are
left behind that. -/
structure Copied (depth : ℕ) (format : Bool) (out piece : CString) (room : ℕ) (p : PrintBuffer) :
    Prop where
  buffer : ∃ rest, p.buffer = some (out ++ (piece ++ rest)) ∧ rest.length = room
  offset : p.offset = out.length
  depth : p.depth = depth
  format : p.format = format

variable {piece text : CString} {room n : ℕ} {p : PrintBuffer}

theorem Room.copied (h : Room depth format n out p) :
    ∃ room, n < room ∧ Copied depth format out [] room p := by
  obtain ⟨⟨rest, hbuffer, hrest⟩, hoffset, hdepth, hformat⟩ := h
  exact ⟨rest.length, hrest, ⟨rest, hbuffer, rfl⟩, hoffset, hdepth, hformat⟩

theorem Copied.put (h : Copied depth format out piece room p) (ahead : ℕ) (text : CString)
    (hahead : ahead = piece.length) (hroom : text.length ≤ room) :
    ∃ p', put ahead text p = .ok p' ∧
      Copied depth format out (piece ++ text) (room - text.length) p' := by
  obtain ⟨⟨rest, hbuffer, rfl⟩, hoffset, hdepth, hformat⟩ := h
  have hstore := store_append (out ++ piece) hroom
  rw [List.length_append] at hstore
  refine ⟨{ p with buffer := some (out ++ (piece ++ text ++ rest.drop text.length)) }, ?_,
    ⟨_, rfl, List.length_drop⟩, hoffset, hdepth, hformat⟩
  simp only [PrintBuffer.put, hbuffer, hoffset, hahead]
  rw [← List.append_assoc, hstore]
  simp

theorem put_depth {ahead : ℕ} {p' : PrintBuffer} (h : PrintBuffer.put ahead text p = .ok p') :
    p'.depth = p.depth := by
  unfold PrintBuffer.put at h
  split at h
  · cases h
  · split at h
    · cases h
    · cases h
      rfl

theorem Copied.drop (h : Copied depth format out (piece ++ text) room p) :
    Copied depth format out piece (text.length + room) p := by
  obtain ⟨⟨rest, hbuffer, rfl⟩, hoffset, hdepth, hformat⟩ := h
  exact ⟨⟨text ++ rest, by rw [hbuffer, List.append_assoc], List.length_append⟩, hoffset, hdepth,
    hformat⟩

theorem Copied.advance (h : Copied depth format out text room p) (hroom : 0 < room) :
    Ready depth format (out ++ text) (advance text.length p) := by
  obtain ⟨⟨rest, hbuffer, rfl⟩, hoffset, hdepth, hformat⟩ := h
  refine ⟨⟨rest, by simp [PrintBuffer.advance, hbuffer], hroom⟩, ?_, hdepth, hformat⟩
  simp [PrintBuffer.advance, hoffset]

theorem Copied.written (h : Copied depth format out (text ++ [nul]) room p) :
    Written depth format (out ++ text) p := by
  obtain ⟨⟨rest, hbuffer, -⟩, hoffset, hdepth, hformat⟩ := h
  refine ⟨⟨rest, by simp [hbuffer]⟩, ?_, hdepth, hformat⟩
  rw [hoffset, List.length_append]
  exact Nat.le_add_right _ _

theorem emit_piece (text behind : CString) {f : PrintBuffer → Except Stop PrintBuffer}
    (h : Ready depth format out p) (hn : n ≤ text.length + 1) (htext : text.length ≤ n)
    (hbehind : text.length + behind.length ≤ n + 1)
    (hf : ∀ p', Room depth format n out p' →
      f p' = put 0 (text ++ behind) p' >>= fun p => pure (advance text.length p)) :
    Emits hooks out (some text) (Ready depth format) (ensure hooks n p >>= f) := by
  refine emit h hn fun p hp => ?_
  obtain ⟨room, hroom, hcopied⟩ := hp.copied
  obtain ⟨p', hput, hcopied⟩ := hcopied.put 0 (text ++ behind) rfl
    (by rw [List.length_append]; omega)
  refine ⟨PrintBuffer.advance text.length p', by rw [hf p hp, hput]; rfl, ?_⟩
  have hpieces : Copied depth format out (text ++ behind) (room - (text ++ behind).length) p' :=
    hcopied
  refine hpieces.drop.advance ?_
  rw [List.length_append]
  omega

theorem emit_value (h : Ready depth format out p) (hn : n = text.length + 1) :
    Emits hooks out (some text) (Written depth format)
      (ensure hooks n p >>= put 0 (text ++ [nul])) := by
  refine emit h hn.le fun p hp => ?_
  obtain ⟨room, hroom, hcopied⟩ := hp.copied
  obtain ⟨p', hput, hcopied⟩ := hcopied.put 0 (text ++ [nul]) rfl
    (by rw [List.length_append, List.length_singleton]; omega)
  exact ⟨p', hput, hcopied.written⟩

theorem updateOffset_ready (h : Written depth format out p) (hnul : nul ∉ out) :
    ∃ p', updateOffset p = .ok p' ∧ Ready depth format out p' ∧
      ∃ rest, p'.buffer = some (out ++ nul :: rest) := by
  obtain ⟨⟨rest, hbuffer⟩, hoffset, hdepth, hformat⟩ := h
  have hlength : (out.take p.offset).length = p.offset := by
    rw [List.length_take]
    omega
  have hstrlen := strlen_append (out.take p.offset) rest fun hmem : nul ∈ out.drop p.offset =>
    hnul (List.mem_of_mem_drop hmem)
  rw [← List.append_assoc, List.take_append_drop, hlength] at hstrlen
  refine ⟨{ p with offset := p.offset + (out.drop p.offset).length }, ?_, ?_, rest, hbuffer⟩
  · simp only [updateOffset, hbuffer, hstrlen]
  · refine ⟨⟨nul :: rest, hbuffer, Nat.zero_lt_succ _⟩, ?_, hdepth, hformat⟩
    simp only [List.length_drop]
    omega

theorem Emits.updateOffset {text? : Option CString} {r : Except Stop PrintBuffer}
    (h : Emits hooks out text? (Written depth format) r) (hout : nul ∉ out)
    (htext : ∀ text ∈ text?, nul ∉ text) :
    Emits hooks out text? (Ready depth format) (r >>= updateOffset) := by
  cases r with
  | ok p =>
    obtain ⟨text, rfl, hwritten⟩ := h
    have hnul : nul ∉ out ++ text := fun hmem =>
      (List.mem_append.mp hmem).elim hout (htext text rfl)
    obtain ⟨p', hp', hready, -⟩ := updateOffset_ready hwritten hnul
    change Emits hooks out _ _ (PrintBuffer.updateOffset p)
    rw [hp']
    exact ⟨text, rfl, hready⟩
  | error stop =>
    cases stop with
    | overrun => exact h
    | refused => exact h

-- ---------------------------------------------------------------------------
-- Strings
-- ---------------------------------------------------------------------------

theorem escape_eq (c : Char) : escape c =
    if 31 < c.toNat ∧ c ≠ '"' ∧ c ≠ '\\' then [c]
    else match escapeLetter c with
      | some letter => ['\\', letter]
      | none => '\\' :: 'u' :: (Nat.toDigits 16 c.toNat).leftpad 4 '0' := by
  unfold escape escapeLetter
  split_ifs <;> rfl

theorem length_escape (c : Char) : (escape c).length = 1 + escapeCharacters c := by
  by_cases hletter : c = '"' ∨ c = '\\' ∨ c = Char.ofNat 8 ∨ c = Char.ofNat 12 ∨ c = '\n' ∨
      c = '\r' ∨ c = '\t'
  · rw [escapeCharacters, if_pos hletter]
    obtain rfl | rfl | rfl | rfl | rfl | rfl | rfl := hletter <;> rfl
  rw [escapeCharacters, if_neg hletter]
  obtain ⟨hquote, hbackslash, hb, hf, hn, hr, ht⟩ := by simpa only [not_or] using hletter
  unfold escape
  by_cases hcontrol : c.toNat < 32
  · have hhex := (spellsHex_toDigits hcontrol).length
    rw [if_pos hcontrol, if_neg (by omega), if_neg hbackslash, if_neg hquote, if_neg hb, if_neg hf,
      if_neg hn, if_neg hr, if_neg ht, List.length_cons, List.length_cons, hhex]
  · rw [if_neg hcontrol, if_pos ⟨by omega, hquote, hbackslash⟩]
    rfl

theorem length_flatMap_escape (input : CString) :
    (input.flatMap escape).length = input.length + (input.map escapeCharacters).sum := by
  induction input with
  | nil => rfl
  | cons c input ih =>
    rw [List.flatMap_cons, List.length_append, ih, length_escape, List.length_cons, List.map_cons,
      List.sum_cons]
    omega

theorem escapeLoop_copied (input : CString) :
    ∀ {p : PrintBuffer} {piece : CString} {ahead room : ℕ},
    Copied depth format out piece room p → ahead = piece.length →
    (input.flatMap escape).length < room →
      ∃ p', escapeLoop input ahead p = .ok p' ∧ Copied depth format out
        (piece ++ input.flatMap escape) (room - (input.flatMap escape).length) p' := by
  induction input with
  | nil =>
    intro p piece ahead room h _ _
    exact ⟨p, rfl, by simpa using h⟩
  | cons c input ih =>
    intro p piece ahead room h hahead hroom
    have hescape := escape_eq c
    rw [List.flatMap_cons, List.length_append] at hroom
    rw [List.flatMap_cons, List.length_append, ← List.append_assoc]
    -- what is left when the loop goes on behind this character
    have hnext : ∀ {p' : PrintBuffer} {ahead' : ℕ}, ahead' = ahead + (escape c).length →
        Copied depth format out (piece ++ escape c) (room - (escape c).length) p' →
        ∃ p'', escapeLoop input ahead' p' = .ok p'' ∧ Copied depth format out
          (piece ++ escape c ++ input.flatMap escape)
          (room - ((escape c).length + (input.flatMap escape).length)) p'' := by
      intro p' ahead' hahead' h'
      obtain ⟨p'', hloop, hcopied⟩ := ih h'
        (show ahead' = _ by rw [hahead', hahead, List.length_append]) (by omega)
      refine ⟨p'', hloop, ?_⟩
      rwa [Nat.sub_sub] at hcopied
    unfold escapeLoop
    split
    · rename_i hplain
      rw [if_pos hplain] at hescape
      have hlength : (escape c).length = 1 := by rw [hescape]; rfl
      obtain ⟨p', hput, hcopied⟩ := h.put ahead [c] hahead (by rw [List.length_singleton]; omega)
      rw [hput]
      exact hnext (by rw [hescape]; rfl) (by rw [hescape]; exact hcopied)
    · rename_i hplain
      rw [if_neg hplain] at hescape
      cases hletter : escapeLetter c with
      | some letter =>
        simp only [hletter] at hescape
        have hlength : (escape c).length = 2 := by rw [hescape]; rfl
        obtain ⟨p', hput, hcopied⟩ := h.put ahead ['\\'] hahead
          (by rw [List.length_singleton]; omega)
        obtain ⟨p'', hput', hcopied⟩ := hcopied.put (ahead + 1) [letter]
          (by simp [hahead]) (by rw [List.length_singleton, List.length_singleton]; omega)
        rw [hput]
        change ∃ q, (put (ahead + 1) [letter] p' >>= escapeLoop input (ahead + 2)) = _ ∧ _
        rw [hput']
        refine hnext (by rw [hlength]) ?_
        rw [hescape]
        simpa [List.append_assoc, Nat.sub_sub] using hcopied
      | none =>
        simp only [hletter] at hescape
        have hcontrol : c.toNat < 32 := by
          by_contra hlarge
          refine hplain ⟨by omega, ?_, ?_⟩ <;> rintro rfl <;> cases hletter
        have hhex := (spellsHex_toDigits hcontrol).length
        generalize (Nat.toDigits 16 c.toNat).leftpad 4 '0' = hex at hescape hhex ⊢
        have hlength : (escape c).length = 6 := by
          rw [hescape, List.length_cons, List.length_cons, hhex]
        obtain ⟨p', hput, hcopied⟩ := h.put ahead ['\\'] hahead
          (by rw [List.length_singleton]; omega)
        obtain ⟨p'', hput', hcopied⟩ := hcopied.put (ahead + 1)
          ('u' :: (hex ++ [nul])) (by simp [hahead]) (by
            simp only [List.length_cons, List.length_append, hhex, List.length_nil]
            omega)
        rw [hput]
        change ∃ q, (put (ahead + 1) _ p' >>= escapeLoop input (ahead + 6)) = _ ∧ _
        rw [hput']
        have hpieces : Copied depth format out ((piece ++ escape c) ++ [nul]) (room - 7) p'' := by
          rw [hescape]
          simpa [hhex, Nat.sub_sub] using hcopied
        have hroom' := hpieces.drop
        rw [List.length_singleton,
          show 1 + (room - 7) = room - (escape c).length by omega] at hroom'
        exact hnext (by rw [hlength]) hroom'

theorem escape_of_zero {c : Char} (h : escapeCharacters c = 0) : escape c = [c] := by
  unfold escapeCharacters at h
  split_ifs at h with hletter hcontrol
  simp only [not_or] at hletter
  exact if_pos ⟨by omega, hletter.1, hletter.2.1⟩

theorem printStringPtr_emits (h : Ready depth format out p) (input : CString) :
    Emits hooks out (some (WfPublisher.printStringPtr input)) (Written depth format)
      (printStringPtr hooks input p) := by
  have hlength := length_flatMap_escape input
  have htotal : (WfPublisher.printStringPtr input).length =
      input.length + (input.map escapeCharacters).sum + 2 := by
    rw [WfPublisher.printStringPtr, List.length_cons, List.length_append, hlength]
    rfl
  refine emit h (by omega) fun p hp => ?_
  obtain ⟨room, hroom, hcopied⟩ := hp.copied
  obtain ⟨p₁, hput₁, hcopied⟩ := hcopied.put 0 ['"'] rfl
    (by rw [List.length_singleton]; omega)
  have hinput : ∃ p₂, (if (input.map escapeCharacters).sum = 0 then put 1 input p₁
      else escapeLoop input 1 p₁) = .ok p₂ ∧ Copied depth format out (['"'] ++ input.flatMap escape)
        (room - 1 - (input.flatMap escape).length) p₂ := by
    split
    · rename_i hnone
      have hplain : input.flatMap escape = input := by
        have hzero := List.sum_eq_zero_iff.mp hnone
        rw [List.flatMap_congr fun c hc => escape_of_zero (hzero _ (List.mem_map_of_mem hc)),
          List.flatMap_singleton']
      rw [hplain]
      exact hcopied.put 1 input rfl (by rw [List.length_singleton]; omega)
    · exact escapeLoop_copied input hcopied rfl (by omega)
  obtain ⟨p₂, hput₂, hcopied⟩ := hinput
  obtain ⟨p₃, hput₃, hcopied⟩ := hcopied.put
    (input.length + (input.map escapeCharacters).sum + 1) ['"']
    (by rw [List.length_append, List.length_singleton, hlength]; omega)
    (by rw [List.length_singleton]; omega)
  obtain ⟨p₄, hput₄, hcopied⟩ := hcopied.put
    (input.length + (input.map escapeCharacters).sum + 2) [nul]
    (by simp only [List.length_append, List.length_singleton, hlength]; omega)
    (by rw [List.length_singleton, List.length_singleton]; omega)
  refine ⟨p₄, ?_, hcopied.written⟩
  simp only [hput₁, bind, Except.bind]
  split
  · rename_i hnone
    rw [if_pos hnone] at hput₂
    simp only [hput₂, hput₃, hput₄]
  · rename_i hsome
    rw [if_neg hsome] at hput₂
    simp only [hput₂, hput₃, hput₄]

-- ---------------------------------------------------------------------------
-- Values
-- ---------------------------------------------------------------------------

section
variable {K : Type} [Field K] [LinearOrder K] [FloorRing K] {out : CString} {p : PrintBuffer}

/-- The printer writes what is printed without a buffer, and there is no NUL in it. -/
structure Faithful (hooks : Hooks) (format : Bool) (item : CJson K) : Prop where
  emits : ∀ {depth out p}, Ready depth format out p → nul ∉ out →
    Emits hooks out (WfPublisher.printValue format depth item) (Written depth format)
      (printValue hooks item p)
  clean : ∀ {depth text}, WfPublisher.printValue format depth item = some text → nul ∉ text

theorem Ready.deeper (h : Ready depth format out p) :
    Ready (depth + 1) format out { p with depth := p.depth + 1 } :=
  ⟨h.buffer, h.offset, congrArg (· + 1) h.depth, h.format⟩

theorem Written.shallower (h : Written (depth + 1) format out p) :
    Written depth format out { p with depth := p.depth - 1 } :=
  ⟨h.buffer, h.offset, congrArg (· - 1) h.depth, h.format⟩

theorem notMem_append {c : Char} {first second : CString} (h : c ∉ first) (h' : c ∉ second) :
    c ∉ first ++ second := fun hmem => (List.mem_append.mp hmem).elim h h'

theorem nul_notMem_tabs (depth : ℕ) : nul ∉ tabs depth := fun hmem => by
  cases List.eq_of_mem_replicate hmem

theorem nul_notMem_hex {n : ℕ} (h : n < 32) : nul ∉ (Nat.toDigits 16 n).leftpad 4 '0' := by
  interval_cases n <;> decide

theorem nul_notMem_escape {c : Char} (h : c ≠ nul) : nul ∉ escape c := by
  unfold escape
  split_ifs with hplain hbackslash hquote
  · exact fun hmem => h (List.mem_singleton.mp hmem).symm
  iterate 7 decide
  have hcontrol : c.toNat < 32 := by
    by_contra hlarge
    exact hplain ⟨by omega, hquote, hbackslash⟩
  exact List.not_mem_cons_of_ne_of_not_mem (by decide)
    (List.not_mem_cons_of_ne_of_not_mem (by decide) (nul_notMem_hex hcontrol))

theorem nul_notMem_printStringPtr {s : CString} (h : nul ∉ s) :
    nul ∉ WfPublisher.printStringPtr s := by
  refine List.not_mem_cons_of_ne_of_not_mem (by decide) (notMem_append ?_ (by decide))
  intro hmem
  obtain ⟨c, hc, hmem⟩ := List.mem_flatMap.mp hmem
  exact nul_notMem_escape (by rintro rfl; exact h hc) hmem

theorem nul_notMem_formatted {text : CString} (h : nul ∉ text) : nul ∉ formatted format text := by
  unfold formatted
  split
  · exact h
  · exact List.not_mem_nil

theorem printWord_emits (h : Ready depth format out p) (word : CString) :
    Emits hooks out (some word) (Written depth format) (printWord hooks word p) :=
  emit_value h rfl

theorem printNumber_emits (h : Ready depth format out p) (d : K) :
    Emits hooks out (WfPublisher.printNumber d) (Written depth format) (printNumber hooks d p) := by
  unfold printNumber
  cases hnumber : WfPublisher.printNumber d with
  | none =>
    rintro ⟨-, text, htext, -⟩
    cases htext
  | some text =>
    refine emit h le_rfl fun p hp => ?_
    obtain ⟨room, hroom, hcopied⟩ := hp.copied
    obtain ⟨p', hput, hcopied⟩ := hcopied.put 0 (text ++ [nul]) rfl
      (by rw [List.length_append, List.length_singleton]; omega)
    refine ⟨advance text.length p', by rw [hput]; rfl, ?_⟩
    have hwritten := (show Copied depth format out (text ++ [nul]) _ p' from hcopied).written
    refine ⟨hwritten.buffer, ?_, hwritten.depth, hwritten.format⟩
    rw [advance, hcopied.offset, List.length_append]

theorem emits_nothing (h : Ready depth format out p) :
    Emits hooks out (some []) (Ready depth format) (pure p) :=
  ⟨[], rfl, by rwa [List.append_nil]⟩

theorem length_formatted (c : Char) : (formatted format [c]).length = if format then 1 else 0 := by
  cases format <;> rfl

theorem printElements_emits (items : List (CJson K))
    (hitems : ∀ item ∈ items, Faithful hooks format item) : ∀ {out : CString} {p : PrintBuffer},
    Ready depth format out p → nul ∉ out →
      Emits hooks out (WfPublisher.printElements format depth items) (Ready depth format)
        (printElements hooks items p) := by
  induction items with
  | nil => exact fun h _ => emits_nothing h
  | cons item next ih =>
    intro out p h hout
    have hitem := hitems item List.mem_cons_self
    have hvalue := (hitem.emits h hout).updateOffset hout fun text htext => hitem.clean htext
    have hpure : WfPublisher.printElements format depth (item :: next) =
        join (WfPublisher.printValue format depth item)
          (join (some (if next.isEmpty then [] else ',' :: formatted format [' ']))
            (WfPublisher.printElements format depth next)) := by
      rw [WfPublisher.printElements]
      cases WfPublisher.printValue format depth item <;>
        cases WfPublisher.printElements format depth next <;> simp [join]
    have hcode : printElements hooks (item :: next) p =
        (printValue hooks item p >>= updateOffset) >>= fun p =>
          (if next.isEmpty then pure p
            else ensure hooks ((if p.format then 2 else 1) + 1) p >>= fun p' =>
              put 0 (',' :: (formatted p'.format [' '] ++ [nul])) p' >>= fun p'' =>
                pure (advance (if p.format then 2 else 1) p'')) >>= printElements hooks next := by
      rw [printElements]
      cases next <;> simp [bind_assoc]
    rw [hpure, hcode]
    refine hvalue.bind fun text p' htext hready => ?_
    have hclean : nul ∉ out ++ text := fun hmem =>
      (List.mem_append.mp hmem).elim hout (hitem.clean htext)
    refine Emits.bind (?_ : Emits hooks _ _ (Ready depth format) _) fun sep p'' hsep hready' => ?_
    · split
      · exact emits_nothing hready
      · have hlength : (',' :: formatted format [' ']).length = if p'.format then 2 else 1 := by
          rw [List.length_cons, length_formatted, hready.format]
          cases format <;> rfl
        rw [← hlength]
        refine emit_piece _ [nul] hready le_rfl (Nat.le_succ _) (Nat.le_succ _) fun q hq => ?_
        rw [hq.format]
        rfl
    · refine ih (fun item hmem => hitems item (List.mem_cons_of_mem _ hmem)) hready' ?_
      cases hsep
      intro hmem
      obtain hmem | hmem := List.mem_append.mp hmem
      · exact hclean hmem
      · split at hmem
        · cases hmem
        · obtain hmem | hmem := List.mem_cons.mp hmem
          · cases hmem
          · exact nul_notMem_formatted (by decide) hmem

theorem printMembers_emits (members : List (CString × CJson K))
    (hname : ∀ m ∈ members, nul ∉ m.1) (hitems : ∀ m ∈ members, Faithful hooks format m.2) :
    ∀ {out : CString} {p : PrintBuffer}, Ready depth format out p → nul ∉ out →
      Emits hooks out (WfPublisher.printMembers format depth members) (Ready depth format)
        (printMembers hooks members p) := by
  induction members with
  | nil => exact fun h _ => emits_nothing h
  | cons m next ih =>
    obtain ⟨name, item⟩ := m
    intro out p h hout
    have hitem := hitems (name, item) List.mem_cons_self
    have hpure : WfPublisher.printMembers format depth ((name, item) :: next) =
        join (some (formatted format (tabs depth)))
          (join (some (WfPublisher.printStringPtr name))
            (join (some (':' :: formatted format ['\t']))
              (join (WfPublisher.printValue format depth item)
                (join (some ((if next.isEmpty then [] else [',']) ++ formatted format ['\n']))
                  (WfPublisher.printMembers format depth next))))) := by
      rw [WfPublisher.printMembers]
      cases WfPublisher.printValue format depth item <;>
        cases WfPublisher.printMembers format depth next <;> simp [join]
    have hcode : printMembers hooks ((name, item) :: next) p =
        (if p.format then ensure hooks p.depth p >>= fun p' =>
            put 0 (tabs p'.depth) p' >>= fun p'' => pure (advance p''.depth p'')
          else pure p) >>= fun p =>
        (printStringPtr hooks name p >>= updateOffset) >>= fun p =>
        (ensure hooks (if p.format then 2 else 1) p >>= fun p' =>
          put 0 (':' :: formatted p'.format ['\t']) p' >>= fun p'' =>
            pure (advance (if p.format then 2 else 1) p'')) >>= fun p =>
        (printValue hooks item p >>= updateOffset) >>= fun p =>
        (ensure hooks ((if p.format then 1 else 0) + (if next.isEmpty then 0 else 1) + 1) p >>=
          fun p' => put 0 ((if next.isEmpty then [] else [',']) ++ formatted p'.format ['\n'] ++
            [nul]) p' >>= fun p'' => pure (advance
              ((if p.format then 1 else 0) + (if next.isEmpty then 0 else 1)) p'')) >>=
        printMembers hooks next := by
      rw [printMembers]
      cases p.format <;> simp [bind_assoc]
    rw [hpure, hcode]
    have htabs : nul ∉ formatted format (tabs depth) := nul_notMem_formatted (nul_notMem_tabs depth)
    have hstring : nul ∉ WfPublisher.printStringPtr name :=
      nul_notMem_printStringPtr (hname (name, item) List.mem_cons_self)
    have hcolon : nul ∉ ':' :: formatted format ['\t'] :=
      List.not_mem_cons_of_ne_of_not_mem (by decide) (nul_notMem_formatted (by decide))
    have hend : nul ∉ (if next.isEmpty then [] else [',']) ++ formatted format ['\n'] := by
      refine notMem_append ?_ (nul_notMem_formatted (by decide))
      split <;> decide
    -- the tabs in front of the name
    refine Emits.bind (?_ : Emits hooks _ _ (Ready depth format) _) fun text p₁ htext h₁ => ?_
    · have hformat := h.format
      cases format
      · rw [hformat]
        exact emits_nothing h
      · rw [hformat]
        have hlength : (tabs depth).length = p.depth := by
          rw [tabs, List.length_replicate, h.depth]
        rw [if_pos rfl, ← hlength]
        refine emit_piece _ [] h (Nat.le_succ _) le_rfl (Nat.le_succ _) fun q hq => ?_
        change (put 0 (tabs q.depth) q >>= fun p' => pure (advance p'.depth p')) =
          put 0 (tabs depth ++ []) q >>= fun p' => pure (advance (tabs depth).length p')
        rw [hlength, h.depth, hq.depth, List.append_nil]
        cases hput : put 0 (tabs depth) q with
        | error => rfl
        | ok p' =>
          change Except.ok (advance p'.depth p') = Except.ok (advance depth p')
          rw [put_depth hput, hq.depth]
    cases htext
    have hout₁ := notMem_append hout htabs
    -- the name
    refine Emits.bind ((printStringPtr_emits h₁ name).updateOffset hout₁
      fun text htext => by cases htext; exact hstring) fun text p₂ htext h₂ => ?_
    cases htext
    have hout₂ := notMem_append hout₁ hstring
    refine Emits.bind (?_ : Emits hooks _ _ (Ready depth format) _) fun text p₃ htext h₃ => ?_
    · have hlength : (':' :: formatted format ['\t']).length = if p₂.format then 2 else 1 := by
        rw [List.length_cons, length_formatted, h₂.format]
        cases format <;> rfl
      rw [← hlength]
      refine emit_piece _ [] h₂ (Nat.le_succ _) le_rfl (Nat.le_succ _) fun q hq => ?_
      rw [hq.format, List.append_nil]
    cases htext
    have hout₃ := notMem_append hout₂ hcolon
    -- the value
    refine Emits.bind ((hitem.emits h₃ hout₃).updateOffset hout₃
      fun text htext => hitem.clean htext) fun text p₄ htext h₄ => ?_
    have hout₄ := notMem_append hout₃ (hitem.clean htext)
    refine Emits.bind (?_ : Emits hooks _ _ (Ready depth format) _) fun text p₅ htext h₅ => ?_
    · have hlength : ((if next.isEmpty then [] else [',']) ++ formatted format ['\n']).length =
          (if p₄.format then 1 else 0) + (if next.isEmpty then 0 else 1) := by
        rw [List.length_append, length_formatted, h₄.format, Nat.add_comm]
        cases next.isEmpty <;> rfl
      rw [← hlength]
      refine emit_piece _ [nul] h₄ le_rfl (Nat.le_succ _) (Nat.le_succ _) fun q hq => ?_
      rw [hq.format]
    cases htext
    exact ih (fun m hmem => hname m (List.mem_cons_of_mem _ hmem))
      (fun m hmem => hitems m (List.mem_cons_of_mem _ hmem)) h₅ (notMem_append hout₄ hend)

theorem printElements_clean {items : List (CJson K)}
    (hitems : ∀ item ∈ items, Faithful hooks format item) : ∀ {text : CString},
    WfPublisher.printElements format depth items = some text → nul ∉ text := by
  induction items with
  | nil =>
    intro text h
    cases h
    exact List.not_mem_nil
  | cons item next ih =>
    intro text h
    obtain ⟨value, hvalue, h⟩ := Option.bind_eq_some_iff.mp h
    obtain ⟨rest, hrest, h⟩ := Option.bind_eq_some_iff.mp h
    cases h
    refine notMem_append (notMem_append ((hitems item List.mem_cons_self).clean hvalue) ?_)
      (ih (fun item hmem => hitems item (List.mem_cons_of_mem _ hmem)) hrest)
    split
    · exact List.not_mem_nil
    · exact List.not_mem_cons_of_ne_of_not_mem (by decide) (nul_notMem_formatted (by decide))

theorem printMembers_clean {members : List (CString × CJson K)}
    (hname : ∀ m ∈ members, nul ∉ m.1) (hitems : ∀ m ∈ members, Faithful hooks format m.2) :
    ∀ {text : CString}, WfPublisher.printMembers format depth members = some text →
      nul ∉ text := by
  induction members with
  | nil =>
    intro text h
    cases h
    exact List.not_mem_nil
  | cons m next ih =>
    intro text h
    obtain ⟨value, hvalue, h⟩ := Option.bind_eq_some_iff.mp h
    obtain ⟨rest, hrest, h⟩ := Option.bind_eq_some_iff.mp h
    cases h
    have hvalueClean := (hitems m List.mem_cons_self).clean hvalue
    have hrestClean := ih (fun m hmem => hname m (List.mem_cons_of_mem _ hmem))
      (fun m hmem => hitems m (List.mem_cons_of_mem _ hmem)) hrest
    refine notMem_append (notMem_append (nul_notMem_formatted (nul_notMem_tabs depth))
      (nul_notMem_printStringPtr (hname m List.mem_cons_self)))
      (List.not_mem_cons_of_ne_of_not_mem (by decide) (notMem_append (notMem_append (notMem_append
        (notMem_append (nul_notMem_formatted (by decide)) hvalueClean) ?_)
        (nul_notMem_formatted (by decide))) hrestClean))
    split <;> decide

theorem nul_notMem_printNumber [IsStrictOrderedRing K] {d : K} {text : CString}
    (h : WfPublisher.printNumber d = some text) : nul ∉ text := by
  have hnumeral : ∀ p, 0 < p → nul ∉ (Decimal.printG p d).text := by
    intro p hp hmem
    cases isNumberChar_text (Decimal.wellFormed_printG hp d) nul hmem
  simp only [WfPublisher.printNumber] at h
  split_ifs at h <;> cases h
  · exact hnumeral 15 (by decide)
  · exact hnumeral 17 (by decide)

theorem faithful_of_storable [IsStrictOrderedRing K] (hooks : Hooks) (format : Bool) {n : ℕ}
    {item : CJson K} (h : Storable AnyNumber n item) : Faithful hooks format item := by
  induction h with
  | null => exact ⟨fun h _ => printWord_emits h _, fun h => by cases h; decide⟩
  | bool b =>
    cases b <;> exact ⟨fun h _ => printWord_emits h _, fun h => by cases h; decide⟩
  | number => exact ⟨fun h _ => printNumber_emits h _, fun h => nul_notMem_printNumber h⟩
  | string h =>
    refine ⟨fun hready _ => printStringPtr_emits hready _, fun htext => ?_⟩
    cases htext
    exact nul_notMem_printStringPtr h
  | @array n items _ ih =>
    have hpure : ∀ depth, WfPublisher.printValue format depth (.array items) =
        join (some ['[']) (join (WfPublisher.printElements format (depth + 1) items)
          (some [']'])) := by
      intro depth
      rw [WfPublisher.printValue]
      cases WfPublisher.printElements format (depth + 1) items <;> simp [join]
    have hcode : ∀ p, printValue hooks (.array items) p =
        ((ensure hooks 1 p >>= fun p => put 0 ['['] p >>= fun p => pure (advance 1 p)) >>=
          fun p => pure { p with depth := p.depth + 1 }) >>= fun p =>
        printElements hooks items p >>= fun p =>
        (ensure hooks 2 p >>= put 0 [']', nul]) >>= fun p =>
        pure { p with depth := p.depth - 1 } := by
      intro p
      rw [printValue]
      simp only [bind_assoc, pure_bind]
      rfl
    constructor
    · intro depth out p h hout
      rw [hpure, hcode]
      refine Emits.bind (Emits.map (emit_piece ['['] [] h (Nat.le_succ _) le_rfl (Nat.le_succ _)
        fun q hq => rfl) fun out q hq => hq.deeper) fun text p₁ htext h₁ => ?_
      cases htext
      have hout₁ : nul ∉ out ++ ['['] := notMem_append hout (by decide)
      refine Emits.bind (printElements_emits items ih h₁ hout₁) fun text p₂ _ h₂ => ?_
      exact Emits.map (emit_value h₂ rfl) fun out q hq => hq.shallower
    · intro depth text h
      rw [hpure] at h
      obtain ⟨_, rest, ⟨⟩, hrest, rfl⟩ := join_eq_some.mp h
      obtain ⟨elements, _, helements, ⟨⟩, rfl⟩ := join_eq_some.mp hrest
      exact notMem_append (by decide)
        (notMem_append (printElements_clean ih helements) (by decide))
  | @object n members hname _ ih =>
    have hpure : ∀ depth, WfPublisher.printValue format depth (.object members) =
        join (some ('{' :: formatted format ['\n']))
          (join (WfPublisher.printMembers format (depth + 1) members)
            (some (formatted format (tabs depth) ++ ['}']))) := by
      intro depth
      rw [WfPublisher.printValue]
      cases WfPublisher.printMembers format (depth + 1) members <;> simp [join]
    have hcode : ∀ p, printValue hooks (.object members) p =
        ((ensure hooks ((if p.format then 2 else 1) + 1) p >>= fun p' =>
          put 0 ('{' :: formatted p'.format ['\n']) p' >>= fun p'' =>
            pure (advance (if p.format then 2 else 1) p'')) >>=
          fun p => pure { p with depth := p.depth + 1 }) >>= fun p =>
        printMembers hooks members p >>= fun p =>
        (ensure hooks (if p.format then p.depth + 1 else 2) p >>= fun p =>
          put 0 (formatted p.format (tabs (p.depth - 1)) ++ ['}', nul]) p) >>= fun p =>
        pure { p with depth := p.depth - 1 } := by
      intro p
      rw [printValue]
      simp only [bind_assoc, pure_bind]
      rfl
    have hopen : nul ∉ '{' :: formatted format ['\n'] :=
      List.not_mem_cons_of_ne_of_not_mem (by decide) (nul_notMem_formatted (by decide))
    constructor
    · intro depth out p h hout
      rw [hpure, hcode]
      have hlength : ('{' :: formatted format ['\n']).length = if p.format then 2 else 1 := by
        rw [List.length_cons, length_formatted, h.format]
        cases format <;> rfl
      rw [← hlength]
      refine Emits.bind (Emits.map (emit_piece _ [] h le_rfl (Nat.le_succ _)
        (Nat.le_add_right _ 2) fun q hq => ?_) fun out q hq => hq.deeper) fun text p₁ htext h₁ => ?_
      · rw [hq.format, List.append_nil]
      cases htext
      refine Emits.bind (printMembers_emits members hname ih h₁ (notMem_append hout hopen))
        fun text p₂ _ h₂ => ?_
      refine Emits.map ?_ fun out q (hq : Written (depth + 1) format out q) => hq.shallower
      have hclose : (if p₂.format then p₂.depth + 1 else 2) =
          (formatted format (tabs depth) ++ ['}']).length + 1 := by
        rw [h₂.format, h₂.depth, List.length_append]
        cases format <;> simp [formatted, tabs]
      rw [hclose]
      refine emit h₂ le_rfl fun q hq => ?_
      obtain ⟨room, hroom, hcopied⟩ := hq.copied
      obtain ⟨q', hput, hcopied⟩ := hcopied.put 0
        (formatted format (tabs depth) ++ ['}'] ++ [nul]) rfl
        (by rw [List.length_append, List.length_singleton]; omega)
      refine ⟨q', ?_, hcopied.written⟩
      rw [hq.format, hq.depth, Nat.add_sub_cancel, ← hput, List.append_assoc]
      rfl
    · intro depth text h
      rw [hpure] at h
      obtain ⟨_, rest, ⟨⟩, hrest, rfl⟩ := join_eq_some.mp h
      obtain ⟨lines, _, hlines, ⟨⟩, rfl⟩ := join_eq_some.mp hrest
      exact notMem_append hopen (notMem_append (printMembers_clean hname ih hlines)
        (notMem_append (nul_notMem_formatted (nul_notMem_tabs depth)) (by decide)))

theorem ready_start {block : CString} (h : hooks.allocate 256 = some block) (format : Bool) :
    Ready 0 format [] ⟨some block, 0, 0, format⟩ := by
  refine ⟨⟨block, rfl, ?_⟩, rfl, rfl, rfl⟩
  rw [hooks.length_allocate h]
  decide

theorem reallocate_text {buffer block rest : CString} (hbuffer : buffer = out ++ nul :: rest)
    (h : hooks.reallocate buffer (out.length + 1) = some block) : block = out ++ [nul] := by
  have hkeeps := hooks.reallocate_keeps h
  have htake : buffer.take (out.length + 1) = out ++ [nul] := by
    rw [hbuffer, List.take_append, List.take_of_length_le (Nat.le_succ _), Nat.add_sub_cancel_left]
    rfl
  rw [htake] at hkeeps
  refine (hkeeps.eq_of_length ?_).symm
  rw [hooks.length_reallocate h, List.length_append, List.length_singleton]

end

end WfPublisher.PrintBuffer

namespace WfPublisher

open TextBuffer PrintBuffer Syntax

variable {K : Type} [Field K] [LinearOrder K] [FloorRing K] [IsStrictOrderedRing K]

/-- `print` never writes or reads outside the block. What it returns is the text
and a NUL, and with memory for it the text is returned up to the range of an
`int`. -/
theorem print_in_block (hooks : Hooks) (format : Bool) {n : ℕ} {item : CJson K}
    (h : Storable AnyNumber n item) :
    (∀ stop, print hooks format item ≠ .error stop) ∧
    (∀ block, print hooks format item = .ok (some block) →
      ∃ text, printValue format 0 item = some text ∧ block = text ++ [nul]) ∧
    (hooks.Total → ∀ text, printValue format 0 item = some text →
      (text.length + 2 : ℤ) ≤ intMax →
        print hooks format item = .ok (some (text ++ [nul]))) := by
  have hfaithful := faithful_of_storable hooks format h
  cases hallocate : hooks.allocate 256 with
  | none =>
    have hprint : print hooks format item = .ok none := by simp only [print, hallocate]
    rw [hprint]
    exact ⟨fun _ hstop => (by cases hstop), fun _ hblock => (by cases hblock),
      fun htotal => absurd hallocate (htotal.1 256)⟩
  | some block =>
    have hemits := hfaithful.emits (ready_start hallocate format) List.not_mem_nil
    cases hresult : PrintBuffer.printValue hooks item ⟨some block, 0, 0, format⟩ with
    | error stop =>
      rw [hresult] at hemits
      cases stop with
      | overrun => exact hemits.elim
      | refused =>
        have hprint : print hooks format item = .ok none := by
          simp only [print, hallocate, hresult]
          rfl
        rw [hprint]
        exact ⟨fun _ hstop => (by cases hstop), fun _ hblock => (by cases hblock),
          fun htotal text htext hlimit => absurd ⟨htotal, text, htext, hlimit⟩ hemits⟩
    | ok p =>
      rw [hresult] at hemits
      obtain ⟨text, htext, hwritten⟩ := hemits
      obtain ⟨p', hp', hready, rest, hbuffer⟩ := updateOffset_ready hwritten (hfaithful.clean htext)
      have hprint : print hooks format item =
          .ok (hooks.reallocate (text ++ nul :: rest) (text.length + 1)) := by
        have hprinted : (Except.ok p >>= updateOffset : Except Stop PrintBuffer) = .ok p' := hp'
        simp only [print, hallocate, hresult, hprinted, hbuffer, hready.offset]
        rfl
      rw [hprint]
      cases hblock : hooks.reallocate (text ++ nul :: rest) (text.length + 1) with
      | none =>
        exact ⟨fun _ hstop => (by cases hstop), fun _ hblock => (by cases hblock),
          fun htotal => absurd hblock (htotal.2 _ _)⟩
      | some block' =>
        have heq := reallocate_text rfl hblock
        refine ⟨fun _ hstop => (by cases hstop), fun _ hsome => ?_, fun _ text' htext' _ => ?_⟩
        · cases hsome
          exact ⟨text, htext, heq⟩
        · rw [htext] at htext'
          cases htext'
          rw [heq]

def ampleHooks : Hooks where
  allocate size := some (List.replicate size nul)
  reallocate old size := some (old.take size ++ List.replicate (size - old.length) nul)
  length_allocate h := by
    cases h
    exact List.length_replicate
  length_reallocate h := by
    cases h
    simp only [List.length_append, List.length_take, List.length_replicate]
    omega
  reallocate_keeps h := by
    cases h
    exact List.prefix_append _ _

theorem print_in_block_array :
    print ampleHooks true (.array [.bool true, .string ['a', '\n']] : CJson ℚ) =
      .ok (some ("[true, \"a\\n\"]".toList ++ [nul])) :=
  (print_in_block (n := 1) ampleHooks true (.array fun item hitem => by
      obtain rfl | rfl : item = .bool true ∨ item = .string ['a', '\n'] := by simpa using hitem
      · exact .bool true
      · exact .string (by decide))).2.2
    ⟨fun _ h => (by cases h), fun _ _ h => (by cases h)⟩ _ rfl (by decide +kernel)

end WfPublisher
