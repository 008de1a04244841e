import Mathlib
import WfPublisher.CJson.Lists

/-!
# The parser builds items in memory

`cJSON_Parse` with its allocations, each of which may be refused. It returns null
and leaves the memory as it was, or a new tree of the item the text spells; where
nothing is refused it finds the item.
-/

namespace WfPublisher.CJsonMemory

open Memory
open Forest (Node Laid)
open Syntax (parseValue_scalar)

variable {K : Type}

-- ---------------------------------------------------------------------------
-- The parser
-- ---------------------------------------------------------------------------

/-- The buffer behind what was read, or `none` where the C function returns false,
and the memory. -/
abbrev Parsed (K : Type) := Option CString × Heap (Block K)

def setFields (h : Heap (Block K)) (item : Addr) (set : Fields K → Fields K) :
    Option (Heap (Block K)) := do
  let cell ← readItem h item
  writeItem h item { cell with value := set cell.value }

section
variable (m : Allocator (Block K))

def parseString (item : Addr) (buffer : CString) (h : Heap (Block K)) : Option (Parsed K) :=
  match buffer with
  | '"' :: content =>
    match scanString content with
    | none => some (none, h)
    | some (raw, after) =>
      match m.alloc h (.text []) with
      | none => some (none, h)
      | some (output, h) =>
        match unescape raw.length raw with
        | none => do return (none, ← free h output)
        | some string => do
          let h ← store h output (.text (string.takeWhile (· ≠ Char.ofNat 0)))
          let h ← setFields h item fun v => { v with type := .string, valuestring := some output }
          return (some after, h)
  | _ => some (none, h)

section
variable [Field K] [LinearOrder K] [FloorRing K]

def parseNumber (item : Addr) (buffer : CString) (h : Heap (Block K)) : Option (Parsed K) :=
  let numberCString := (buffer.take 63).takeWhile isNumberChar
  match strtod (K := K) numberCString with
  | none => some (none, h)
  | some (number, afterEnd) => do
    let h ← setFields h item fun v =>
      { v with valuedouble := number, valueint := CJson.toInt number, type := .number }
    return (some (buffer.drop (numberCString.length - afterEnd.length)), h)

def parseScalar (item : Addr) (buffer : CString) (h : Heap (Block K)) : Option (Parsed K) :=
  if "null".toList.isPrefixOf buffer then do
    let h ← setFields h item fun v => { v with type := .null }
    return (some (buffer.drop 4), h)
  else if "false".toList.isPrefixOf buffer then do
    let h ← setFields h item fun v => { v with type := .false }
    return (some (buffer.drop 5), h)
  else if "true".toList.isPrefixOf buffer then do
    let h ← setFields h item fun v => { v with type := .true, valueint := 1 }
    return (some (buffer.drop 4), h)
  else
    match buffer with
    | '"' :: _ => parseString m item buffer h
    | c :: _ => if c = '-' ∨ c.isDigit then parseNumber item buffer h else some (none, h)
    | [] => some (none, h)

/-- The item becomes the list's last one; the list is `head` and `current_item`,
which are null together. -/
def addToList (list : Option (Addr × Addr)) (newItem : Addr) (h : Heap (Block K)) :
    Option (Addr × Heap (Block K)) :=
  match list with
  | none => some (newItem, h)
  | some (head, currentItem) => do return (head, ← link currentItem newItem h)

def parseList (entry : Addr → CString → Heap (Block K) → Option (Parsed K)) (close : Char) :
    ℕ → Option (Addr × Addr) → CString → Heap (Block K) →
      Option (Option (Option Addr × CString) × Heap (Block K))
  | 0, _, _, _ => none
  | fuel + 1, list, buffer, h =>
    match newItem m h with
    | none => do return (none, ← cJSONDelete (list.map Prod.fst) h)
    | some (newItem, h) => do
      let (head, h) ← addToList list newItem h
      let (rest, h) ← entry newItem buffer h
      match rest.map bufferSkipWhitespace with
      | some (c :: rest) =>
        if c = ',' then parseList entry close fuel (some (head, newItem)) rest h
        else if c = close then return (some (some head, rest), h)
        else return (none, ← cJSONDelete (some head) h)
      | _ => return (none, ← cJSONDelete (some head) h)

def parseElement (value : Addr → CString → Heap (Block K) → Option (Parsed K)) (item : Addr)
    (buffer : CString) (h : Heap (Block K)) : Option (Parsed K) :=
  value item (bufferSkipWhitespace buffer) h

/-- The name is parsed as a string first and then swapped. -/
def parseMember (value : Addr → CString → Heap (Block K) → Option (Parsed K)) (item : Addr)
    (buffer : CString) (h : Heap (Block K)) : Option (Parsed K) := do
  let (rest, h) ← parseString m item (bufferSkipWhitespace buffer) h
  match rest with
  | none => return (none, h)
  | some rest =>
    let h ← setFields h item fun v => { v with string := v.valuestring, valuestring := none }
    match bufferSkipWhitespace rest with
    | ':' :: rest => value item (bufferSkipWhitespace rest) h
    | _ => return (none, h)

def parseChildren (entry : Addr → CString → Heap (Block K) → Option (Parsed K)) (close : Char)
    (type : ItemType) (item : Addr) (buffer : CString) (h : Heap (Block K)) : Option (Parsed K) := do
  let buffer := bufferSkipWhitespace buffer
  let (list, h) ←
    if buffer.head? = some close then some (some (none, buffer.tail), h)
    else parseList m entry close (buffer.length + 1) none buffer h
  match list with
  | none => return (none, h)
  | some (head, rest) =>
    let cell ← readItem h item
    let h ← writeItem h item { cell with value := { cell.value with type := type }, child := head }
    return (some rest, h)

def parseArray (value : Addr → CString → Heap (Block K) → Option (Parsed K)) :
    Addr → CString → Heap (Block K) → Option (Parsed K) :=
  parseChildren m (parseElement value) ']' .array

def parseObject (value : Addr → CString → Heap (Block K) → Option (Parsed K)) :
    Addr → CString → Heap (Block K) → Option (Parsed K) :=
  parseChildren m (parseMember m value) '}' .object

def parseValue : ℕ → Addr → CString → Heap (Block K) → Option (Parsed K)
  | 0, item, buffer, h => parseScalar m item buffer h
  | depth + 1, item, buffer, h =>
    match buffer with
    | '[' :: rest => parseArray m (parseValue depth) item rest h
    | '{' :: rest => parseObject m (parseValue depth) item rest h
    | _ => parseScalar m item buffer h

def cJSONParse (value : CString) (h : Heap (Block K)) :
    Option (Option Addr × Heap (Block K)) :=
  match newItem m h with
  | none => some (none, h)
  | some (item, h) => do
    let (rest, h) ← parseValue m nestingLimit item (bufferSkipWhitespace (skipUtf8Bom value)) h
    match rest with
    | none => return (none, ← cJSONDelete (some item) h)
    | some _ => return (some item, h)

end

end

-- ---------------------------------------------------------------------------
-- The last item of a list
-- ---------------------------------------------------------------------------

section
variable {h₀ h h' : Heap (Block K)} {first : Option Addr} {front : Forest (Fields K)} {item : Addr}
  {v : Fields K}

theorem Fresh.last_cell (hfresh : Fresh h₀ h first (front.append (.node item v .nil .nil))) :
    h.lookup item = some (.item ⟨v, none, front.last none, none⟩) := by
  obtain ⟨_, -, hnode, rfl⟩ := Forest.laid_snoc.mp hfresh.laid
  exact hnode

theorem setFields_fresh (set : Fields K → Fields K) (htexts : (set v).texts.Perm v.texts)
    (hfresh : Fresh h₀ h first (front.append (.node item v .nil .nil))) :
    ∃ h', setFields h item set = some h' ∧ KeepsTexts h h' ∧
      Fresh h₀ h' first (front.append (.node item (set v) .nil .nil)) := by
  have hcell := hfresh.last_cell
  refine ⟨_, ?_, keepsTexts_insert hcell, hfresh.fill (Grows.refl _) rfl ?_⟩
  · simp only [setFields, readItem_of hcell, writeItem_of hcell, Option.bind_eq_bind,
      Option.bind_some]
  · simpa [Forest.owned] using htexts.symm

end

section
variable [Field K] {m : Allocator (Block K)} {h₀ h : Heap (Block K)} {first : Option Addr}
  {front : Forest (Fields K)} {item : Addr} {type : ItemType} {string : Option Addr}

theorem parseString_spec (buffer : CString)
    (hfresh : Fresh h₀ h first (front.append (.node item ⟨type, none, 0, 0, string⟩ .nil .nil))) :
    (∃ h', parseString m item buffer h = some (none, h') ∧
      (m.Total → WfPublisher.parseString buffer = none) ∧
      Fresh h₀ h' first (front.append (.node item ⟨type, none, 0, 0, string⟩ .nil .nil))) ∨
    ∃ s rest output h', parseString m item buffer h = some (some rest, h') ∧
      WfPublisher.parseString buffer = some (s, rest) ∧ h'.lookup output = some (.text s) ∧
      KeepsTexts h h' ∧
      Fresh h₀ h' first
        (front.append (.node item ⟨.string, some output, 0, 0, string⟩ .nil .nil)) := by
  have hcell := hfresh.last_cell
  by_cases hquote : ∃ content, buffer = '"' :: content
  · obtain ⟨content, rfl⟩ := hquote
    cases hscan : scanString content with
    | none =>
      exact .inl ⟨h, by simp [parseString, hscan],
        fun _ => by simp [WfPublisher.parseString, hscan], hfresh⟩
    | some r =>
      obtain ⟨raw, after⟩ := r
      cases halloc : m.alloc h (.text []) with
      | none =>
        exact .inl ⟨h, by simp [parseString, hscan, halloc],
          fun hall => absurd hall (not_total halloc), hfresh⟩
      | some r =>
        obtain ⟨output, h₁⟩ := r
        obtain ⟨hgrows, hblock⟩ := alloc_grows halloc
        cases hunescape : unescape raw.length raw with
        | none =>
          obtain ⟨h₂, hfree, hfrees⟩ := free_frees (mem_of_lookup hblock)
          exact .inl ⟨h₂, by simp [parseString, hscan, halloc, hunescape, hfree],
            fun _ => by simp [WfPublisher.parseString, hscan, hunescape],
            hfresh.same (hgrows.free hfrees fun _ => Iff.rfl)⟩
        | some text =>
          have hne : item ≠ output := fun heq =>
            hgrows.apart output (List.mem_singleton_self _) (heq ▸ mem_of_lookup hcell)
          obtain ⟨s, hs⟩ : ∃ s, text.takeWhile (· ≠ Char.ofNat 0) = s := ⟨_, rfl⟩
          have hgrows' : Grows h [output] (h₁.insert output (.text s)) :=
            hgrows.write changes_insert fun c => mem_insert_of_mem (mem_of_lookup hblock)
          have hcell₂ := hgrows'.same.lookup hcell
          refine .inr ⟨s, after, output, _, ?_, ?_, ?_,
            (keepsTexts_of_extends hgrows'.same).trans (keepsTexts_insert hcell₂),
            hfresh.fill (hgrows'.insert (mem_of_lookup hcell)) rfl ?_⟩
          · simp only [parseString, hscan, halloc, hunescape, hs, store_of_lookup hblock, setFields,
              readItem_of hcell₂, writeItem_of hcell₂, Option.bind_eq_bind, Option.bind_some,
              Option.pure_def]
          · simp only [WfPublisher.parseString, hscan, hunescape, hs, Option.bind_eq_bind,
              Option.bind_some]
          · rw [AList.lookup_insert_ne hne.symm, AList.lookup_insert]
          · simp [Fields.texts, Forest.owned]
  · refine .inl ⟨h, ?_, fun _ => ?_, hfresh⟩
    · rw [parseString.eq_def]
      split
      · exact absurd ⟨_, rfl⟩ hquote
      · rfl
    · rw [WfPublisher.parseString.eq_def]
      split
      · exact absurd ⟨_, rfl⟩ hquote
      · rfl

end

section
variable [Field K] [LinearOrder K] [FloorRing K] {m : Allocator (Block K)}

/-- A parse function returns false only where the text spells no entry or an
allocation is refused; otherwise the entry is the last one of the list. -/
inductive Outcome (m : Allocator (Block K)) (read : Option (Entry K)) (h' : Heap (Block K))
    (list : Forest (Fields K)) (shown : List (Option CString × CJson K)) : Option CString → Prop
  | refused : (m.Total → read = none) → Outcome m read h' list shown none
  | accepted {entry : Option CString × CJson K} {rest : CString} : read = some (entry, rest) →
      Shows h' list (shown ++ [entry]) → Outcome m read h' list shown (some rest)

def Reads (m : Allocator (Block K)) (name : Option CString)
    (parse : Addr → CString → Heap (Block K) → Option (Parsed K))
    (read : CString → Option (Entry K)) : Prop :=
  ∀ {h₀ h : Heap (Block K)} {first : Option Addr} {front : Forest (Fields K)} {item : Addr}
    {type : ItemType} {string : Option Addr} {shown : List (Option CString × CJson K)}
    (buffer : CString),
    Fresh h₀ h first (front.append (.node item ⟨type, none, 0, 0, string⟩ .nil .nil)) →
    Shows h front shown → TextAt h string name → ∃ r h' v child,
      parse item buffer h = some (r, h') ∧
      Fresh h₀ h' first (front.append (.node item v child .nil)) ∧
      Outcome m (read buffer) h' (front.append (.node item v child .nil)) shown r

def ReadsValue (m : Allocator (Block K))
    (parse : Addr → CString → Heap (Block K) → Option (Parsed K))
    (value : CString → Option (CJson K × CString)) : Prop :=
  ∀ name, Reads m name parse (named name value)

section
variable {h₀ h h' : Heap (Block K)} {first : Option Addr} {front : Forest (Fields K)} {item : Addr}
  {v : Fields K} {name : Option CString} {shown : List (Option CString × CJson K)}

theorem Shows.snoc {parsed : CJson K} {child : Forest (Fields K)} (hshows : Shows h front shown)
    (hkeeps : KeepsTexts h h') (hfields : FieldsShow h' v name parsed)
    (hchild : Shows h' child parsed.child) :
    Shows h' (front.append (.node item v child .nil)) (shown ++ [(name, parsed)]) :=
  (hshows.frame fun a _ => hkeeps a).append ⟨name, parsed, [], rfl, hfields, hchild, rfl⟩

theorem reads_fields (set : Fields K → Fields K) (parsed : CJson K) {type : ItemType}
    {string : Option Addr} {buffer rest : CString} {parse : Addr → CString → Heap (Block K) → Option (Parsed K)}
    {read : CString → Option (CJson K × CString)}
    (hfresh : Fresh h₀ h first (front.append (.node item ⟨type, none, 0, 0, string⟩ .nil .nil)))
    (hshows : Shows h front shown) (hname : TextAt h string name)
    (htexts : (set ⟨type, none, 0, 0, string⟩).valuestring = none ∧
      (set ⟨type, none, 0, 0, string⟩).string = string)
    (hparse : parse item buffer h = (setFields h item set).map fun h => (some rest, h))
    (hread : read buffer = some (parsed, rest))
    (hfields : ∀ h', TextAt h' string name →
      FieldsShow h' (set ⟨type, none, 0, 0, string⟩) name parsed) (hchild : parsed.child = []) :
    ∃ r h' v child, parse item buffer h = some (r, h') ∧
      Fresh h₀ h' first (front.append (.node item v child .nil)) ∧
      Outcome m (named name read buffer) h' (front.append (.node item v child .nil)) shown r := by
  obtain ⟨h', hset, hkeeps, hfresh'⟩ := setFields_fresh set (by
    rw [Fields.texts, Fields.texts, htexts.1, htexts.2]) hfresh
  refine ⟨some rest, h', _, .nil, by rw [hparse, hset]; rfl, hfresh',
    .accepted (by rw [named, hread]; rfl) (hshows.snoc hkeeps ?_ hchild)⟩
  exact hfields h' (hname.frame fun a _ => hkeeps a)

theorem parseString_reads : ReadsValue m (parseString m) fun buffer =>
    (WfPublisher.parseString buffer).map fun r => ((.string r.1 : CJson K), r.2) := by
  intro name h₀ h first front item type string shown buffer hfresh hshows hname
  obtain ⟨h', hparse, hread, hfresh'⟩ |
      ⟨s, rest, output, h', hparse, hread, htext, hkeeps, hfresh'⟩ :=
    parseString_spec (m := m) buffer hfresh
  · refine ⟨none, h', _, _, hparse, hfresh', .refused fun hall => ?_⟩
    rw [named, hread hall]
    rfl
  · have hentry : named name (fun buffer => (WfPublisher.parseString buffer).map
        fun r => ((.string r.1 : CJson K), r.2)) buffer = some ((name, .string s), rest) := by
      rw [named, hread]
      rfl
    exact ⟨some rest, h', _, _, hparse, hfresh', .accepted hentry (hshows.snoc hkeeps
      ⟨rfl, ⟨s, rfl, htext⟩, rfl, rfl, hname.frame fun a _ => hkeeps a⟩ rfl)⟩

theorem parseNumber_reads : ReadsValue m parseNumber (WfPublisher.parseNumber (K := K)) := by
  intro name h₀ h first front item type string shown buffer hfresh hshows hname
  cases hstrtod : strtod (K := K) ((buffer.take 63).takeWhile isNumberChar) with
  | none =>
    refine ⟨none, h, _, _, by simp [parseNumber, hstrtod], hfresh, .refused fun _ => ?_⟩
    simp [named, WfPublisher.parseNumber, hstrtod]
  | some r =>
    obtain ⟨number, afterEnd⟩ := r
    have hread : WfPublisher.parseNumber buffer = some (.number number,
        buffer.drop (((buffer.take 63).takeWhile isNumberChar).length - afterEnd.length)) := by
      simp [WfPublisher.parseNumber, hstrtod]
    refine reads_fields (fun v => { v with
        valuedouble := number, valueint := CJson.toInt number, type := .number })
      (.number number) hfresh hshows hname ⟨rfl, rfl⟩ ?_ hread
      (fun h' hname' => ⟨rfl, rfl, rfl, rfl, hname'⟩) rfl
    simp only [parseNumber, hstrtod, Option.bind_eq_bind, Option.map_eq_bind]
    rfl

theorem parseScalar_reads : ReadsValue m (parseScalar m) (WfPublisher.parseScalar (K := K)) := by
  intro name h₀ h first front item type string shown buffer hfresh hshows hname
  by_cases hnull : "null".toList.isPrefixOf buffer
  · refine reads_fields (fun v => { v with type := .null }) .null hfresh hshows hname ⟨rfl, rfl⟩ ?_
      (if_pos hnull) (fun h' hname' => ⟨rfl, rfl, rfl, rfl, hname'⟩) rfl
    rw [parseScalar.eq_def, if_pos hnull, Option.bind_eq_bind, Option.map_eq_bind]
    rfl
  by_cases hfalse : "false".toList.isPrefixOf buffer
  · refine reads_fields (fun v => { v with type := .false }) (.bool false) hfresh hshows hname
      ⟨rfl, rfl⟩ ?_ ((if_neg hnull).trans (if_pos hfalse))
      (fun h' hname' => ⟨rfl, rfl, rfl, rfl, hname'⟩) rfl
    rw [parseScalar.eq_def, if_neg hnull, if_pos hfalse, Option.bind_eq_bind, Option.map_eq_bind]
    rfl
  by_cases htrue : "true".toList.isPrefixOf buffer
  · refine reads_fields (fun v => { v with type := .true, valueint := 1 }) (.bool true) hfresh hshows
      hname ⟨rfl, rfl⟩ ?_ ((if_neg hnull).trans ((if_neg hfalse).trans (if_pos htrue)))
      (fun h' hname' => ⟨rfl, rfl, rfl, rfl, hname'⟩) rfl
    rw [parseScalar.eq_def, if_neg hnull, if_neg hfalse, if_pos htrue, Option.bind_eq_bind,
      Option.map_eq_bind]
    rfl
  cases buffer with
  | nil => exact ⟨none, h, _, _, rfl, hfresh, .refused fun _ => rfl⟩
  | cons c rest =>
    by_cases hquote : c = '"'
    · subst hquote
      have hparse : parseScalar m item ('"' :: rest) h = parseString m item ('"' :: rest) h := rfl
      rw [hparse]
      exact parseString_reads name ('"' :: rest) hfresh hshows hname
    · have hparse : parseScalar m item (c :: rest) h =
          if c = '-' ∨ c.isDigit then parseNumber item (c :: rest) h else some (none, h) := by
        rw [parseScalar.eq_def, if_neg hnull, if_neg hfalse, if_neg htrue]
        split <;> rename_i heq <;> cases heq
        · exact absurd rfl hquote
        · rfl
      have hread : named name WfPublisher.parseScalar (c :: rest) = if c = '-' ∨ c.isDigit then
          named name (WfPublisher.parseNumber (K := K)) (c :: rest) else none := by
        rw [named, named, WfPublisher.parseScalar.eq_def, if_neg hnull, if_neg hfalse,
          if_neg htrue]
        split <;> rename_i heq <;> cases heq
        · exact absurd rfl hquote
        · split <;> rfl
      rw [hparse, hread]
      by_cases hnumber : c = '-' ∨ c.isDigit = true
      · rw [if_pos hnumber, if_pos hnumber]
        exact parseNumber_reads name (c :: rest) hfresh hshows hname
      · rw [if_neg hnumber, if_neg hnumber]
        exact ⟨none, h, _, _, rfl, hfresh, .refused fun _ => rfl⟩

end

end

-- ---------------------------------------------------------------------------
-- Lists
-- ---------------------------------------------------------------------------

section
variable {h₀ h h₁ : Heap (Block K)} {front : Forest (Fields K)} {item : Addr} {v : Fields K}
  {list : Option (Addr × Addr)}

theorem addToList_fresh (hfresh : Fresh h₀ h (list.map Prod.fst) front)
    (hlast : front.last none = list.map Prod.snd)
    (hnew : Fresh h h₁ (some item) (.node item v .nil .nil)) :
    ∃ head h', addToList list item h₁ = some (head, h') ∧ KeepsTexts h h' ∧
      Fresh h₀ h' (some head) (front.append (.node item v .nil .nil)) := by
  have hkeeps := keepsTexts_of_extends hnew.grows.same
  obtain rfl | ⟨most, current, w, leaf, rfl⟩ := Forest.eq_nil_or_snoc front
  · obtain rfl : list = none := Option.map_eq_none_iff.mp hlast.symm
    exact ⟨item, h₁, rfl, hkeeps, hfresh.grows.trans hnew.grows, hnew.laid⟩
  · rw [Forest.last_append, Forest.last, Forest.last] at hlast
    obtain ⟨⟨head, _⟩, rfl, rfl⟩ := Option.map_eq_some_iff.mp hlast.symm
    obtain ⟨h', hlink, hkeeps', hfresh'⟩ := hfresh.linked hnew
    exact ⟨head, h', by rw [addToList, hlink]; rfl, hkeeps.trans hkeeps', hfresh'⟩

end

section
variable [Field K] [LinearOrder K] [FloorRing K] {m : Allocator (Block K)}

/-- The loop has freed its list, or the list has all entries of the text. -/
inductive ListOutcome (m : Allocator (Block K)) (h h' : Heap (Block K))
    (read : Option (List (Option CString × CJson K) × CString))
    (shown : List (Option CString × CJson K)) : Option (Option Addr × CString) → Prop
  | refused : Changes [] h h' → (m.Total → read = none) → ListOutcome m h h' read shown none
  | accepted {head : Addr} {rest : CString} {entries : List (Option CString × CJson K)}
      {list : Forest (Fields K)} : read = some (entries, rest) → Fresh h h' (some head) list →
      Shows h' list (shown ++ entries) → ListOutcome m h h' read shown (some (some head, rest))

theorem parseList_spec {entry : Addr → CString → Heap (Block K) → Option (Parsed K)}
    {read : CString → Option (Entry K)} (close : Char) (hentry : Reads m none entry read)
    (hread : Forward read) {h₀ : Heap (Block K)} (fuel : ℕ) :
    ∀ {n : ℕ} {buffer : CString} {list : Option (Addr × Addr)} {front : Forest (Fields K)}
      {h : Heap (Block K)} {shown : List (Option CString × CJson K)},
      buffer.length < fuel → buffer.length ≤ n → Fresh h₀ h (list.map Prod.fst) front →
      front.last none = list.map Prod.snd → Shows h front shown →
      ∃ r h', parseList m entry close fuel list buffer h = some (r, h') ∧
        ListOutcome m h₀ h' (readList read close n buffer) shown r := by
  induction fuel with
  | zero =>
    intro n buffer list front h shown hfuel
    exact absurd hfuel (Nat.not_lt_zero _)
  | succ fuel ih =>
    intro n buffer list front h shown hfuel hn hfresh hlast hshows
    cases halloc : newItem m h with
    | none =>
      obtain ⟨h', hdelete, hsame⟩ := hfresh.delete
      exact ⟨none, h', by simp [parseList, halloc, hdelete],
        .refused hsame fun hall => absurd hall (not_total halloc)⟩
    | some r =>
      obtain ⟨item, h₁⟩ := r
      obtain ⟨head, h₂, hadd, hkeeps, hfresh₂⟩ :=
        addToList_fresh hfresh hlast (newItem_fresh halloc)
      obtain ⟨r, h₃, v, child, hparse, hfresh₃, houtcome⟩ :=
        hentry buffer hfresh₂ (hshows.frame fun a _ => hkeeps a) (show TextAt h₂ none none from rfl)
      -- what follows if this round is the last one and the list is not closed
      obtain ⟨h₄, hdelete, hsame⟩ := hfresh₃.delete
      cases houtcome with
      | refused hnone =>
        exact ⟨none, h₄, by simp [parseList, halloc, hadd, hparse, hdelete],
          .refused hsame fun hall => readList_none (hnone hall)⟩
      | accepted hentry' hshown =>
        rename_i e rest
        obtain ⟨n, rfl⟩ : ∃ k, n = k + 1 := by
          refine Nat.exists_eq_succ_of_ne_zero ?_
          rintro rfl
          rw [List.length_eq_zero_iff.mp (Nat.le_zero.mp hn), hread.nil] at hentry'
          cases hentry'
        have hskip := (bufferSkipWhitespace_length_le rest).trans (hread.length_le hentry')
        cases hcons : bufferSkipWhitespace rest with
        | nil =>
          exact ⟨none, h₄, by simp [parseList, halloc, hadd, hparse, hcons, hdelete],
            .refused hsame fun _ => by simp [readList, hentry', hcons]⟩
        | cons c after =>
          rw [hcons, List.length_cons] at hskip
          by_cases hcomma : c = ','
          · subst hcomma
            obtain ⟨r, h₅, hloop, hresult⟩ := ih (show after.length < fuel by omega)
              (show after.length ≤ n by omega)
              (show Fresh h₀ h₃ ((some (head, item)).map Prod.fst) _ from hfresh₃)
              (by simp [Forest.last]) hshown
            refine ⟨r, h₅, by simp [parseList, halloc, hadd, hparse, hcons, hloop], ?_⟩
            cases hresult with
            | refused hsame' hnone =>
              exact .refused hsame' fun hall => by simp [readList, hentry', hcons, hnone hall]
            | accepted hsome hfresh' hall =>
              rename_i head' rest' entries list'
              have hread' : readList read close (n + 1) buffer = some (e :: entries, rest') := by
                simp [readList, hentry', hcons, hsome]
              exact .accepted hread' hfresh' (by simpa using hall)
          · by_cases hclose : c = close
            · subst hclose
              refine ⟨some (some head, after), h₃, ?_, .accepted ?_ hfresh₃ hshown⟩
              · simp [parseList, halloc, hadd, hparse, hcons, hcomma]
              · simp [readList, hentry', hcons, hcomma]
            · exact ⟨none, h₄,
                by simp [parseList, halloc, hadd, hparse, hcons, hcomma, hclose, hdelete],
                .refused hsame fun _ => by simp [readList, hentry', hcons, hcomma, hclose]⟩

-- ---------------------------------------------------------------------------
-- Arrays and objects
-- ---------------------------------------------------------------------------

section
variable {parse : Addr → CString → Heap (Block K) → Option (Parsed K)}
  {value : CString → Option (CJson K × CString)}

theorem parseElement_reads (hvalue : ReadsValue m parse value) :
    Reads m none (parseElement parse) (readElement value) := by
  intro h₀ h first front item type string shown buffer
  exact hvalue none (bufferSkipWhitespace buffer)

theorem parseMember_reads (hvalue : ReadsValue m parse value) :
    Reads m none (parseMember m parse) (readMember value) := by
  intro h₀ h first front item type string shown buffer hfresh hshows hname
  obtain ⟨h', hparse, hread, hfresh'⟩ |
      ⟨s, rest, output, h', hparse, hread, htext, hkeeps, hfresh'⟩ :=
    parseString_spec (m := m) (bufferSkipWhitespace buffer) hfresh
  · refine ⟨none, h', _, _, by simp [parseMember, hparse], hfresh', .refused fun hall => ?_⟩
    rw [readMember, hread hall, Option.bind_eq_bind, Option.bind_none]
  · obtain rfl : string = none := by
      cases string with
      | none => rfl
      | some a =>
        obtain ⟨_, hnone, -⟩ := hname
        cases hnone
    obtain ⟨h₂, hset, hkeeps₂, hfresh₂⟩ := setFields_fresh
      (fun v => { v with string := v.valuestring, valuestring := none }) (by simp [Fields.texts])
      hfresh'
    have hfront := (hshows.frame fun a _ => hkeeps a).frame fun a _ => hkeeps₂ a
    cases hcons : bufferSkipWhitespace rest with
    | nil =>
      exact ⟨none, h₂, _, _, by simp [parseMember, hparse, hset, hcons], hfresh₂,
        .refused fun _ => by simp [readMember, hread, hcons]⟩
    | cons c after =>
      by_cases hcolon : c = ':'
      · subst hcolon
        obtain ⟨r, h₃, v, child, hparse₃, hfresh₃, houtcome⟩ := hvalue (some s)
          (bufferSkipWhitespace after) hfresh₂ hfront ⟨s, rfl, hkeeps₂ _ _ htext⟩
        refine ⟨r, h₃, v, child, by simp [parseMember, hparse, hset, hcons, hparse₃], hfresh₃, ?_⟩
        have hmember : readMember value buffer =
            named (some s) value (bufferSkipWhitespace after) := by
          simp [readMember, hread, hcons]
        rwa [hmember]
      · exact ⟨none, h₂, _, _, by simp [parseMember, hparse, hset, hcons, hcolon], hfresh₂,
          .refused fun _ => by simp [readMember, hread, hcons, hcolon]⟩

end

section
variable {h₀ h h' : Heap (Block K)} {first head : Option Addr} {front list : Forest (Fields K)}
  {item : Addr} {type type' : ItemType} {string : Option Addr} {name : Option CString}
  {shown entries : List (Option CString × CJson K)} {parsed : CJson K}

theorem Fresh.collect
    (hfresh : Fresh h₀ h first (front.append (.node item ⟨type', none, 0, 0, string⟩ .nil .nil)))
    (hshows : Shows h front shown) (hname : TextAt h string name) (hlist : Fresh h h' head list)
    (hentries : Shows h' list entries) (hchildren : HasChildren type parsed entries) :
    ∃ cell cell' : Node (Fields K), h'.lookup item = some (.item cell) ∧
      { cell with value := { cell.value with type := type }, child := head } = cell' ∧
      Fresh h₀ (h'.insert item (.item cell')) first
        (front.append (.node item ⟨type, none, 0, 0, string⟩ list .nil)) ∧
      Shows (h'.insert item (.item cell'))
        (front.append (.node item ⟨type, none, 0, 0, string⟩ list .nil))
        (shown ++ [(name, parsed)]) := by
  have hcell := hfresh.last_cell
  have ha := mem_of_lookup hcell
  have hcell' := hlist.grows.same.lookup hcell
  have hkeeps : KeepsTexts h
      (h'.insert item (.item ⟨⟨type, none, 0, 0, string⟩, none, front.last none, head⟩)) :=
    (keepsTexts_of_extends hlist.grows.same).trans (keepsTexts_insert hcell')
  refine ⟨_, _, hcell', rfl, hfresh.fill (hlist.grows.insert ha) ?_ (by simp [Fields.texts]),
    hshows.snoc hkeeps ⟨hchildren.type.symm, hchildren.valuestring, hchildren.valueint.symm,
      hchildren.valuedouble.symm, hname.frame fun a _ => hkeeps a⟩ ?_⟩
  · refine hlist.laid.frame fun c (hc : c ∈ list.owned Fields.texts) =>
      AList.lookup_insert_ne ?_
    rintro rfl
    exact hlist.grows.apart c hc ha
  · rw [hchildren.child]
    exact hentries.frame fun a _ => keepsTexts_insert hcell' a

end

theorem parseChildren_reads {entry : Addr → CString → Heap (Block K) → Option (Parsed K)}
    {read : CString → Option (Entry K)} {close : Char} {type : ItemType}
    {value : CString → Option (CJson K × CString)} (hentry : Reads m none entry read)
    (hread : Forward read)
    (hcollects : ∀ buffer, Collects type (readChildren read close buffer) (value buffer)) :
    ReadsValue m (parseChildren m entry close type) value := by
  intro name h₀ h first front item type' string shown buffer hfresh hshows hname
  have hcollect := hcollects buffer
  by_cases hclose : (bufferSkipWhitespace buffer).head? = some close
  · rw [readChildren, if_pos hclose] at hcollect
    obtain ⟨hnone, -⟩ | ⟨entries, parsed, rest, hsome, hvalue, hchildren⟩ := hcollect
    · cases hnone
    cases hsome
    obtain ⟨cell, cell', hcell, rfl, hfresh₂, hshown⟩ := hfresh.collect hshows hname
      (⟨Grows.refl h, rfl⟩ : Fresh h h none .nil) rfl hchildren
    refine ⟨_, _, _, _, ?_, hfresh₂, .accepted (by rw [named, hvalue]; rfl) hshown⟩
    simp [parseChildren, hclose, readItem_of hcell, writeItem_of hcell]
  · rw [readChildren, if_neg hclose] at hcollect
    obtain ⟨r, h₁, hloop, houtcome⟩ := parseList_spec close hentry hread
      ((bufferSkipWhitespace buffer).length + 1) (Nat.lt_succ_self _) le_rfl
      (⟨Grows.refl h, rfl⟩ : Fresh h h ((none : Option (Addr × Addr)).map Prod.fst) .nil) rfl
      (show Shows h .nil [] from rfl)
    cases houtcome with
    | refused hsame hnone =>
      refine ⟨none, h₁, _, _, by simp [parseChildren, hclose, hloop], hfresh.same hsame,
        .refused fun hall => ?_⟩
      obtain ⟨-, hvalue⟩ | ⟨entries, parsed, rest, hsome, -⟩ := hcollect
      · rw [named, hvalue]
        rfl
      · rw [hnone hall] at hsome
        cases hsome
    | accepted hsome hlist hentries =>
      obtain ⟨hnone, -⟩ | ⟨entries, parsed, rest, hsome', hvalue, hchildren⟩ := hcollect
      · rw [hnone] at hsome
        cases hsome
      rw [hsome'] at hsome
      cases hsome
      obtain ⟨cell, cell', hcell, rfl, hfresh₂, hshown⟩ := hfresh.collect hshows hname hlist hentries
        hchildren
      refine ⟨_, _, _, _, ?_, hfresh₂, .accepted (by rw [named, hvalue]; rfl) hshown⟩
      simp [parseChildren, hclose, hloop, readItem_of hcell, writeItem_of hcell]

theorem parseValue_reads (n : ℕ) :
    ReadsValue m (parseValue m n) (WfPublisher.parseValue (K := K) n) := by
  induction n with
  | zero => exact parseScalar_reads
  | succ n ih =>
    intro name h₀ h first front item type string shown buffer hfresh hshows hname
    cases buffer with
    | nil => exact parseScalar_reads name [] hfresh hshows hname
    | cons c rest =>
      by_cases harray : c = '['
      · subst harray
        exact parseChildren_reads (parseElement_reads ih) (forward_value n).element collects_array
          name rest hfresh hshows hname
      by_cases hobject : c = '{'
      · subst hobject
        exact parseChildren_reads (parseMember_reads ih) (forward_value n).member collects_object
          name rest hfresh hshows hname
      have hparse : parseValue m (n + 1) item (c :: rest) h = parseScalar m item (c :: rest) h := by
        rw [parseValue]
        · rintro rest heq
          cases heq
          exact harray rfl
        · rintro rest heq
          cases heq
          exact hobject rfl
      have hread : named name (WfPublisher.parseValue (K := K) (n + 1)) (c :: rest) =
          named name WfPublisher.parseScalar (c :: rest) := by
        rw [named, named, parseValue_scalar _ harray hobject]
      rw [hparse, hread]
      exact parseScalar_reads name (c :: rest) hfresh hshows hname

/-- `cJSON_Parse` returns null and leaves the memory as it was, which it does for a
text that spells an item only if an allocation is refused, or a new tree of the item. -/
inductive ParseOutcome (m : Allocator (Block K)) (h : Heap (Block K)) (value : CString) :
    Option Addr → Heap (Block K) → Prop
  | refused {h' : Heap (Block K)} : Changes [] h h' →
      (m.Total → WfPublisher.cJSONParse (K := K) value = none) → ParseOutcome m h value none h'
  | parsed {h' : Heap (Block K)} {a : Addr} {v : Fields K} {child : Forest (Fields K)}
      {item : CJson K} : WfPublisher.cJSONParse value = some item →
      Fresh h h' (some a) (.node a v child .nil) →
      Shows h' (.node a v child .nil) [(none, item)] → ParseOutcome m h value (some a) h'

theorem cJSONParse_outcome (m : Allocator (Block K)) (value : CString) (h : Heap (Block K)) :
    ∃ r h', cJSONParse m value h = some (r, h') ∧ ParseOutcome m h value r h' := by
  cases halloc : newItem m h with
  | none =>
    exact ⟨none, h, by rw [cJSONParse, halloc],
      .refused (Changes.refl _ _) fun hall => absurd hall (not_total halloc)⟩
  | some r =>
    obtain ⟨a, h₁⟩ := r
    obtain ⟨r, h₂, v, child, hparse, hfresh, houtcome⟩ := parseValue_reads (m := m) nestingLimit none
      (bufferSkipWhitespace (skipUtf8Bom value))
      (show Fresh h h₁ (some a) (Forest.nil.append (.node a ⟨.invalid, none, 0, 0, none⟩ .nil .nil))
        from newItem_fresh halloc)
      (show Shows h₁ .nil [] from rfl) (show TextAt h₁ none none from rfl)
    cases houtcome with
    | refused hnone =>
      obtain ⟨h₃, hdelete, hsame⟩ := hfresh.delete
      refine ⟨none, h₃, ?_, .refused hsame fun hall => ?_⟩
      · rw [cJSONParse, halloc]
        simp [hparse, hdelete]
      · rw [WfPublisher.cJSONParse, Option.map_eq_none_iff.mp (hnone hall)]
        rfl
    | accepted hsome hshown =>
      obtain ⟨⟨item, rest⟩, hitem, heq⟩ := Option.map_eq_some_iff.mp hsome
      cases heq
      refine ⟨some a, h₂, ?_, .parsed ?_ hfresh hshown⟩
      · rw [cJSONParse, halloc]
        simp [hparse]
      · rw [WfPublisher.cJSONParse, hitem]
        rfl

end

end WfPublisher.CJsonMemory
