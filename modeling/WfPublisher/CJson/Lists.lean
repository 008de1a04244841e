import Mathlib
import WfPublisher.CJson.Memory
import WfPublisher.CJson.StringBuffer
import WfPublisher.CJson.Accepted

/-!
# Lists in a text

Arrays and objects are read by the same loop, once over elements and once over
members. It goes forward in the text, so that a round for each character is enough.
-/

namespace WfPublisher.CJsonMemory

open Syntax (parseWord parseScalar_cons)

variable {K : Type}

-- ---------------------------------------------------------------------------
-- The loop
-- ---------------------------------------------------------------------------

/-- A named item and the buffer behind it, as the text spells it. -/
abbrev Entry (K : Type) := (Option CString × CJson K) × CString

def named (name : Option CString) (value : CString → Option (CJson K × CString))
    (buffer : CString) : Option (Entry K) :=
  (value buffer).map fun r => ((name, r.1), r.2)

def readElement (value : CString → Option (CJson K × CString)) (buffer : CString) :
    Option (Entry K) :=
  named none value (bufferSkipWhitespace buffer)

def readMember (value : CString → Option (CJson K × CString)) (buffer : CString) :
    Option (Entry K) := do
  let (name, rest) ← WfPublisher.parseString (bufferSkipWhitespace buffer)
  match bufferSkipWhitespace rest with
  | ':' :: rest => named (some name) value (bufferSkipWhitespace rest)
  | _ => none

def readList (read : CString → Option (Entry K)) (close : Char) :
    ℕ → CString → Option (List (Option CString × CJson K) × CString)
  | 0, _ => none
  | n + 1, buffer => do
    let (entry, rest) ← read buffer
    match bufferSkipWhitespace rest with
    | [] => none
    | c :: rest =>
      if c = ',' then (readList read close n rest).map fun (list, after) => (entry :: list, after)
      else if c = close then some ([entry], rest)
      else none

def readChildren (read : CString → Option (Entry K)) (close : Char) (buffer : CString) :
    Option (List (Option CString × CJson K) × CString) :=
  if (bufferSkipWhitespace buffer).head? = some close then
    some ([], (bufferSkipWhitespace buffer).tail)
  else readList read close (bufferSkipWhitespace buffer).length (bufferSkipWhitespace buffer)

theorem readList_none {read : CString → Option (Entry K)} {close : Char} {n : ℕ} {buffer : CString}
    (h : read buffer = none) : readList read close n buffer = none := by
  cases n with
  | zero => rfl
  | succ n => rw [readList, h, Option.bind_eq_bind, Option.bind_none]

section
variable {value : CString → Option (CJson K × CString)}

theorem readList_elements (n : ℕ) (buffer : CString) :
    readList (readElement value) ']' n buffer =
      (parseElements value n buffer).map fun r => (r.1.map fun item => (none, item), r.2) := by
  induction n generalizing buffer with
  | zero => rfl
  | succ n ih =>
    cases hvalue : value (bufferSkipWhitespace buffer) with
    | none => simp [readList, parseElements, readElement, named, hvalue]
    | some r =>
      cases hcons : bufferSkipWhitespace r.2 with
      | nil => simp [readList, parseElements, readElement, named, hvalue, hcons]
      | cons c after =>
        by_cases hcomma : c = ','
        · simp [readList, parseElements, readElement, named, hvalue, hcons, hcomma, ih,
            Function.comp_def]
        by_cases hclose : c = ']'
        · simp [readList, parseElements, readElement, named, hvalue, hcons, hclose]
        · simp [readList, parseElements, readElement, named, hvalue, hcons, hcomma, hclose]

theorem readList_members (n : ℕ) (buffer : CString) :
    readList (readMember value) '}' n buffer =
      (parseMembers value n buffer).map fun r => (r.1.map fun m => (some m.1, m.2), r.2) := by
  induction n generalizing buffer with
  | zero => rfl
  | succ n ih =>
    cases hname : WfPublisher.parseString (bufferSkipWhitespace buffer) with
    | none => simp [readList, parseMembers, readMember, hname]
    | some r =>
      cases hcolon : bufferSkipWhitespace r.2 with
      | nil => simp [readList, parseMembers, readMember, hname, hcolon]
      | cons c after =>
        by_cases hc : c = ':'
        · subst hc
          cases hvalue : value (bufferSkipWhitespace after) with
          | none => simp [readList, parseMembers, readMember, named, hname, hcolon, hvalue]
          | some r' =>
            cases hcons : bufferSkipWhitespace r'.2 with
            | nil => simp [readList, parseMembers, readMember, named, hname, hcolon, hvalue, hcons]
            | cons d rest =>
              by_cases hcomma : d = ','
              · simp [readList, parseMembers, readMember, named, hname, hcolon, hvalue, hcons,
                  hcomma, ih, Function.comp_def]
              by_cases hclose : d = '}'
              · simp [readList, parseMembers, readMember, named, hname, hcolon, hvalue, hcons,
                  hclose]
              · simp [readList, parseMembers, readMember, named, hname, hcolon, hvalue, hcons,
                  hcomma, hclose]
        · simp [readList, parseMembers, readMember, hname, hcolon, hc]

end

-- ---------------------------------------------------------------------------
-- Forward
-- ---------------------------------------------------------------------------

/-- A reader of texts that goes forward. -/
structure Forward {α : Type} (read : CString → Option (α × CString)) : Prop where
  nil : read [] = none
  length_le : ∀ {buffer entry rest}, read buffer = some (entry, rest) → rest.length ≤ buffer.length

section
variable {value : CString → Option (CJson K × CString)}

theorem bufferSkipWhitespace_length_le (buffer : CString) :
    (bufferSkipWhitespace buffer).length ≤ buffer.length :=
  (List.dropWhile_sublist _).length_le

theorem forward_string : Forward WfPublisher.parseString where
  nil := rfl
  length_le := by
    intro buffer entry rest h
    unfold WfPublisher.parseString at h
    split at h
    · obtain ⟨⟨raw, after⟩, hscan, h⟩ := Option.bind_eq_some_iff.mp h
      obtain ⟨output, -, h⟩ := Option.bind_eq_some_iff.mp h
      cases h
      rw [(ParseString.scanString_rounds hscan).1]
      simp only [List.length_cons, List.length_append]
      omega
    · cases h

theorem Forward.named (hvalue : Forward value) (name : Option CString) :
    Forward (named name value) where
  nil := by
    rw [CJsonMemory.named, hvalue.nil]
    rfl
  length_le := by
    intro buffer entry rest h
    obtain ⟨⟨item, after⟩, hitem, heq⟩ := Option.map_eq_some_iff.mp h
    cases heq
    exact hvalue.length_le hitem

theorem Forward.element (hvalue : Forward value) : Forward (readElement value) where
  nil := (hvalue.named none).nil
  length_le h := ((hvalue.named none).length_le h).trans (bufferSkipWhitespace_length_le _)

theorem Forward.member (hvalue : Forward value) : Forward (readMember value) where
  nil := rfl
  length_le := by
    intro buffer entry rest h
    obtain ⟨⟨name, after⟩, hname, h⟩ := Option.bind_eq_some_iff.mp h
    dsimp only at h
    split at h
    · rename_i text hcolon
      have hname := forward_string.length_le hname
      have hskip := bufferSkipWhitespace_length_le after
      have hrest := (hvalue.named (some name)).length_le h
      rw [hcolon, List.length_cons] at hskip
      exact hrest.trans ((bufferSkipWhitespace_length_le text).trans
        ((Nat.le_of_succ_le hskip).trans (hname.trans (bufferSkipWhitespace_length_le buffer))))
    · cases h

theorem Forward.list {read : CString → Option (Entry K)} (hread : Forward read) {close : Char}
    {n : ℕ} {buffer rest : CString} {entries : List (Option CString × CJson K)}
    (h : readList read close n buffer = some (entries, rest)) : rest.length ≤ buffer.length := by
  induction n generalizing buffer entries with
  | zero => cases h
  | succ n ih =>
    obtain ⟨⟨entry, after⟩, hentry, h⟩ := Option.bind_eq_some_iff.mp h
    have hskip := (bufferSkipWhitespace_length_le after).trans (hread.length_le hentry)
    dsimp only at h
    split at h
    · cases h
    · rename_i c text hcons
      rw [hcons, List.length_cons] at hskip
      split_ifs at h
      · obtain ⟨⟨list, after⟩, hrest, heq⟩ := Option.map_eq_some_iff.mp h
        cases heq
        exact (ih hrest).trans (Nat.le_of_succ_le hskip)
      · cases h
        exact Nat.le_of_succ_le hskip

end

-- ---------------------------------------------------------------------------
-- What is read
-- ---------------------------------------------------------------------------

section
variable [Field K] [LinearOrder K] [FloorRing K] {value : CString → Option (CJson K × CString)}

/-- The fields besides the name are those of an array or object with these children. -/
structure HasChildren (type : ItemType) (item : CJson K)
    (children : List (Option CString × CJson K)) : Prop where
  type : typeOf item = type
  child : item.child = children
  valuestring : item.valuestring = none
  valueint : item.valueint = 0
  valuedouble : item.valuedouble = 0

def Collects (type : ItemType) (children : Option (List (Option CString × CJson K) × CString))
    (value : Option (CJson K × CString)) : Prop :=
  children = none ∧ value = none ∨ ∃ entries item rest, children = some (entries, rest) ∧
    value = some (item, rest) ∧ HasChildren type item entries

theorem collects_array (buffer : CString) :
    Collects .array (readChildren (readElement value) ']' buffer)
      (WfPublisher.parseArray value buffer) := by
  rw [readChildren, readList_elements, WfPublisher.parseArray]
  generalize bufferSkipWhitespace buffer = text
  by_cases hclose : text.head? = some ']'
  · obtain ⟨rest, rfl⟩ := List.head?_eq_some_iff.mp hclose
    exact .inr ⟨[], .array [], rest, rfl, rfl, rfl, rfl, rfl, rfl, rfl⟩
  · rw [if_neg hclose]
    split
    · exact absurd rfl hclose
    · cases parseElements value text.length text with
      | none => exact .inl ⟨rfl, rfl⟩
      | some r => exact .inr ⟨_, .array r.1, r.2, rfl, rfl, rfl, rfl, rfl, rfl, rfl⟩

theorem collects_object (buffer : CString) :
    Collects .object (readChildren (readMember value) '}' buffer)
      (WfPublisher.parseObject value buffer) := by
  rw [readChildren, readList_members, WfPublisher.parseObject]
  generalize bufferSkipWhitespace buffer = text
  by_cases hclose : text.head? = some '}'
  · obtain ⟨rest, rfl⟩ := List.head?_eq_some_iff.mp hclose
    exact .inr ⟨[], .object [], rest, rfl, rfl, rfl, rfl, rfl, rfl, rfl⟩
  · rw [if_neg hclose]
    split
    · exact absurd rfl hclose
    · cases parseMembers value text.length text with
      | none => exact .inl ⟨rfl, rfl⟩
      | some r => exact .inr ⟨_, .object r.1, r.2, rfl, rfl, rfl, rfl, rfl, rfl, rfl⟩

theorem Forward.collects {read : CString → Option (Entry K)} (hread : Forward read) {close : Char}
    {type : ItemType}
    (hcollects : ∀ buffer, Collects type (readChildren read close buffer) (value buffer)) :
    Forward value where
  nil := by
    obtain ⟨-, hvalue⟩ | ⟨entries, item, rest, hchildren, -⟩ := hcollects []
    · exact hvalue
    · cases hchildren
  length_le := by
    intro buffer item rest h
    obtain ⟨-, hvalue⟩ | ⟨entries, item', rest', hchildren, hvalue, -⟩ := hcollects buffer
    · rw [hvalue] at h
      cases h
    · rw [hvalue] at h
      cases h
      refine le_trans ?_ (bufferSkipWhitespace_length_le buffer)
      unfold readChildren at hchildren
      split at hchildren
      · cases hchildren
        exact (List.tail_sublist _).length_le
      · exact hread.list hchildren

theorem forward_scalar : Forward (WfPublisher.parseScalar (K := K)) where
  nil := rfl
  length_le := by
    intro buffer entry rest h
    cases buffer with
    | nil => cases h
    | cons c text =>
      have hword : ∀ {word : CString} {item : CJson K},
          parseWord word item text = some (entry, rest) → rest.length ≤ (c :: text).length := by
        intro word item hparse
        unfold parseWord at hparse
        split at hparse
        · cases hparse
          exact (List.drop_sublist _ _).length_le.trans (Nat.le_succ _)
        · cases hparse
      rw [parseScalar_cons] at h
      split_ifs at h
      · exact hword h
      · exact hword h
      · exact hword h
      · obtain ⟨⟨s, after⟩, hstring, heq⟩ := Option.map_eq_some_iff.mp h
        cases heq
        exact forward_string.length_le hstring
      · obtain ⟨⟨number, afterEnd⟩, -, heq⟩ := Option.bind_eq_some_iff.mp h
        cases heq
        exact (List.drop_sublist _ _).length_le

theorem forward_value (n : ℕ) : Forward (WfPublisher.parseValue (K := K) n) := by
  induction n with
  | zero => exact forward_scalar
  | succ n ih =>
    refine ⟨rfl, fun {buffer item rest} h => ?_⟩
    unfold WfPublisher.parseValue at h
    split at h
    · exact ((ih.element.collects collects_array).length_le h).trans (Nat.le_succ _)
    · exact ((ih.member.collects collects_object).length_le h).trans (Nat.le_succ _)
    · exact forward_scalar.length_le h

end

end WfPublisher.CJsonMemory
