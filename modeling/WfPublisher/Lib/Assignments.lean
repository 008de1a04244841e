import Mathlib

/-!
# Lists of assignments

Names with values in quotes, separated by commas, as in the `set` clause of a
statement. What is printed can be read back if no name or value has a separator.
-/

namespace Assignments

def printOne (pair : List Char × List Char) : List Char :=
  pair.1 ++ "=\"".toList ++ pair.2 ++ "\"".toList

def print (pairs : List (List Char × List Char)) : List Char :=
  [','].intercalate (pairs.map printOne)

def readOne (text : List Char) : Option (List Char × List Char) := do
  let rest ← (text.dropWhile (· != '=')).dropPrefix? "=\"".toList
  guard (rest.dropWhile (· != '"') = "\"".toList)
  return (text.takeWhile (· != '='), rest.takeWhile (· != '"'))

def read (text : List Char) : Option (List (List Char × List Char)) :=
  (text.splitOn ',').mapM readOne

/-- No part of the pair can be taken for what is between the parts. -/
structure Plain (pair : List Char × List Char) : Prop where
  name : ',' ∉ pair.1 ∧ '=' ∉ pair.1
  value : ',' ∉ pair.2 ∧ '"' ∉ pair.2

variable {pair : List Char × List Char} {pairs : List (List Char × List Char)}

theorem takeWhile_ne {text : List Char} {c : Char} (h : c ∉ text) (rest : List Char) :
    (text ++ c :: rest).takeWhile (· != c) = text ∧
      (text ++ c :: rest).dropWhile (· != c) = c :: rest := by
  have hne : ∀ x ∈ text, (x != c) = true := by
    intro x hx
    exact bne_iff_ne.mpr fun heq => h (heq ▸ hx)
  constructor
  · simp [List.takeWhile_append_of_pos hne]
  · simp [List.dropWhile_append_of_pos hne]

theorem readOne_printOne (h : Plain pair) : readOne (printOne pair) = some pair := by
  obtain ⟨name, value⟩ := pair
  obtain ⟨hname, hname'⟩ := takeWhile_ne h.name.2 ('"' :: (value ++ ['"']))
  obtain ⟨hvalue, hvalue'⟩ := takeWhile_ne h.value.2 []
  have htext : printOne (name, value) = name ++ '=' :: '"' :: (value ++ ['"']) := by
    simp [printOne]
  simp [readOne, htext, hname, hname', hvalue, hvalue', List.dropPrefix?, guard]

theorem comma_not_mem_printOne (h : Plain pair) : ',' ∉ printOne pair := by
  simp [printOne, h.name.1, h.value.1]

theorem mapM_readOne (h : ∀ pair ∈ pairs, Plain pair) :
    (pairs.map printOne).mapM readOne = some pairs := by
  induction pairs with
  | nil => rfl
  | cons pair pairs ih =>
    have hrest := ih fun other hother => h other (List.mem_cons_of_mem _ hother)
    simp [List.mapM_cons, readOne_printOne (h pair List.mem_cons_self), hrest]

theorem read_print (hne : pairs ≠ []) (h : ∀ pair ∈ pairs, Plain pair) :
    read (print pairs) = some pairs := by
  have hcomma : ∀ text ∈ pairs.map printOne, ',' ∉ text := by
    intro text htext
    obtain ⟨pair, hpair, rfl⟩ := List.mem_map.mp htext
    exact comma_not_mem_printOne (h pair hpair)
  rw [read, print, List.splitOn_intercalate ',' hcomma (by simpa using hne), mapM_readOne h]

end Assignments
