import Mathlib

/-!
# Texts in blocks of bytes

Writing into a block and measuring a text in it, each refused outside the block.
-/

namespace TextBuffer

def nul : Char := Char.ofNat 0

/-- Bytes written from an index on. -/
def store (bytes : List Char) (index : ℕ) (text : List Char) : Option (List Char) :=
  if index + text.length ≤ bytes.length then
    some (bytes.take index ++ (text ++ bytes.drop (index + text.length)))
  else none

def strlen (bytes : List Char) (index : ℕ) : Option ℕ :=
  if nul ∈ bytes.drop index then some ((bytes.drop index).takeWhile (· ≠ nul)).length else none

theorem store_append (front : List Char) {rest text : List Char} (h : text.length ≤ rest.length) :
    store (front ++ rest) front.length text = some (front ++ (text ++ rest.drop text.length)) := by
  rw [store, if_pos (by rw [List.length_append]; omega), List.take_left, ← List.drop_drop,
    List.drop_left]

theorem strlen_append (front rest : List Char) {text : List Char} (h : nul ∉ text) :
    strlen (front ++ (text ++ nul :: rest)) front.length = some text.length := by
  have htext : (text ++ nul :: rest).takeWhile (· ≠ nul) = text := by
    rw [List.takeWhile_append_of_pos]
    · simp
    · exact fun c hc => decide_eq_true fun heq => h (heq ▸ hc)
  rw [strlen, List.drop_left, if_pos (by simp), htext]

end TextBuffer
