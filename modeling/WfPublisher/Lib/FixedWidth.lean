import Mathlib
import WfPublisher.Lib.Printf

/-!
# Records of fixed-width numbers

A record is printed as tags and numbers of a least width each, and read back as
if the widths were exact. The two agree exactly where no number is too wide.
-/

namespace FixedWidth

open Printf

structure Item where
  tag : List Char
  width : Nat

def print : List Item → List Int → List Char
  | item :: layout, n :: ns => item.tag ++ printD item.width n ++ print layout ns
  | [], _ | _, [] => []

def read : List Item → List Char → Option (List Int × List Char)
  | [], text => some ([], text)
  | item :: layout, text => do
    let text ← text.dropPrefix? item.tag
    guard (item.width ≤ text.length)
    let n ← readD (text.take item.width)
    let (ns, text) ← read layout (text.drop item.width)
    return (n :: ns, text)

def Fits (item : Item) (n : Int) : Prop := (printD item.width n).length = item.width

/-- The length of a record whose numbers have the widths of the layout. -/
def width (layout : List Item) : Nat :=
  (layout.map fun item => item.tag.length + item.width).sum

variable {layout : List Item} {ns ms : List Int} {text tail : List Char}

theorem read_print (h : List.Forall₂ Fits layout ns) (tail : List Char) :
    read layout (print layout ns ++ tail) = some (ns, tail) := by
  induction h with
  | nil => rfl
  | @cons item n layout ns hn _ ih =>
    unfold Fits at hn
    have htake (rest : List Char) : (printD item.width n ++ rest).take item.width =
        printD item.width n := List.take_left' hn
    have hdrop (rest : List Char) : (printD item.width n ++ rest).drop item.width = rest :=
      List.drop_left' hn
    have htag (rest : List Char) : (item.tag ++ rest).dropPrefix? item.tag = some rest :=
      List.dropPrefix?_append_of_beq rest (beq_self_eq_true item.tag)
    simp [read, print, List.append_assoc, htag, htake, hdrop, readD_printD, ih, hn, guard]

theorem length_of_read (h : read layout text = some (ns, tail)) :
    text.length = width layout + tail.length := by
  induction layout generalizing text ns with
  | nil =>
    cases h
    simp [width]
  | cons item layout ih =>
    simp only [read, Option.bind_eq_bind, Option.bind_eq_some_iff, guard] at h
    obtain ⟨rest, hrest, hguard, hlength, n, hn, ⟨ns', tail'⟩, hread, hresult⟩ := h
    cases hresult
    obtain ⟨tag, rfl, htag⟩ := List.dropPrefix?_eq_some_iff.mp hrest
    cases eq_of_beq htag
    have := ih hread
    split at hlength
    · simp [width] at *
      omega
    · cases hlength

theorem width_le_length (h : layout.length = ns.length) :
    width layout ≤ (print layout ns).length := by
  induction layout generalizing ns with
  | nil => exact Nat.zero_le _
  | cons item layout ih =>
    cases ns with
    | nil => cases h
    | cons n ns =>
      have hrest := ih (Nat.succ.inj h)
      have hn := le_length_printD item.width n
      simp only [width, print, List.map_cons, List.sum_cons, List.length_append] at *
      omega

theorem fits_of_length (h : layout.length = ns.length)
    (hlength : (print layout ns).length = width layout) : List.Forall₂ Fits layout ns := by
  induction layout generalizing ns with
  | nil =>
    cases ns with
    | nil => exact .nil
    | cons n ns => cases h
  | cons item layout ih =>
    cases ns with
    | nil => cases h
    | cons n ns =>
      have hrest := width_le_length (Nat.succ.inj h)
      have hn := le_length_printD item.width n
      simp only [width, print, List.map_cons, List.sum_cons, List.length_append] at hlength hrest
      refine .cons ?_ (ih (Nat.succ.inj h) ?_)
      · unfold Fits
        omega
      · unfold width
        omega

/-- A record can be read back if and only if each of its numbers fits. -/
theorem read_print_iff (h : layout.length = ns.length) (tail : List Char) :
    (∃ ms, read layout (print layout ns ++ tail) = some (ms, tail)) ↔
      List.Forall₂ Fits layout ns := by
  constructor
  · rintro ⟨ms, hread⟩
    have hlength := length_of_read hread
    rw [List.length_append] at hlength
    exact fits_of_length h (by omega)
  · exact fun hfits => ⟨ns, read_print hfits tail⟩

end FixedWidth
