import Mathlib
import WfPublisher.CJson.Parse
import WfPublisher.Lib.Decimal

/-!
# JSON texts and the items they stand for

The grammar of the format itself, with the item each text denotes: white space
around every token, escapes of characters and of surrogate pairs, numerals
without needless leading zeros. `cJSON_Parse` accepts more than this.
-/

namespace WfPublisher.Syntax

open CJson

-- ---------------------------------------------------------------------------
-- Strings
-- ---------------------------------------------------------------------------

def utf8 (c : Char) : CString := (String.utf8EncodeChar c).map fun b => Char.ofNat b.toNat

def hexChars (digit : ℕ) : List Char := [Nat.digitChar digit, (Nat.digitChar digit).toUpper]

def SpellsHex (n : ℕ) (hex : CString) : Prop :=
  n < 65536 ∧ List.Forall₂ (fun c digit => c ∈ hexChars digit) hex
    [n / 4096, n / 256 % 16, n / 16 % 16, n % 16]

instance (n : ℕ) (hex : CString) : Decidable (SpellsHex n hex) :=
  inferInstanceAs (Decidable (_ ∧ _))

def escapeLetters : List (Char × Char) :=
  [('"', '"'), ('\\', '\\'), ('/', '/'), ('b', Char.ofNat 8), ('f', Char.ofNat 12), ('n', '\n'),
    ('r', '\r'), ('t', '\t')]

/-- The bytes that one element of a string literal stands for. -/
inductive SpellsChar : CString → CString → Prop
  | plain (c : Char) : 32 ≤ c.toNat → c ≠ '"' → c ≠ '\\' → SpellsChar [c] [c]
  | letter (letter c : Char) : (letter, c) ∈ escapeLetters → SpellsChar [c] ['\\', letter]
  | unicode (c : Char) (hex : CString) : SpellsHex c.toNat hex →
      SpellsChar (utf8 c) ('\\' :: 'u' :: hex)
  | surrogates (c : Char) (high low : CString) : 0x10000 ≤ c.toNat →
      SpellsHex (0xD800 + (c.toNat - 0x10000) / 1024) high →
      SpellsHex (0xDC00 + (c.toNat - 0x10000) % 1024) low →
      SpellsChar (utf8 c) ('\\' :: 'u' :: (high ++ '\\' :: 'u' :: low))

inductive SpellsChars : CString → CString → Prop
  | nil : SpellsChars [] []
  | cons {bytes text restBytes rest : CString} : SpellsChar bytes text →
      SpellsChars restBytes rest → SpellsChars (bytes ++ restBytes) (text ++ rest)

/-- What a C string holds of these bytes. -/
def cString (bytes : CString) : CString := bytes.takeWhile (· ≠ Char.ofNat 0)

inductive SpellsString : CString → CString → Prop
  | quoted {bytes text : CString} : SpellsChars bytes text →
      SpellsString (cString bytes) ('"' :: (text ++ ['"']))

-- ---------------------------------------------------------------------------
-- Values
-- ---------------------------------------------------------------------------

def White (text : CString) : Prop := ∀ c ∈ text, c = ' ' ∨ c = '\t' ∨ c = '\n' ∨ c = '\r'

/-- An element of an array, with the white space around it. -/
structure Element (K : Type) where
  before : CString
  item : CJson K
  text : CString
  after : CString

structure Member (K : Type) where
  before : CString
  name : CString
  nameText : CString
  afterName : CString
  value : Element K

def Element.spelling {K : Type} (e : Element K) : CString := e.before ++ e.text ++ e.after

def Member.spelling {K : Type} (m : Member K) : CString :=
  m.before ++ m.nameText ++ m.afterName ++ ':' :: m.value.spelling

def Element.White {K : Type} (e : Element K) : Prop := Syntax.White e.before ∧ Syntax.White e.after

def Member.White {K : Type} (m : Member K) : Prop :=
  Syntax.White m.before ∧ Syntax.White m.afterName ∧ m.value.White

def separated : List CString → CString
  | [] => []
  | text :: rest => text ++ rest.flatMap (',' :: ·)

variable {K : Type} [Neg K] [CDouble K]

/-- The number that a numeral is read as: its value in a field, in `Float` the
double that is nearest to it. -/
def numberOf (numeral : Decimal.Numeral) : K :=
  let magnitude : K := CDouble.ofDecimal
    (Nat.ofDigitChars 10 (numeral.whole ++ numeral.fraction) 0)
    (numeral.exponentValue - (numeral.fraction.length : ℤ))
  if numeral.negative then -magnitude else magnitude

/-- A text and its item, of no more than so many levels and with numerals that
are not longer than `parse_number` looks. -/
inductive Spells : ℕ → CJson K → CString → Prop
  | null {n} : Spells n .null "null".toList
  | bool {n} (b : Bool) : Spells n (.bool b) (if b then "true".toList else "false".toList)
  | number {n} (numeral : Decimal.Numeral) : numeral.WellFormed → numeral.text.length ≤ 63 →
      Spells n (.number (numberOf numeral)) numeral.text
  | string {n} {s text : CString} : SpellsString s text → Spells n (.string s) text
  | emptyArray {n} {space : CString} : White space →
      Spells (n + 1) (.array []) ('[' :: (space ++ [']']))
  | array {n} (elements : List (Element K)) : elements ≠ [] →
      (∀ e ∈ elements, e.White) → (∀ e ∈ elements, Spells n e.item e.text) →
      Spells (n + 1) (.array (elements.map Element.item))
        ('[' :: (separated (elements.map Element.spelling) ++ [']']))
  | emptyObject {n} {space : CString} : White space →
      Spells (n + 1) (.object []) ('{' :: (space ++ ['}']))
  | object {n} (members : List (Member K)) : members ≠ [] →
      (∀ m ∈ members, m.White) → (∀ m ∈ members, SpellsString m.name m.nameText) →
      (∀ m ∈ members, Spells n m.value.item m.value.text) →
      Spells (n + 1) (.object (members.map fun m => (m.name, m.value.item)))
        ('{' :: (separated (members.map Member.spelling) ++ ['}']))

end WfPublisher.Syntax
