import Mathlib
import WfPublisher.CJson.Tree

/-!
# `cJSON_Parse`

The parse buffer is the text from the current offset on, without the NUL that
ends it: standing on that NUL is the empty list. Each function returns what it
built and the text behind it, or `none` where the C function returns false.
A number is what the type of the numbers makes of a decimal: exact in a field,
the nearest double in `Float`.
-/

namespace WfPublisher

open CJson

-- ---------------------------------------------------------------------------
-- White space and byte order mark
-- ---------------------------------------------------------------------------

def bufferSkipWhitespace (buffer : CString) : CString := buffer.dropWhile (·.toNat ≤ 32)

def skipUtf8Bom (buffer : CString) : CString :=
  if 4 ≤ buffer.length ∧ buffer.take 3 = [Char.ofNat 0xEF, Char.ofNat 0xBB, Char.ofNat 0xBF] then
    buffer.drop 3
  else buffer

-- ---------------------------------------------------------------------------
-- Strings
-- ---------------------------------------------------------------------------

/-- The text up to the closing quote, escapes kept, and the text after it. -/
def scanString : CString → Option (CString × CString)
  | [] => none
  | '"' :: rest => some ([], rest)
  | '\\' :: c :: rest => (scanString rest).map fun (raw, after) => ('\\' :: c :: raw, after)
  | c :: rest => (scanString rest).map fun (raw, after) => (c :: raw, after)

def hexDigit (c : Char) : Option Nat :=
  if '0' ≤ c ∧ c ≤ '9' then some (c.toNat - '0'.toNat)
  else if 'A' ≤ c ∧ c ≤ 'F' then some (10 + c.toNat - 'A'.toNat)
  else if 'a' ≤ c ∧ c ≤ 'f' then some (10 + c.toNat - 'a'.toNat)
  else none

/-- An invalid digit makes the whole number `0`. -/
def parseHex4 (input : CString) : Nat :=
  match (input.take 4).mapM hexDigit with
  | some digits => Nat.ofDigits 16 digits.reverse
  | none => 0

def utf8Bytes (codepoint : Nat) : List Nat :=
  if codepoint < 0x80 then [codepoint]
  else if codepoint < 0x800 then [0xC0 + codepoint / 64, 0x80 + codepoint % 64]
  else if codepoint < 0x10000 then
    [0xE0 + codepoint / 4096, 0x80 + codepoint / 64 % 64, 0x80 + codepoint % 64]
  else
    [0xF0 + codepoint / 262144, 0x80 + codepoint / 4096 % 64, 0x80 + codepoint / 64 % 64,
      0x80 + codepoint % 64]

/-- The bytes of one `\u` literal, or of a surrogate pair of them, and the
number of characters it took; `input` begins at the backslash. -/
def utf16LiteralToUtf8 (input : CString) : Option (CString × Nat) :=
  if input.length < 6 then none
  else
    let firstCode := parseHex4 (input.drop 2)
    if 0xDC00 ≤ firstCode ∧ firstCode ≤ 0xDFFF then none
    else if 0xD800 ≤ firstCode ∧ firstCode ≤ 0xDBFF then
      let second := input.drop 6
      if second.length < 6 then none
      else if second.take 2 ≠ ['\\', 'u'] then none
      else
        let secondCode := parseHex4 (second.drop 2)
        if secondCode < 0xDC00 ∨ 0xDFFF < secondCode then none
        else
          let codepoint := 0x10000 + (firstCode % 1024 * 1024 + secondCode % 1024)
          some ((utf8Bytes codepoint).map Char.ofNat, 12)
    else some ((utf8Bytes firstCode).map Char.ofNat, 6)

/-- Replaces the escapes; every round consumes a character, so the length of
the text is enough fuel. -/
def unescape : Nat → CString → Option CString
  | 0, _ => some []
  | _ + 1, [] => some []
  | n + 1, '\\' :: rest =>
    match rest with
    -- a `\u` without four digits may take the first of two backslashes; behind the
    -- other one stands the closing quote, and it is taken for the letter of the escape
    | [] => some ['"']
    | 'b' :: after => (unescape n after).map (Char.ofNat 8 :: ·)
    | 'f' :: after => (unescape n after).map (Char.ofNat 12 :: ·)
    | 'n' :: after => (unescape n after).map ('\n' :: ·)
    | 'r' :: after => (unescape n after).map ('\r' :: ·)
    | 't' :: after => (unescape n after).map ('\t' :: ·)
    | '"' :: after => (unescape n after).map ('"' :: ·)
    | '\\' :: after => (unescape n after).map ('\\' :: ·)
    | '/' :: after => (unescape n after).map ('/' :: ·)
    | 'u' :: _ =>
      match utf16LiteralToUtf8 ('\\' :: rest) with
      | some (output, taken) => (unescape n (('\\' :: rest).drop taken)).map (output ++ ·)
      | none => none
    | _ => none
  | n + 1, c :: rest => (unescape n rest).map (c :: ·)

/-- An escaped NUL ends the C string early. -/
def parseString : CString → Option (CString × CString)
  | '"' :: rest => do
    let (raw, after) ← scanString rest
    let output ← unescape raw.length raw
    some (output.takeWhile (· ≠ Char.ofNat 0), after)
  | _ => none

-- ---------------------------------------------------------------------------
-- Numbers
-- ---------------------------------------------------------------------------

def isNumberChar (c : Char) : Bool :=
  c.isDigit || c == '+' || c == '-' || c == 'e' || c == 'E' || c == '.'

def digitsValue (digits : CString) : Nat :=
  Nat.ofDigits 10 (digits.map fun c => c.toNat - '0'.toNat).reverse

def takeSign : CString → Bool × CString
  | '-' :: rest => (true, rest)
  | '+' :: rest => (false, rest)
  | text => (false, text)

def takeExponent (text : CString) : Int × CString :=
  match text with
  | c :: rest =>
    if c = 'e' ∨ c = 'E' then
      let (negative, rest) := takeSign rest
      let digits := rest.takeWhile Char.isDigit
      if digits = [] then (0, text)
      else
        let value : Int := digitsValue digits
        (if negative then -value else value, rest.dropWhile Char.isDigit)
    else (0, text)
  | [] => (0, text)

/-- `strtod` on a text of number characters: the value of the longest prefix
that is a number and the rest, or `none` when there is no such prefix. -/
def strtod {K : Type} [Neg K] [CDouble K] (text : CString) : Option (K × CString) :=
  let (negative, rest) := takeSign text
  let whole := rest.takeWhile Char.isDigit
  let rest := rest.dropWhile Char.isDigit
  let (fraction, rest) :=
    match rest with
    | '.' :: more => (more.takeWhile Char.isDigit, more.dropWhile Char.isDigit)
    | _ => ([], rest)
  if whole ++ fraction = [] then none
  else
    let (exponent, rest) := takeExponent rest
    let value : K :=
      CDouble.ofDecimal (digitsValue (whole ++ fraction)) (exponent - fraction.length)
    some (if negative then -value else value, rest)

/-- Only the first 63 characters of the number are looked at. -/
def parseNumber {K : Type} [Neg K] [CDouble K] (buffer : CString) : Option (CJson K × CString) := do
  let numberCString := (buffer.take 63).takeWhile isNumberChar
  let (value, afterEnd) ← strtod (K := K) numberCString
  some (.number value, buffer.drop (numberCString.length - afterEnd.length))

-- ---------------------------------------------------------------------------
-- Values
-- ---------------------------------------------------------------------------

section
variable {K : Type} [Neg K] [CDouble K]

def parseScalar (buffer : CString) : Option (CJson K × CString) :=
  if "null".toList.isPrefixOf buffer then some (.null, buffer.drop 4)
  else if "false".toList.isPrefixOf buffer then some (.bool false, buffer.drop 5)
  else if "true".toList.isPrefixOf buffer then some (.bool true, buffer.drop 4)
  else
    match buffer with
    | '"' :: _ => (parseString buffer).map fun (s, rest) => (.string s, rest)
    | c :: _ => if c = '-' ∨ c.isDigit then parseNumber buffer else none
    | [] => none

def parseElements (value : CString → Option (CJson K × CString)) :
    Nat → CString → Option (List (CJson K) × CString)
  | 0, _ => none
  | n + 1, buffer => do
    let (item, rest) ← value (bufferSkipWhitespace buffer)
    match bufferSkipWhitespace rest with
    | ',' :: rest => (parseElements value n rest).map fun (list, after) => (item :: list, after)
    | ']' :: rest => some ([item], rest)
    | _ => none

def parseMembers (value : CString → Option (CJson K × CString)) :
    Nat → CString → Option (List (CString × CJson K) × CString)
  | 0, _ => none
  | n + 1, buffer => do
    let (name, rest) ← parseString (bufferSkipWhitespace buffer)
    match bufferSkipWhitespace rest with
    | ':' :: rest =>
      let (item, rest) ← value (bufferSkipWhitespace rest)
      match bufferSkipWhitespace rest with
      | ',' :: rest =>
        (parseMembers value n rest).map fun (list, after) => ((name, item) :: list, after)
      | '}' :: rest => some ([(name, item)], rest)
      | _ => none
    | _ => none

def parseArray (value : CString → Option (CJson K × CString)) (buffer : CString) :
    Option (CJson K × CString) :=
  match bufferSkipWhitespace buffer with
  | ']' :: rest => some (.array [], rest)
  | rest => (parseElements value rest.length rest).map fun (list, after) => (.array list, after)

def parseObject (value : CString → Option (CJson K × CString)) (buffer : CString) :
    Option (CJson K × CString) :=
  match bufferSkipWhitespace buffer with
  | '}' :: rest => some (.object [], rest)
  | rest => (parseMembers value rest.length rest).map fun (list, after) => (.object list, after)

/-- `depth` is how many more levels of nesting are allowed. -/
def parseValue : Nat → CString → Option (CJson K × CString)
  | 0, buffer => parseScalar buffer
  | depth + 1, buffer =>
    match buffer with
    | '[' :: rest => parseArray (parseValue depth) rest
    | '{' :: rest => parseObject (parseValue depth) rest
    | _ => parseScalar buffer

def nestingLimit : Nat := 1000

/-- What follows the first value of the text is not looked at. -/
def cJSONParse (value : CString) : Option (CJson K) :=
  (parseValue nestingLimit (bufferSkipWhitespace (skipUtf8Bom value))).map Prod.fst

end

end WfPublisher
