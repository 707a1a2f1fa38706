import Mathlib.Algebra.GroupWithZero.Nat
import Nemor.Lib.UnixPath

/-!
# Reading text

How a program takes a text apart: lines, words, the two sides of a separator, numbers in a
radix. A text is the list of its characters.
-/

namespace Text

open UnixPath

/-- A line that was ended by `\r\n`. -/
def stripReturn (line : List Char) : List Char :=
  if line.getLast? = some '\r' then line.dropLast else line

/-- The lines of a text. A terminator at its end starts no further line, and the last line
    keeps what it has if nothing ends it. -/
def lines (text : List Char) : List (List Char) :=
  let parts := text.splitOn '\n'
  parts.dropLast.map stripReturn ++ (parts.getLast?.filter fun line => line ≠ []).toList

/-- The words of a text, between stretches of white space. -/
def splitWhitespace (text : List Char) : List (List Char) :=
  (text.splitOnP isWhiteSpace).filter fun word => word ≠ []

/-- `str::trim`. -/
def trim (text : List Char) : List Char :=
  ((text.dropWhile isWhiteSpace).reverse.dropWhile isWhiteSpace).reverse

/-- The two sides of the first separator. -/
def splitOnce (separator : Char) (text : List Char) : Option (List Char × List Char) :=
  if separator ∈ text then
    some (text.takeWhile (· ≠ separator), (text.dropWhile (· ≠ separator)).tail)
  else none

/-- What follows a prefix. -/
def stripPrefix (start text : List Char) : Option (List Char) :=
  if start.isPrefixOf text then some (text.drop start.length) else none

/-- What precedes a suffix. -/
def stripSuffix (stop text : List Char) : Option (List Char) :=
  if stop.isSuffixOf text then some (text.take (text.length - stop.length)) else none

/-- The two sides of the first occurrence of a marker. -/
def splitOnceAt (marker : List Char) : List Char → Option (List Char × List Char)
  | [] => if marker = [] then some ([], []) else none
  | c :: rest =>
    if marker.isPrefixOf (c :: rest) then some ([], (c :: rest).drop marker.length)
    else (splitOnceAt marker rest).map fun (before, behind) => (c :: before, behind)

/-- A text without a character at its end, however often it stands there. -/
def trimEndMatches (c : Char) (text : List Char) : List Char :=
  (text.reverse.dropWhile (· = c)).reverse

/-- The same at both ends. -/
def trimMatches (c : Char) (text : List Char) : List Char :=
  trimEndMatches c (text.dropWhile (· = c))

/-- A text without a prefix, however often it is repeated. -/
def trimStartMatches (start text : List Char) : List Char :=
  go text.length text
where
  go : ℕ → List Char → List Char
    | 0, text => text
    | n + 1, text =>
      match stripPrefix start text with
      | some rest => go n rest
      | none => text

/-- A text without a suffix, however often it is repeated. -/
def trimEndText (stop text : List Char) : List Char :=
  (trimStartMatches stop.reverse text.reverse).reverse

/-- The ASCII letters in lower case. -/
def toAsciiLowercase (text : List Char) : List Char := text.map Char.toLower

/-! ## Numbers -/

/-- `char::to_digit`. -/
def digitValue (radix : ℕ) (c : Char) : Option ℕ :=
  let value :=
    if c.isDigit then c.toNat - '0'.toNat
    else if 'a' ≤ c ∧ c ≤ 'z' then c.toNat - 'a'.toNat + 10
    else if 'A' ≤ c ∧ c ≤ 'Z' then c.toNat - 'A'.toNat + 10
    else radix
  if value < radix then some value else none

/-- The digits of a number below `bound`, from the left. -/
def parseDigits (radix bound : ℕ) : ℕ → List Char → Option ℕ
  | value, [] => some value
  | value, c :: rest =>
    match digitValue radix c with
    | none => none
    | some digit =>
      if value * radix + digit < bound then parseDigits radix bound (value * radix + digit) rest
      else none

/-- An unsigned number below `bound`. A plus sign may come first; a sign alone is no number. -/
def fromRadix (radix bound : ℕ) : List Char → Option ℕ
  | [] => none
  | ['+'] => none
  | '+' :: digits => parseDigits radix bound 0 digits
  | digits => parseDigits radix bound 0 digits

/-- `u64::from_str`. -/
def parseU64 (text : List Char) : Option UInt64 :=
  (fromRadix 10 (2 ^ 64) text).map UInt64.ofNat

/-- `u64::from_str_radix` in base 16. -/
def parseHexU64 (text : List Char) : Option UInt64 :=
  (fromRadix 16 (2 ^ 64) text).map UInt64.ofNat

/-- `u32::from_str`. -/
def parseU32 (text : List Char) : Option UInt32 :=
  (fromRadix 10 (2 ^ 32) text).map UInt32.ofNat

/-- `u8::from_str`. -/
def parseU8 (text : List Char) : Option UInt8 :=
  (fromRadix 10 (2 ^ 8) text).map UInt8.ofNat

/-- Two hexadecimal numbers joined by a hyphen, as the first word of a line. -/
def hexRange (line : List Char) : Option (UInt64 × UInt64) := do
  let token ← (splitWhitespace line).head?
  let (start, stop) ← splitOnce '-' token
  let start ← parseHexU64 start
  let stop ← parseHexU64 stop
  return (start, stop)

end Text
