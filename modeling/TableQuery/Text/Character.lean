/-!
# Characters

Which characters a reader tells apart: letters in ASCII case, blanks,
digits, and the classes that are given as tables of code points.
-/

namespace TableQuery

namespace Text

/-! ## Code ranges

A class of characters is given as a list of ranges of code points, both
ends included, in ascending order and without overlap. The order lets a
search stop at the first range that starts above the code point. -/

/-- Whether a code point lies in one of the ascending ranges. -/
def inRanges : List (Nat × Nat) → Nat → Bool
  | [], _ => false
  | (lo, hi) :: rest, n => if n < lo then false else n ≤ hi || inRanges rest n

/-! ## ASCII letter case

Case changes that touch the letters `A` to `Z` only, as keywords and
option values are compared. -/

/-- The text with its ASCII capitals made small. -/
def asciiLower (s : String) : String :=
  String.ofList (s.toList.map Char.toLower)

/-- The text with its small ASCII letters made capital. -/
def asciiUpper (s : String) : String :=
  String.ofList (s.toList.map Char.toUpper)

/-- Whether two texts differ at most in the case of ASCII letters. -/
def sameWord (s t : String) : Bool :=
  s.toList.map Char.toLower == t.toList.map Char.toLower

theorem sameWord_iff {s t : String} : sameWord s t = true ↔ asciiLower s = asciiLower t := by
  simp [sameWord, asciiLower, String.ofList_inj]

/-! ## Blanks -/

/-- Whether a character is white space. -/
def isBlank (c : Char) : Bool :=
  let n := c.toNat
  (0x9 ≤ n && n ≤ 0xD) || n == 0x20 || n == 0x85 || n == 0xA0 || n == 0x1680 ||
    (0x2000 ≤ n && n ≤ 0x200A) || n == 0x2028 || n == 0x2029 || n == 0x202F ||
    n == 0x205F || n == 0x3000

/-- The text without the blanks it starts with. -/
def dropBlanks (cs : List Char) : List Char :=
  cs.dropWhile isBlank

/-- The text without the blanks it ends with. -/
def dropTrailingBlanks (cs : List Char) : List Char :=
  (cs.reverse.dropWhile isBlank).reverse

/-! ## Hexadecimal digits -/

/-- The digit of a number below sixteen, with small letters. -/
def hexDigit (n : Nat) : Char :=
  Nat.digitChar n

/-- The value of a digit, with small or capital letters. -/
def hexValue? (c : Char) : Option Nat :=
  if c.isDigit then some (c.toNat - '0'.toNat)
  else if 'a' ≤ c ∧ c ≤ 'f' then some (c.toNat - 'a'.toNat + 10)
  else if 'A' ≤ c ∧ c ≤ 'F' then some (c.toNat - 'A'.toNat + 10)
  else none

theorem hexValue?_hexDigit : ∀ n < 16, hexValue? (hexDigit n) = some n := by
  decide

/-! ## Decimal numbers

The value of a text of ASCII digits, with or without a sign in front, and
the texts that are numbers with a fraction or an exponent. -/

/-- The value of a digit. -/
def digitValue (c : Char) : Nat :=
  c.toNat - '0'.toNat

/-- The value of digits read from the left, after the value `n`. -/
def digitsValue (n : Nat) (ds : List Char) : Nat :=
  ds.foldl (fun n d => 10 * n + digitValue d) n

/-- The value of one or more ASCII digits. -/
def natOfDigits? (ds : List Char) : Option Nat :=
  if ds ≠ [] ∧ ds.all Char.isDigit then some (digitsValue 0 ds) else none

/-- The value of one or more ASCII digits after at most one sign. -/
def intOfDigits? : List Char → Option Int
  | '-' :: ds => (natOfDigits? ds).map fun n => -(n : Int)
  | '+' :: ds => (natOfDigits? ds).map fun n => (n : Int)
  | ds => (natOfDigits? ds).map fun n => (n : Int)

/-- Whether a text is one or more ASCII digits. -/
def isDigits (ds : List Char) : Bool :=
  ds ≠ [] && ds.all Char.isDigit

/-- Whether a text is nothing or an exponent. -/
def isExponent : List Char → Bool
  | [] => true
  | e :: cs =>
    (e == 'e' || e == 'E') &&
      match cs with
      | '+' :: ds => isDigits ds
      | '-' :: ds => isDigits ds
      | ds => isDigits ds

/-- The words for what is no finite number. -/
def numberWords : List String :=
  ["inf", "infinity", "nan"]

/-- Whether a text is a number without a sign: digits, with or without a
point among them and an exponent behind them, or a word in any ASCII
case. -/
def isNumber (cs : List Char) : Bool :=
  let whole := cs.takeWhile Char.isDigit
  let isFinite :=
    match cs.dropWhile Char.isDigit with
    | '.' :: rest =>
      (whole ≠ [] || rest.takeWhile Char.isDigit ≠ []) && isExponent (rest.dropWhile Char.isDigit)
    | rest => whole ≠ [] && isExponent rest
  isFinite || numberWords.any (sameWord · (String.ofList cs))

end Text

end TableQuery
