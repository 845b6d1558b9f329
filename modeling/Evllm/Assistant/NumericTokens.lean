/-
# The numbers of a text

The support check compares the numbers that a clause states with those of the
support texts: literals in digits, found by one pattern and written in a normal
form, and numbers in words, read by a loop that looks ahead for the tens after a
hundred and the unit after the tens.

Texts are lists of characters here. The words of numbers are looked up in plain
objects, which have `constructor` from their prototype.

Key definitions: `numberPattern`, `normalizeNumberLiteral`, `numberWordValues`,
`numericTokens`, `numbersArePreserved`.
-/
import Evllm.Lib.Regex
import Mathlib.Data.Finset.Basic
import Mathlib.Data.List.DropRight

namespace Evllm
namespace Assistant

open Lib Regex

/-! ### Literals -/

/-- `[a-z0-9-]` with the flags `iu`, where two more characters fold to letters. -/
def besideNumber (c : Char) : Bool := c.isAlphanum || c ∈ ['-', '\u017F', '\u212A']

def digit : Regex := set Char.isDigit

/-- `[0-9]{1,3}(?:,[0-9]{3})+`. -/
def groupedDigits : Regex :=
  seqs [digit, option (seqs [digit, option digit]), many (seqs [char ',', digit, digit, digit])]

/-- `/(?<![a-z0-9-])[-+]?(?:[0-9]{1,3}(?:,[0-9]{3})+|[0-9]+)(?:\.[0-9]+)?%?(?![a-z0-9-])/giu`. -/
def numberPattern : Regex :=
  seqs [notPreceded besideNumber, option (set (· ∈ ['-', '+'])), alt groupedDigits (many digit),
    option (seqs [char '.', many digit]), option (char '%'), notFollowed besideNumber]

/-- `replace(/%$/u, "")`. -/
def withoutPercent (value : List Char) : List Char :=
  if value.getLast? = some '%' then value.dropLast else value

/-- `replace(/^0+(?=[0-9])/u, "")`. -/
def withoutLeadingZeros : List Char → List Char
  | '0' :: c :: rest => if c.isDigit then withoutLeadingZeros (c :: rest) else '0' :: c :: rest
  | value => value

def normalizeNumberLiteral (value : String) : String :=
  let decorated := withoutPercent (value.toList.filter (· ≠ ','))
  let withoutDecoration := if decorated.head? = some '+' then decorated.tail else decorated
  let negative := withoutDecoration.head? = some '-'
  let unsigned := if negative then withoutDecoration.tail else withoutDecoration
  let integerPart := (unsigned.splitOn '.')[0]?.getD ['0']
  let fractionPart := (unsigned.splitOn '.')[1]?
  let stripped := withoutLeadingZeros integerPart
  let integer := if stripped = [] then ['0'] else stripped
  let fraction := (fractionPart.map (List.rdropWhile (· = '0'))).getD []
  let magnitude := if 0 < fraction.length then integer ++ '.' :: fraction else integer
  String.ofList (if negative ∧ magnitude ≠ ['0'] then '-' :: magnitude else magnitude)

/-- Digits that begin with a zero, as of an identifier. -/
def isZeroPadded (value : List Char) : Bool :=
  let unsigned := if value.head? ∈ [some '-', some '+'] then value.tail else value
  match withoutPercent (unsigned.filter (· ≠ ',')) with
  | '0' :: c :: rest => (c :: rest).all Char.isDigit
  | _ => false

/-! ### Words -/

/-- What a lower-case text has of the letters `a` to `z` and of apostrophes.
Characters whose lower case has none of them are kept: no pattern below tells
them apart. -/
def lowerCase (c : Char) : List Char :=
  if c.isUpper then [c.toLower]
  else if c = '\u0130' then ['i', '\u0307']
  else if c = '\u212A' then ['k']
  else [c]

def toLowerCase (value : List Char) : List Char := value.flatMap lowerCase

/-- `isn|aren|…`. -/
def negated : Regex :=
  (["isn", "aren", "wasn", "weren", "doesn", "don", "didn", "couldn", "won", "wouldn", "shouldn"].map literal).foldr alt
    (literal "mustn")

/-- `/\b(?:isn|aren|…)…\b/gu`. -/
def negationPattern (ending : String) : Regex := seqs [boundary, negated, literal ending, boundary]

/-- `/\bcan['’]?t\b/gu`. -/
def cannotPattern : Regex :=
  seqs [boundary, literal "can", option (set (· ∈ ['\x27', '\u2019'])), char 't', boundary]

def expandContractions (value : List Char) : List Char :=
  replaceAll (negationPattern "t") " not".toList
    (replaceAll cannotPattern "cannot".toList
      (replaceAll (negationPattern "'t") " not".toList (toLowerCase value)))

/-- `/[a-z]+/gu`. -/
def wordPattern : Regex := many (set Char.isLower)

/-- `words` of `numberWordValues`. -/
def wordsOf (value : List Char) : List String :=
  (matchAll wordPattern ((expandContractions value).map fun c => if c = '-' then ' ' else c)).map String.ofList

/-- What the additions of the loop compute with: a number, `NaN`, or a text. A
function stands as its text, which is what additions make of it. -/
inductive NumberValue
  | number (n : ℕ)
  | nan
  | text (value : String)
deriving DecidableEq

namespace NumberValue

def toString : NumberValue → String
  | number n => Nat.repr n
  | nan => "NaN"
  | text value => value

def add : NumberValue → NumberValue → NumberValue
  | number m, number n => number (m + n)
  | text value, y => text (value ++ y.toString)
  | x, text value => text (x.toString ++ value)
  | _, _ => nan

/-- `value * 100`, of a number or a function. -/
def hundredfold : NumberValue → NumberValue
  | number n => number (n * 100)
  | _ => nan

/-- `value < 10`. -/
def isSmall : NumberValue → Bool
  | number n => n < 10
  | _ => false

end NumberValue

/-- `Object`, which plain objects have as their `constructor`. -/
def objectFunction : NumberValue := .text "function Object() \x7b [native code] \x7d"

/-- Reads a word in a plain object of numbers. -/
def readWord (table : List (String × ℕ)) (word : String) : Option NumberValue :=
  match table.lookup word with
  | some n => some (.number n)
  | none => if word = "constructor" then some objectFunction else none

def units : String → Option NumberValue :=
  readWord [("zero", 0), ("one", 1), ("two", 2), ("three", 3), ("four", 4), ("five", 5), ("six", 6), ("seven", 7),
    ("eight", 8), ("nine", 9), ("ten", 10), ("eleven", 11), ("twelve", 12), ("thirteen", 13), ("fourteen", 14),
    ("fifteen", 15), ("sixteen", 16), ("seventeen", 17), ("eighteen", 18), ("nineteen", 19)]

def tens : String → Option NumberValue :=
  readWord [("twenty", 20), ("thirty", 30), ("forty", 40), ("fifty", 50), ("sixty", 60), ("seventy", 70),
    ("eighty", 80), ("ninety", 90)]

/-- A unit below ten, which may follow the tens. -/
def smallUnit (word : String) : Option NumberValue := (units word).filter NumberValue.isSmall

/-- The tens, and how many of the words after them belong to the number. -/
def afterTens (result : NumberValue) (words : List String) : NumberValue × ℕ :=
  match words.head?.bind smallUnit with
  | some unit => (result.add unit, 1)
  | none => (result, 0)

/-- What follows a hundred, past an `and`. -/
def afterHundred (result : NumberValue) : List String → NumberValue × ℕ
  | [] => (result, 0)
  | word :: words =>
    match tens word, units word with
    | some ten, _ =>
      let (value, taken) := afterTens (result.add ten) words
      (value, taken + 1)
    | none, some unit => (result.add unit, 1)
    | none, none => (result, 0)

/-- The number that begins at a word, and how many of the words after it belong
to it. -/
def numberAt (word : String) (words : List String) : Option (NumberValue × ℕ) :=
  match units word, tens word, words with
  | some unit, _, "hundred" :: "and" :: words =>
    let (value, taken) := afterHundred unit.hundredfold words
    some (value, taken + 2)
  | some unit, _, "hundred" :: words =>
    let (value, taken) := afterHundred unit.hundredfold words
    some (value, taken + 1)
  | _, some ten, words => some (afterTens ten words)
  | some unit, none, _ => some (unit, 0)
  | none, none, _ => none

/-- The loop over the words. The index is ahead by the words that belong to a
number. -/
def numbersFrom : ℕ → List String → List NumberValue
  | _, [] => []
  | taken + 1, _ :: words => numbersFrom taken words
  | 0, word :: words =>
    match numberAt word words with
    | some (value, taken) => value :: numbersFrom taken words
    | none => numbersFrom 0 words

def numberWordValues (value : List Char) : List NumberValue := numbersFrom 0 (wordsOf value)

/-! ### Support -/

def literalTokens (value : List Char) : List String :=
  ((matchAll numberPattern value).filter fun literal => !isZeroPadded literal).map fun literal =>
    normalizeNumberLiteral (String.ofList literal)

def numericTokens (value : String) : Finset String :=
  (literalTokens value.toList ++ (numberWordValues value.toList).map NumberValue.toString).toFinset

def numbersArePreserved (statement support : String) : Prop := numericTokens statement ⊆ numericTokens support

instance (statement support : String) : Decidable (numbersArePreserved statement support) :=
  inferInstanceAs (Decidable (numericTokens statement ⊆ numericTokens support))

/-- The part of `hasClauseSemanticSupport` on numbers. -/
def clauseNumbersSupported (clause : String) (supportTexts : List String) : Prop :=
  numbersArePreserved clause (" ".intercalate supportTexts)

instance (clause : String) (supportTexts : List String) : Decidable (clauseNumbersSupported clause supportTexts) :=
  inferInstanceAs (Decidable (numbersArePreserved clause (" ".intercalate supportTexts)))

example : numericTokens "Pack 007 has twenty-one cells, +1,250.50 Wh, -0.0% and one hundred and five cycles" =
    {"21", "1250.5", "0", "105"} := by
  decide +kernel

end Assistant
end Evllm
