import Pageworks.Text.Table.Letter
import Pageworks.Text.Table.Mark
import Pageworks.Text.Table.Unprintable
import Pageworks.Text.Table.Punctuation

/-!
# Character classes

The classes of characters that names, words and quoted texts are made of.

## Main definitions

* `isLetter`, `isMark`, `isDecimal`, `isConnector`: unions of general categories.
* `decimalValue?`: the value of a decimal digit of any script.
* `isWord`: characters of words, for word boundaries.
* `isPrintable`, `isPunctuation`: what a quoted text shows as it is, and punctuation.
-/

namespace Pageworks.Text

/-- ASCII letters. -/
def isAsciiLetter (c : Char) : Bool := ('a' ≤ c && c ≤ 'z') || ('A' ≤ c && c ≤ 'Z')

/-- ASCII digits. -/
def isAsciiDigit (c : Char) : Bool := '0' ≤ c && c ≤ '9'

/-- ASCII hexadecimal digits. -/
def isHexDigit (c : Char) : Bool :=
  isAsciiDigit c || ('a' ≤ c && c ≤ 'f') || ('A' ≤ c && c ≤ 'F')

/-- ASCII letters and digits. -/
def isAsciiAlnum (c : Char) : Bool := isAsciiLetter c || isAsciiDigit c

/-- Letters and letter numbers. -/
def isLetter (c : Char) : Bool :=
  if c.toNat < 128 then isAsciiLetter c else Table.letter.has c

/-- Nonspacing and spacing marks. -/
def isMark (c : Char) : Bool := Table.mark.has c

/-- Decimal digits of any script. -/
def isDecimal (c : Char) : Bool :=
  if c.toNat < 128 then isAsciiDigit c else Table.decimal.has c

/-- The value of a decimal digit: the digits of a script are ten neighbours from zero up. -/
def decimalValue? (c : Char) : Option Nat :=
  (Table.decimal.find? fun r => r.1 ≤ c.toNat && c.toNat ≤ r.2).map fun r => (c.toNat - r.1) % 10

/-- The value of an ASCII digit or letter in a base up to 36. -/
def hexValue (c : Char) : Nat :=
  if isAsciiDigit c then c.toNat - '0'.toNat
  else if 'a' ≤ c && c ≤ 'z' then c.toNat - 'a'.toNat + 10
  else if 'A' ≤ c && c ≤ 'Z' then c.toNat - 'A'.toNat + 10
  else 36

/-- Connector punctuation, such as the low line. -/
def isConnector (c : Char) : Bool := Table.connector.has c

/-- Characters of words: letters, numbers and the low line. -/
def isWord (c : Char) : Bool :=
  c == '_' || isLetter c || isDecimal c || (128 ≤ c.toNat && Table.otherNumeric.has c)

/-- Characters that a quoted text shows as they are. -/
def isPrintable (c : Char) : Bool :=
  if c.toNat < 128 then 32 ≤ c.toNat && c.toNat < 127 else !Table.unprintable.has c

/-- Punctuation and symbols. -/
def isPunctuation (c : Char) : Bool := Table.punctuation.has c

/-- The ASCII lower case of a character. -/
def asciiLower (c : Char) : Char :=
  if 'A' ≤ c && c ≤ 'Z' then Char.ofNat (c.toNat + 32) else c

/-- The ASCII letter that a character stands for when case is ignored: besides the two cases of
the letter itself, the dotted capital and the dotless small i, the long s and the kelvin sign. -/
def letterIgnoringCase (c : Char) : Char :=
  if c.toNat == 0x130 || c.toNat == 0x131 then 'i'
  else if c.toNat == 0x17F then 's'
  else if c.toNat == 0x212A then 'k'
  else asciiLower c

end Pageworks.Text
