/-!
How numbers are written: integers in decimal, octal or hexadecimal digits, and floats in decimal
digits with a point or an exponent. Only decimal digits can have a sign before them, and only minus.
-/

namespace AccountGrants.Yaml

/-- The value of a hexadecimal digit. -/
def hexDigit? (c : Char) : Option Nat :=
  if c.isDigit then some (c.toNat - '0'.toNat)
  else if 'a' ≤ c ∧ c ≤ 'f' then some (c.toNat - 'a'.toNat + 10)
  else if 'A' ≤ c ∧ c ≤ 'F' then some (c.toNat - 'A'.toNat + 10)
  else none

/-- Whether a text consists of digits of a base of at most sixteen. -/
def areDigits (base : Nat) (s : List Char) : Bool :=
  !s.isEmpty && s.all fun c => (hexDigit? c).any (· < base)

/-- A text without a sign at its start, which has to be one of `signs`. -/
def withoutSign (signs : List Char) : List Char → List Char
  | [] => []
  | c :: s => if signs.contains c then s else c :: s

/-- Whether a text can follow the first digits of a decimal number: nothing, a point and more
digits, or the power of ten that the number is multiplied with. -/
def endsDecimal : List Char → Bool
  | [] => true
  | c :: s => (c == '.' && s.all Char.isDigit) ||
    ((c == 'e' || c == 'E') && areDigits 10 (withoutSign ['+', '-'] s))

/-- Whether a text is a decimal number, which has digits before its point and not both a point and
an exponent. -/
def isDecimal (s : List Char) : Bool :=
  let number := withoutSign ['-'] s
  areDigits 10 (number.takeWhile Char.isDigit) && endsDecimal (number.dropWhile Char.isDigit)

/-- Whether a text is a number. -/
def isNumber : List Char → Bool
  | '0' :: 'o' :: digits => areDigits 8 digits
  | '0' :: 'x' :: digits => areDigits 16 digits
  | s => isDecimal s

/-- What is kept of a number. A float loses a `.0` behind its digits. -/
def numberText? (s : List Char) : Option (List Char) :=
  if !isNumber s then none
  else if (withoutSign ['-'] s).dropWhile Char.isDigit = ".0".toList then
    some (s.take (s.length - 2))
  else some s

end AccountGrants.Yaml
