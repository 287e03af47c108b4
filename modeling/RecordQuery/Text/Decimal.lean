/-!
Whole numbers in decimal digits. Core's `Nat.toDigits` and `Nat.ofDigitChars` write and read a
number; here are the forms with a fixed width and with a sign.
-/

namespace RecordQuery.Text

/-- The digits of `n`, with zeros in front of them if there are fewer than `width`. -/
def padded (width n : Nat) : List Char := (Nat.toDigits 10 n).leftpad width '0'

/-- Reads one or more digits as a number. -/
def readNat? (s : List Char) : Option Nat :=
  if s.isEmpty then none
  else if s.all Char.isDigit then some (Nat.ofDigitChars 10 s 0)
  else none

/-- Reads a number of one or more digits, with or without a sign in front. -/
def readInt? : List Char → Option Int
  | '-' :: s => (readNat? s).map fun n => -(n : Int)
  | '+' :: s => (readNat? s).map Int.ofNat
  | s => (readNat? s).map Int.ofNat

end RecordQuery.Text
