/-
Whole numbers in positional notation, the form in which masks and integers are written.

`hexValue?` reads digits of base sixteen in either case, `decimalValue?` digits of base ten; both refuse an empty text.
-/
namespace FlightStore.Text

/-- the value of a digit of base sixteen, in either case -/
def hexDigit? (c : Char) : Option Nat :=
  if '0' ≤ c ∧ c ≤ '9' then some (c.toNat - '0'.toNat)
  else if 'a' ≤ c ∧ c ≤ 'f' then some (c.toNat - 'a'.toNat + 10)
  else if 'A' ≤ c ∧ c ≤ 'F' then some (c.toNat - 'A'.toNat + 10)
  else none

/-- the value of a digit of base ten -/
def decimalDigit? (c : Char) : Option Nat :=
  if '0' ≤ c ∧ c ≤ '9' then some (c.toNat - '0'.toNat) else none

/-- the number that `cs` writes in base `b`, most significant digit first, after the digits that make up `acc` -/
def positional? (digit? : Char → Option Nat) (b : Nat) : Nat → List Char → Option Nat
  | acc, [] => some acc
  | acc, c :: cs =>
    match digit? c with
    | some d => positional? digit? b (acc * b + d) cs
    | none => none

/-- reads one digit or more in base sixteen -/
def hexValue? : List Char → Option Nat
  | [] => none
  | cs => positional? hexDigit? 16 0 cs

/-- reads one digit or more in base ten -/
def decimalValue? : List Char → Option Nat
  | [] => none
  | cs => positional? decimalDigit? 10 0 cs

/-- a number in base sixteen, with lower case letters -/
def hex (n : Nat) : List Char := Nat.toDigits 16 n

/-- a number in base ten -/
def decimal (n : Nat) : List Char := Nat.toDigits 10 n

/-- a text of digits that may follow a single plus sign -/
def afterPlus : List Char → List Char
  | '+' :: cs => cs
  | cs => cs

end FlightStore.Text
