/-!
Whole numbers in decimal. A numeral is a run of at least one ASCII digit, after one sign where signs
are allowed; leading zeros are allowed, and its value has to fit the machine word it is meant for.
-/

set_option autoImplicit false
set_option relaxedAutoImplicit false

namespace GameOfLife.Text

def digitsValue? (digits : List Char) : Option Nat :=
  if digits ≠ [] ∧ digits.all Char.isDigit = true then some (Nat.ofDigitChars 10 digits 0) else none

def signedValue? : List Char → Option Int
  | '-' :: digits => (digitsValue? digits).map fun n => -(n : Int)
  | '+' :: digits => (digitsValue? digits).map Int.ofNat
  | digits => (digitsValue? digits).map Int.ofNat

/-- The integer that a text denotes, if it is a signed numeral and fits a signed 64-bit word. -/
def integer? (text : String) : Option Int :=
  (signedValue? text.toList).filter fun v => Int64.minValue.toInt ≤ v && v ≤ Int64.maxValue.toInt

/-- The number that a text denotes, if it holds digits only and fits an unsigned 64-bit word. -/
def size? (text : String) : Option Nat :=
  (digitsValue? text.toList).filter fun n => n < UInt64.size

theorem isDigit_of_mem_toDigits {n : Nat} {c : Char} (h : c ∈ Nat.toDigits 10 n) :
    c.isDigit = true :=
  Nat.isDigit_of_mem_toDigits (by decide) (by decide) h

theorem digitsValue?_toDigits (n : Nat) : digitsValue? (Nat.toDigits 10 n) = some n := by
  have digit : ∀ c ∈ Nat.toDigits 10 n, c.isDigit = true := fun c => isDigit_of_mem_toDigits
  have nonempty : Nat.toDigits 10 n ≠ [] := Nat.toDigits_ne_nil
  simpa [digitsValue?, nonempty] using digit

theorem size?_repr {n : Nat} (h : n < UInt64.size) : size? n.repr = some n := by
  simpa [size?, Nat.toList_repr, digitsValue?_toDigits] using h

end GameOfLife.Text
