/-!
# The range of numbers

Where the size of a number matters, it is judged as double precision holds it: the first digits
that fit into 64 bits are gathered, and their number is scaled by a power of ten. The gathered
number, the power of ten and their product are each rounded, so that close to the limit the way in
which a number is written decides. No number that is scaled down leaves the range.

`nearestDouble_eq_self` says that rounding keeps every number of at most 53 bits.
-/

namespace ServiceRegistry.Json

/-- The smallest number that is rounded to infinity in double precision. -/
def doubleLimit : Nat := Nat.pow 2 1024 - Nat.pow 2 970

/-- The largest exponent for which the power of ten is in the range of double precision. -/
def greatestExponent : Int := 308

/-- The nearest number of at most 53 significant bits; a tie goes to the even one. -/
def nearestDouble (n : Nat) : Nat :=
  let unit := Nat.pow 2 (n.log2 + 1 - 53)
  let quotient := n / unit
  let remainder := n % unit
  if unit < 2 * remainder ∨ (2 * remainder = unit ∧ quotient % 2 = 1) then (quotient + 1) * unit
  else quotient * unit

/-- Numbers of at most 53 bits are exact. -/
theorem nearestDouble_eq_self {n : Nat} (small : n < Nat.pow 2 53) : nearestDouble n = n := by
  have bits : n.log2 + 1 - 53 = 0 := by
    rcases Nat.eq_zero_or_pos n with rfl | positive
    · rfl
    · have := (Nat.log2_lt (Nat.ne_of_gt positive)).2 small
      omega
  simp only [nearestDouble, bits, show Nat.pow 2 0 = 1 from rfl, Nat.mod_one, Nat.div_one]
  rw [if_neg (by omega), Nat.mul_one]

/-- Appends digits to a number while it stays below 64 bits, and answers the digits left over. -/
def gather (gathered : Nat) : List Char → Nat × List Char
  | [] => (gathered, [])
  | digit :: rest =>
    let next := gathered * 10 + (digit.toNat - '0'.toNat)
    if next < UInt64.size then gather next rest else (gathered, digit :: rest)

/-- The digits of a number that fit into 64 bits, and the power of ten that scales them. A digit
before the point that no longer fits still counts as a place, one after it is dropped. -/
def scaled (whole fraction : List Char) (exponent : Int) : Nat × Int :=
  let front := gather 0 whole
  let all := gather front.1 fraction
  (all.1, exponent + front.2.length - (fraction.length - all.2.length))

/-- Whether a scaled number stays finite in double precision. -/
def isFinite (significand : Nat) (exponent : Int) : Bool :=
  significand == 0 || exponent < 0 || exponent ≤ greatestExponent &&
    nearestDouble significand * nearestDouble (Nat.pow 10 exponent.toNat) < doubleLimit

/-- Whether a number that is written by these parts is in the range of double precision. -/
def inRange (whole fraction : List Char) (exponent : Int) : Bool :=
  let number := scaled whole fraction exponent
  isFinite number.1 number.2

end ServiceRegistry.Json
