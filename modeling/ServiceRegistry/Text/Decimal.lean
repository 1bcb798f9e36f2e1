/-!
# Unsigned numbers in decimal

`Decimal.print` writes a number without sign, blanks or leading zeros. `Decimal.read?` is more
generous: it takes any non-empty run of digits, and `Decimal.readWord?` also takes one leading plus
sign and refuses what needs more than 64 bits. `read?_print` says that reading undoes printing.

Digits are read in blocks, so that long runs of them do not cost a large product each; `value_eq`
says that the blocks make no difference.
-/

namespace ServiceRegistry.Decimal

/-- The decimal digits of a number, without leading zeros. -/
def print (n : Nat) : List Char := Nat.toDigits 10 n

/-- The decimal text of a number. -/
def text (n : Nat) : String := String.ofList (print n)

/-- Reads on from a number `high`, followed by a block of digits whose number is `low` and for which
there are `scale` possibilities. A block has at most some two hundred digits. -/
def valueFrom (high low scale : Nat) : List Char → Nat
  | [] => high * scale + low
  | digit :: rest =>
    let next := digit.toNat - '0'.toNat
    if scale.log2 < 640 then valueFrom high (low * 10 + next) (scale * 10) rest
    else valueFrom (high * scale + low) next 10 rest

/-- The number that digits stand for. -/
def value (digits : List Char) : Nat := valueFrom 0 0 1 digits

/-- Reading on in blocks gives what reading digit by digit gives. -/
theorem valueFrom_eq (digits : List Char) (high low scale : Nat) :
    valueFrom high low scale digits = Nat.ofDigitChars 10 digits (high * scale + low) := by
  induction digits generalizing high low scale with
  | nil => rfl
  | cons digit rest ih =>
    rw [valueFrom, Nat.ofDigitChars_cons]
    split
    · rw [ih]
      congr 1
      rw [← Nat.mul_assoc]
      omega
    · rw [ih, Nat.mul_comm]

/-- Digits are read one after another, each worth ten of the next. -/
theorem value_eq (digits : List Char) : value digits = Nat.ofDigitChars 10 digits 0 := by
  rw [value, valueFrom_eq]

/-- The number that a non-empty run of decimal digits stands for. -/
def read? (digits : List Char) : Option Nat :=
  if digits ≠ [] ∧ digits.all Char.isDigit then some (value digits) else none

/-- Reads digits after at most one plus sign, if their number has at most 64 bits. -/
def readWord? (text : List Char) : Option UInt64 :=
  let digits := match text with
    | '+' :: rest => rest
    | _ => text
  match read? digits with
  | some n => if n < UInt64.size then some (UInt64.ofNat n) else none
  | none => none

/-- A printed number has at least one digit. -/
theorem print_ne_nil (n : Nat) : print n ≠ [] := Nat.toDigits_ne_nil

/-- A printed number consists of digits. -/
theorem all_isDigit_print (n : Nat) : (print n).all Char.isDigit = true :=
  List.all_eq_true.2 fun _ hc => Nat.isDigit_of_mem_toDigits (by decide) (by decide) hc

/-- Reading undoes printing. -/
@[simp] theorem read?_print (n : Nat) : read? (print n) = some n := by
  rw [read?, if_pos ⟨print_ne_nil n, all_isDigit_print n⟩, value_eq]
  exact congrArg some Nat.ofDigitChars_ten_toDigits

/-- Each character of a printed number is a digit. -/
theorem isDigit_of_mem_print {n : Nat} {c : Char} (h : c ∈ print n) : c.isDigit = true :=
  List.all_eq_true.1 (all_isDigit_print n) c h

/-- Reading a word undoes printing it. -/
@[simp] theorem readWord?_print (word : UInt64) : readWord? (print word.toNat) = some word := by
  have hdigits : (match print word.toNat with
      | '+' :: rest => rest
      | _ => print word.toNat) = print word.toNat := by
    split
    · rename_i rest hplus
      have := isDigit_of_mem_print (n := word.toNat) (hplus ▸ List.mem_cons_self)
      exact absurd this (by decide)
    · rfl
  unfold readWord?
  simp only [hdigits, read?_print]
  rw [if_pos word.toNat_lt_size, UInt64.ofNat_toNat]

end ServiceRegistry.Decimal
