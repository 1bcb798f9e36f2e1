import Mathlib.Data.List.Basic
import ServiceRegistry.Text.Decimal

/-!
# Numbers as they are read and as they are written

A number has one written form, which starts with a zero only if the number is zero
(`Decimal.Canonical`), and more texts that are read as it: with zeros in front, and where a word is
read also with a plus sign (`Decimal.Spells`). `Canonical.print_eq` says that a text of the first
kind is what is printed for its number, and `readWord?_eq_some_iff` that the texts of the second
kind are all that can be read.
-/

namespace ServiceRegistry

namespace Decimal

variable {digits text : List Char} {c : Char} {n : Nat} {word : UInt64}

/-- A text that is read as a number: digits, of which there is at least one, behind at most one plus
sign. -/
def Spells (text : List Char) (n : Nat) : Prop :=
  ∃ digits, (text = digits ∨ text = '+' :: digits) ∧ digits ≠ [] ∧
    (∀ c ∈ digits, c.isDigit = true) ∧ Nat.ofDigitChars 10 digits 0 = n

/-- A text in which a number is written: digits, of which the first is zero only if it is the only
one. -/
structure Canonical (text : List Char) : Prop where
  ne_nil : text ≠ []
  isDigit : ∀ c ∈ text, c.isDigit = true
  no_leading_zero : text.head? = some '0' → text = ['0']

/-- A text without the plus sign in front of it. -/
def unsigned (text : List Char) : List Char :=
  match text with
  | '+' :: digits => digits
  | _ => text

/-- The word of a number, if the number has at most 64 bits. -/
def word? (n : Nat) : Option UInt64 :=
  if n < UInt64.size then some (UInt64.ofNat n) else none

/-- A number is read from one digit or more, as what these stand for. -/
theorem read?_eq_some_iff : read? digits = some n ↔
    digits ≠ [] ∧ (∀ c ∈ digits, c.isDigit = true) ∧ Nat.ofDigitChars 10 digits 0 = n := by
  unfold read?
  rw [value_eq, ← List.all_eq_true]
  split
  · rename_i h
    simp [h]
  · rename_i h
    simp only [reduceCtorEq, false_iff]
    exact fun hdigits => h ⟨hdigits.1, hdigits.2.1⟩

/-- A number is taken for a word of 64 bits just if it is the number of one. -/
theorem word?_eq_some_iff : word? n = some word ↔ n = word.toNat := by
  unfold word?
  constructor
  · intro h
    split at h
    · rename_i hsize
      rw [← Option.some.inj h, UInt64.toNat_ofNat_of_lt' hsize]
    · cases h
  · rintro rfl
    rw [if_pos word.toNat_lt_size, UInt64.ofNat_toNat]

/-- A word is read as the number after the sign, if that fits. -/
theorem readWord?_eq (text : List Char) : readWord? text = (read? (unsigned text)).bind word? := by
  unfold readWord?
  dsimp only
  split
  · rename_i hread
    exact (congrArg (Option.bind · word?) hread).symm
  · rename_i hread
    exact (congrArg (Option.bind · word?) hread).symm

/-- Digits have no sign to be dropped. -/
theorem unsigned_of_isDigit (h : ∀ c ∈ digits, c.isDigit = true) : unsigned digits = digits := by
  unfold unsigned
  split
  · exact absurd (h '+' List.mem_cons_self) (by decide)
  · rfl

/-- A word is read from what spells it, and from nothing else. -/
theorem readWord?_eq_some_iff : readWord? text = some word ↔ Spells text word.toNat := by
  rw [readWord?_eq, Option.bind_eq_some_iff]
  simp only [word?_eq_some_iff, exists_eq_right, read?_eq_some_iff]
  constructor
  · intro h
    refine ⟨unsigned text, ?_, h⟩
    unfold unsigned
    split <;> simp
  · rintro ⟨digits, rfl | rfl, hdigits⟩
    · rwa [unsigned_of_isDigit hdigits.2.1]
    · exact hdigits

/-- The spelling of a number has no slash, so that it ends where the path begins. -/
theorem Spells.slash_not_mem (h : Spells text n) : '/' ∉ text := by
  obtain ⟨digits, htext, -, hdigits, -⟩ := h
  have hslash : '/' ∉ digits := fun hmem => absurd (hdigits _ hmem) (by decide)
  rcases htext with rfl | rfl
  · exact hslash
  · simpa using hslash

/-- A digit is the digit of its value. -/
theorem digitChar_toNat_sub (h : c.isDigit = true) :
    (c.toNat - '0'.toNat).digitChar = c ∧ c.toNat - '0'.toNat < 10 := by
  have hrange := Char.isDigit_iff_toNat.1 h
  change 48 ≤ c.toNat ∧ c.toNat ≤ 57 at hrange
  have hlt : c.toNat - '0'.toNat < 10 := by change c.toNat - 48 < 10; omega
  refine ⟨Char.toNat_inj.1 ?_, hlt⟩
  rw [Nat.toNat_digitChar_of_lt_ten hlt]
  change 48 + (c.toNat - 48) = c.toNat
  omega

/-- Digits behind those of a number other than zero are written as they are read. -/
theorem print_append (hn : 0 < n) (hdigits : ∀ c ∈ digits, c.isDigit = true) :
    print n ++ digits = print (Nat.ofDigitChars 10 digits n) := by
  -- the number read so far is never zero, so its digits stay in front of the next one
  induction digits generalizing n with
  | nil => simp
  | cons c rest ih =>
    obtain ⟨hchar, hlt⟩ := digitChar_toNat_sub (hdigits c List.mem_cons_self)
    have hnext : print n ++ [c] = print (10 * n + (c.toNat - '0'.toNat)) := by
      unfold print
      rw [← Nat.toDigits_append_toDigits (by decide) hn hlt, Nat.toDigits_of_lt_base hlt, hchar]
    rw [Nat.ofDigitChars_cons, ← ih (by omega) fun d hd => hdigits d (List.mem_cons_of_mem c hd),
      ← hnext, List.append_assoc, List.singleton_append]

/-- A number is written in the one way that has no leading zero. -/
theorem Canonical.print_eq (h : Canonical digits) :
    print (Nat.ofDigitChars 10 digits 0) = digits := by
  cases digits with
  | nil => exact absurd rfl h.ne_nil
  | cons c rest =>
    by_cases hzero : c = '0'
    · rw [h.no_leading_zero (by simp [hzero])]
      rfl
    · obtain ⟨hchar, hlt⟩ := digitChar_toNat_sub (h.isDigit c List.mem_cons_self)
      have hpos : 0 < c.toNat - '0'.toNat := by
        refine Nat.pos_of_ne_zero fun hvalue => hzero ?_
        rw [← hchar, hvalue]
        rfl
      rw [Nat.ofDigitChars_cons, Nat.mul_zero, Nat.zero_add,
        ← print_append hpos fun d hd => h.isDigit d (List.mem_cons_of_mem c hd)]
      unfold print
      rw [Nat.toDigits_of_lt_base hlt, hchar, List.singleton_append]

/-- Numbers are written without needless zeros. -/
theorem canonical_print (n : Nat) : Canonical (print n) := by
  refine ⟨print_ne_nil n, fun c hc => isDigit_of_mem_print hc, ?_⟩
  unfold print
  induction n using Nat.strongRecOn with
  | ind n ih =>
    rw [Nat.toDigits_eq_if (by decide)]
    split
    · simp
    · rename_i hn
      intro hhead
      have hquotient := ih (n / 10) (by omega)
      rw [List.head?_append_of_ne_nil _ Nat.toDigits_ne_nil] at hhead
      have hzero : n / 10 = 0 := by
        rw [← Nat.ofDigitChars_ten_toDigits (n := n / 10), hquotient hhead]
        rfl
      omega

end Decimal

end ServiceRegistry
