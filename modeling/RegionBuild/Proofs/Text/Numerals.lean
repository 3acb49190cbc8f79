import RegionBuild.Text.Numeral

/-!
# Numerals

A number is printed without leading zeros, in plain digits. So its numeral determines it,
and reading the numeral gives the number back as long as it has no more digits than can
be read.
-/

namespace RegionBuild

namespace Text

/-- The digits of a number determine it. -/
theorem ofNat_injective (first second : Nat) (same : ofNat first = ofNat second) :
    first = second := by
  have read := congrArg (fun digits => Nat.ofDigitChars 10 digits 0) same
  simpa [ofNat, Nat.ofDigitChars_toDigits] using read

/-- A numeral without a sign consists of digits. -/
theorem isDigit_of_mem_ofNat {number : Nat} {char : Char} (occurs : char ∈ ofNat number) :
    char.isDigit = true :=
  Nat.isDigit_of_mem_toDigits (by decide) (by decide) occurs

/-- The numeral of an integer determines it. A sign is no digit, so a negative number
is not taken for another. -/
theorem ofInt_injective (first second : Int) (same : ofInt first = ofInt second) :
    first = second := by
  have signed : ∀ number other : Nat, ofNat number ≠ '-' :: ofNat other := by
    intro number other equal
    have minus : '-' ∈ ofNat number := equal ▸ List.mem_cons_self
    exact absurd (isDigit_of_mem_ofNat minus) (by decide)
  cases first with
  | ofNat number =>
    cases second with
    | ofNat other => rw [ofNat_injective number other same]
    | negSucc other => exact absurd same (signed _ _)
  | negSucc number =>
    cases second with
    | ofNat other => exact absurd same.symm (signed _ _)
    | negSucc other =>
      have digits := ofNat_injective _ _ (List.cons.inj same).2
      rw [Nat.succ.inj digits]

/-- A numeral consists of digits and a sign. -/
theorem isDigit_or_sign_of_mem_ofInt {number : Int} {char : Char} (occurs : char ∈ ofInt number) :
    char.isDigit = true ∨ char = '-' := by
  cases number with
  | ofNat natural => exact Or.inl (isDigit_of_mem_ofNat occurs)
  | negSucc natural =>
    rcases List.mem_cons.mp occurs with sign | digit
    · exact Or.inr sign
    · exact Or.inl (isDigit_of_mem_ofNat digit)

/-- No numeral holds a colon. -/
theorem colon_notMem_ofInt (number : Int) : ':' ∉ ofInt number := by
  intro occurs
  exact absurd (isDigit_or_sign_of_mem_ofInt occurs) (by decide)

/-- There is no empty numeral. -/
theorem ofInt_ne_nil (number : Int) : ofInt number ≠ [] := by
  cases number with
  | ofNat natural => exact Nat.toDigits_ne_nil
  | negSucc natural => exact List.cons_ne_nil _ _

/-- A plain digit has a value. -/
theorem digitValue?_of_isDigit {char : Char} (digit : char.isDigit = true) :
    digitValue? char = some (char.toNat - '0'.toNat) := by
  have small : char.toNat < 0x80 := by
    simp only [Char.isDigit, Bool.and_eq_true, decide_eq_true_eq] at digit
    exact Nat.lt_of_le_of_lt (show char.toNat ≤ 57 from digit.2) (by decide)
  simp only [digitValue?, small, ↓reduceIte, digit]
  rfl

/-- A numeral without a sign consists of decimal digits. -/
theorem isDecimalDigit_of_mem_ofNat {number : Nat} {char : Char} (occurs : char ∈ ofNat number) :
    isDecimalDigit char = true := by
  simp [isDecimalDigit, digitValue?_of_isDigit (isDigit_of_mem_ofNat occurs)]

/-- There is no empty numeral without a sign. -/
theorem ofNat_ne_nil (number : Nat) : ofNat number ≠ [] := Nat.toDigits_ne_nil

end Text

namespace Numeral

/-- The values of plain digits are those of their characters. -/
theorem filterMap_digitValue? {digits : Text} (plain : ∀ char ∈ digits, char.isDigit = true) :
    digits.filterMap Text.digitValue? = digits.map fun char => char.toNat - '0'.toNat := by
  induction digits with
  | nil => rfl
  | cons first rest inductionHypothesis =>
    rw [List.filterMap_cons_some (Text.digitValue?_of_isDigit (plain first List.mem_cons_self)),
      inductionHypothesis fun char occurs => plain char (List.mem_cons_of_mem first occurs),
      List.map_cons]

/-- The numeral of a number is read as the number. -/
theorem ofDigits_ofNat {number : Nat} (short : (Text.ofNat number).length ≤ digitLimit) :
    ofDigits (Text.ofNat number) = .ok number := by
  have read : value ((Text.ofNat number).filterMap Text.digitValue?) = number := by
    rw [filterMap_digitValue? fun char occurs => Text.isDigit_of_mem_ofNat occurs, value,
      List.foldl_map]
    exact Nat.ofDigitChars_toDigits (by decide) (by decide)
  rw [ofDigits, if_neg (Nat.not_lt.mpr short), read]

end Numeral

end RegionBuild
