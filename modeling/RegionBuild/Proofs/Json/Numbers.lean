import Mathlib.Data.List.DropRight
import Mathlib.Data.List.TakeDrop
import RegionBuild.Json.Parser
import RegionBuild.Json.Printer
import RegionBuild.Proofs.Text.Numerals

/-!
# Numbers in JSON

An integer is read back from its numeral as long as it has no more digits than can be read.
A double is written with a fraction or an exponent or by name, so it is read back as a
double again.
-/

namespace RegionBuild.Json

/-- What can stand after a value: nothing, a comma or a closing bracket. -/
def Ends (rest : Text) : Prop :=
  ∀ char, rest.head? = some char → char = ',' ∨ char = ']' ∨ char = '}'

/-- What can stand after digits: anything but a digit. -/
def Stops (rest : Text) : Prop := ∀ char, rest.head? = some char → char.isDigit = false

/-- Digits only. -/
def Digits (text : Text) : Prop := ∀ char ∈ text, char.isDigit = true

/-- The whole part of a number: one zero, or digits that start with no zero. -/
def Whole (text : Text) : Prop := text = ['0'] ∨ Digits text ∧ text ≠ [] ∧ text.head? ≠ some '0'

/-- The end of a value is no digit. -/
theorem Ends.stops {rest : Text} (ends : Ends rest) : Stops rest := by
  intro char first
  rcases ends char first with rfl | rfl | rfl <;> rfl

/-- Digits are read up to the first other character. -/
theorem spanDigits_append {digits rest : Text} (plain : Digits digits) (stops : Stops rest) :
    spanDigits (digits ++ rest) = (digits, rest) := by
  have taken : rest.takeWhile Char.isDigit = [] ∧ rest.dropWhile Char.isDigit = rest := by
    cases rest with
    | nil => exact ⟨rfl, rfl⟩
    | cons char more => simp [stops char rfl]
  rw [spanDigits, List.span_eq_takeWhile_dropWhile, List.takeWhile_append_of_pos plain,
    List.dropWhile_append_of_pos plain, taken.1, taken.2, List.append_nil]

/-- A whole part is read. -/
theorem whole?_append {whole rest : Text} (isWhole : Whole whole) (stops : Stops rest) :
    whole? (whole ++ rest) = some (whole, rest) := by
  rcases isWhole with rfl | ⟨plain, nonempty, noZero⟩
  · rfl
  · obtain ⟨first, more, rfl⟩ := List.exists_cons_of_ne_nil nonempty
    have span := spanDigits_append plain stops
    rw [List.cons_append] at span ⊢
    rw [whole?, span]
    · rintro _ ⟨⟩
      exact noZero rfl

/-- A fraction as it is written. -/
def fractionText : Option Text → Text
  | none => []
  | some places => '.' :: places

/-- An exponent as it is written: a letter, a sign and digits. -/
def exponentText : Option (Bool × Text) → Text
  | none => []
  | some (negative, digits) => 'e' :: (if negative then '-' else '+') :: digits

/-- A fraction is read. -/
theorem fraction?_append {fraction : Option Text}
    (plain : ∀ places ∈ fraction, Digits places ∧ places ≠ []) {rest : Text} (stops : Stops rest)
    (noPoint : rest.head? ≠ some '.') :
    fraction? (fractionText fraction ++ rest) = fraction.map (·, rest) := by
  cases fraction with
  | none =>
    cases rest with
    | nil => rfl
    | cons first more =>
      rw [fractionText, List.nil_append, fraction?]
      · rfl
      · rintro _ ⟨⟩
        exact noPoint rfl
  | some places =>
    obtain ⟨digits, nonempty⟩ := plain places rfl
    obtain ⟨first, more, rfl⟩ := List.exists_cons_of_ne_nil nonempty
    rw [fractionText, List.cons_append, fraction?, spanDigits_append digits stops]
    · rfl

/-- An exponent is read. -/
theorem exponent?_append {exponent : Option (Bool × Text)}
    (plain : ∀ power ∈ exponent, Digits power.2 ∧ power.2 ≠ []) {rest : Text} (ends : Ends rest) :
    exponent? (exponentText exponent ++ rest) =
      exponent.map fun power => (power.1, power.2, rest) := by
  cases exponent with
  | none =>
    cases rest with
    | nil => rfl
    | cons first more => rcases ends first rfl with rfl | rfl | rfl <;> rfl
  | some power =>
    obtain ⟨negative, digits⟩ := power
    obtain ⟨isDigits, nonempty⟩ := plain (negative, digits) rfl
    obtain ⟨first, more, rfl⟩ := List.exists_cons_of_ne_nil nonempty
    have span : spanDigits (first :: (more ++ rest)) = (first :: more, rest) :=
      spanDigits_append isDigits ends.stops
    cases negative <;> simp [exponentText, exponent?, span]

/-- What follows the whole part or the fraction is neither a digit nor a second point. -/
theorem stops_exponentText (exponent : Option (Bool × Text)) {rest : Text} (ends : Ends rest) :
    Stops (exponentText exponent ++ rest) ∧ (exponentText exponent ++ rest).head? ≠ some '.' := by
  cases exponent with
  | none =>
    refine ⟨ends.stops, fun point => ?_⟩
    exact absurd (ends '.' point) (by decide)
  | some power =>
    refine ⟨?_, by simp [exponentText]⟩
    rintro _ ⟨⟩
    rfl

/-- What follows the whole part is no digit. -/
theorem stops_fractionText (fraction : Option Text) {rest : Text} (stops : Stops rest) :
    Stops (fractionText fraction ++ rest) := by
  cases fraction with
  | none => exact stops
  | some places =>
    rintro _ ⟨⟩
    rfl

/-- The double that the parts of a number denote. -/
def doubleOf (negative : Bool) (whole : Text) (fraction : Option Text)
    (exponent : Option (Bool × Text)) : Decimal.Binary64 :=
  .ofDecimal negative (digitsValue (whole ++ fraction.getD []))
    ((exponent.map fun power => exponentValue power.1 power.2).getD 0 - (fraction.getD []).length)

/-- The parts of a number are told apart, and one with a fraction or an exponent is a double. -/
theorem number?_double (negative : Bool) {whole : Text} (isWhole : Whole whole)
    {fraction : Option Text} (places : ∀ places ∈ fraction, Digits places ∧ places ≠ [])
    {exponent : Option (Bool × Text)} (powers : ∀ power ∈ exponent, Digits power.2 ∧ power.2 ≠ [])
    (parted : fraction ≠ none ∨ exponent ≠ none) {rest : Text} (ends : Ends rest) :
    number? negative (whole ++ (fractionText fraction ++ (exponentText exponent ++ rest))) =
      some (.ok (.float (doubleOf negative whole fraction exponent)), rest) := by
  obtain ⟨stops, noPoint⟩ := stops_exponentText exponent ends
  rw [number?, whole?_append isWhole (stops_fractionText fraction stops)]
  simp only [Option.map_some, fraction?_append places stops noPoint]
  cases fraction with
  | none =>
    cases exponent with
    | none => simp at parted
    | some power =>
      have read := exponent?_append powers ends
      simp only [Option.map_none, fractionText, List.nil_append, read, Option.map_some]
      rfl
  | some digits =>
    have read := exponent?_append powers ends
    simp only [Option.map_some, read]
    cases exponent with
    | none => rfl
    | some power => rfl

/-- A numeral has no leading zeros. -/
theorem head?_ofNat {number : Nat} (positive : 0 < number) :
    (Text.ofNat number).head? ≠ some '0' := by
  induction number using Nat.strongRecOn with
  | ind number inductionHypothesis =>
    rw [Text.ofNat]
    by_cases small : number < 10
    · rw [Nat.toDigits_of_lt_base small]
      have digits : ∀ digit < 10, 0 < digit → [digit.digitChar].head? ≠ some '0' := by decide
      exact digits number small positive
    · have above := inductionHypothesis (number / 10) (by omega) (by omega)
      rw [Nat.toDigits_of_base_le (by decide) (by omega),
        List.head?_append_of_ne_nil _ Nat.toDigits_ne_nil]
      exact above

/-- The numeral of a natural number is a whole part. -/
theorem whole_ofNat (number : Nat) : Whole (Text.ofNat number) := by
  rcases Nat.eq_zero_or_pos number with rfl | positive
  · exact Or.inl rfl
  · exact Or.inr ⟨fun char => Text.isDigit_of_mem_ofNat, Text.ofNat_ne_nil number,
      head?_ofNat positive⟩

/-- A number without fraction and exponent is an integer. -/
theorem number?_int (negative : Bool) {number : Nat}
    (short : (Text.ofNat number).length ≤ Numeral.digitLimit) {rest : Text} (ends : Ends rest) :
    number? negative (Text.ofNat number ++ rest) =
      some (.ok (.int (if negative then -(number : Int) else number)), rest) := by
  obtain ⟨stops, noPoint⟩ := stops_exponentText none ends
  have whole := whole?_append (whole_ofNat number) stops
  have fraction : fraction? (fractionText none ++ (exponentText none ++ rest)) = none :=
    fraction?_append (by simp) stops noPoint
  have exponent : exponent? (exponentText none ++ rest) = none :=
    exponent?_append (by simp) ends
  simp only [fractionText, exponentText, List.nil_append] at whole fraction exponent
  rw [number?, whole]
  simp only [Option.map_some, fraction, exponent, Numeral.ofDigits_ofNat short]

/-- A digit is no letter. -/
theorem ne_of_isDigit {letter first : Char} (digit : first.isDigit = true)
    (noDigit : letter.isDigit = false) : letter ≠ first := by
  rintro rfl
  rw [digit] at noDigit
  cases noDigit

/-- No word starts with a digit, with or without a sign. -/
theorem word?_of_isDigit {first : Char} (digit : first.isDigit = true) (rest : Text) :
    word? (first :: rest) = none ∧ word? ('-' :: first :: rest) = none := by
  have other := fun letter => @ne_of_isDigit letter first digit
  constructor
  · simp [word?, words, other 'n' rfl, other 't' rfl, other 'f' rfl, other 'N' rfl, other 'I' rfl,
      other '-' rfl]
  · simp [word?, words, other 'I' rfl]

/-- A number with or without a sign is a scalar. -/
theorem readScalar_number {first : Char} (digit : first.isDigit = true) (negative : Bool)
    {more : Text} {value : Json} {rest : Text}
    (read : number? negative (first :: more) = some (.ok value, rest)) :
    readScalar ((if negative then ['-'] else []) ++ first :: more) = .ok (value, rest) := by
  cases negative with
  | true =>
    have text : (if true = true then ['-'] else []) ++ first :: more = '-' :: first :: more := rfl
    rw [text, readScalar, (word?_of_isDigit digit more).2]
    simp only [read]
    rfl
  | false =>
    have text : (if false = true then ['-'] else []) ++ first :: more = first :: more := rfl
    rw [text, readScalar, (word?_of_isDigit digit more).1]
    · simp only [read]
      rfl
    · rintro _ ⟨⟩
      cases digit
/-- An integer is read back from its numeral. -/
theorem readScalar_ofInt {number : Int}
    (short : (Text.ofNat number.natAbs).length ≤ Numeral.digitLimit) {rest : Text}
    (ends : Ends rest) : readScalar (Text.ofInt number ++ rest) = .ok (.int number, rest) := by
  obtain ⟨first, more, digits⟩ := List.exists_cons_of_ne_nil (Text.ofNat_ne_nil number.natAbs)
  have digit : first.isDigit = true :=
    Text.isDigit_of_mem_ofNat (digits ▸ List.mem_cons_self)
  cases number with
  | ofNat natural =>
    have read := number?_int false short ends
    have text : Text.ofInt (.ofNat natural) = first :: more := digits
    rw [digits] at read
    rw [text]
    exact readScalar_number digit false read
  | negSucc natural =>
    have read := number?_int true short ends
    have text : Text.ofInt (.negSucc natural) = '-' :: first :: more := congrArg _ digits
    rw [digits] at read
    rw [text]
    exact readScalar_number digit true read

/-- The text of a number with a fraction or an exponent. -/
inductive RealText : Text → Prop where
  | parts {whole : Text} {fraction : Option Text} {exponent : Option (Bool × Text)} :
      Whole whole → (∀ places ∈ fraction, Digits places ∧ places ≠ []) →
      (∀ power ∈ exponent, Digits power.2 ∧ power.2 ≠ []) → fraction ≠ none ∨ exponent ≠ none →
      RealText (whole ++ (fractionText fraction ++ exponentText exponent))

/-- Such a number is read as a double, the same one whatever follows. -/
theorem RealText.read {text : Text} (real : RealText text) (negative : Bool) :
    ∃ value, ∀ rest, Ends rest →
      readScalar ((if negative then ['-'] else []) ++ (text ++ rest)) =
        .ok (.float value, rest) := by
  obtain ⟨isWhole, places, powers, parted⟩ := real
  rename_i whole fraction exponent
  have starts : ∃ first more, whole = first :: more ∧ first.isDigit = true := by
    rcases isWhole with rfl | ⟨plain, nonempty, _⟩
    · exact ⟨'0', [], rfl, rfl⟩
    · obtain ⟨first, more, rfl⟩ := List.exists_cons_of_ne_nil nonempty
      exact ⟨first, more, rfl, plain first List.mem_cons_self⟩
  obtain ⟨first, more, rfl, digit⟩ := starts
  refine ⟨doubleOf negative (first :: more) fraction exponent, fun rest ends => ?_⟩
  have read := number?_double negative isWhole places powers parted ends
  rw [List.append_assoc, List.append_assoc]
  exact readScalar_number digit negative read

/-- Digits that can start a number and end one: there are some, and the first is not zero. -/
structure Significant (digits : Text) : Prop where
  plain : Digits digits
  nonempty : digits ≠ []
  noZero : digits.head? ≠ some '0'

/-- Zeros are digits. -/
theorem digits_zeros (count : Nat) : Digits (List.replicate count '0') := by
  intro char listed
  rw [List.eq_of_mem_replicate listed]
  rfl

/-- Digits after digits. -/
theorem Digits.append {digits more : Text} (plain : Digits digits) (plain' : Digits more) :
    Digits (digits ++ more) := by
  intro char listed
  rcases List.mem_append.mp listed with first | second
  · exact plain char first
  · exact plain' char second

namespace Significant

variable {digits : Text}

/-- Positional notation has a fraction. -/
theorem realText_positional (significant : Significant digits) (power : Int) :
    RealText (Decimal.positional digits power) := by
  have fractional : ∀ {whole places : Text}, Whole whole → Digits places → places ≠ [] →
      RealText (whole ++ '.' :: places) := by
    intro whole places isWhole plain nonempty
    have real : RealText (whole ++ (fractionText (some places) ++ exponentText none)) :=
      .parts isWhole (by rintro _ ⟨⟩; exact ⟨plain, nonempty⟩) (by simp) (Or.inl (by simp))
    simpa [fractionText, exponentText] using real
  rw [Decimal.positional]
  split
  · refine @fractional ['0'] _ (Or.inl rfl) ?_ ?_
    · exact (digits_zeros _).append significant.plain
    · exact List.append_ne_nil_of_right_ne_nil _ significant.nonempty
  · dsimp only
    split
    · have whole : Whole (digits ++ List.replicate (power.toNat + 1 - digits.length) '0') := by
        refine Or.inr ⟨significant.plain.append (digits_zeros _), ?_, ?_⟩
        · exact List.append_ne_nil_of_left_ne_nil significant.nonempty _
        · rw [List.head?_append_of_ne_nil _ significant.nonempty]
          exact significant.noZero
      exact fractional whole (by intro char listed; rw [List.mem_singleton.mp listed]; rfl)
        (List.cons_ne_nil _ _)
    · next long =>
      have taken : digits.take (power.toNat + 1) ≠ [] := by
        simpa using significant.nonempty
      refine fractional (Or.inr ⟨?_, taken, ?_⟩) ?_ ?_
      · exact fun char listed => significant.plain char (List.mem_of_mem_take listed)
      · rw [List.head?_take, if_neg (by omega)]
        exact significant.noZero
      · exact fun char listed => significant.plain char (List.mem_of_mem_drop listed)
      · rw [ne_eq, List.drop_eq_nil_iff]
        exact long

/-- Scientific notation has an exponent. -/
theorem realText_scientific (significant : Significant digits) (power : Int) :
    RealText (Decimal.scientific digits power) := by
  have powers : Digits (List.replicate (2 - (Nat.toDigits 10 power.natAbs).length) '0' ++
      Nat.toDigits 10 power.natAbs) := by
    refine (digits_zeros _).append fun char => ?_
    exact Text.isDigit_of_mem_ofNat
  have some : List.replicate (2 - (Nat.toDigits 10 power.natAbs).length) '0' ++
      Nat.toDigits 10 power.natAbs ≠ [] :=
    List.append_ne_nil_of_right_ne_nil _ Nat.toDigits_ne_nil
  have exponential : ∀ {whole : Text} {fraction : Option Text}, Whole whole →
      (∀ places ∈ fraction, Digits places ∧ places ≠ []) →
      RealText (whole ++ (fractionText fraction ++ exponentText (.some (decide (power < 0),
        List.replicate (2 - (Nat.toDigits 10 power.natAbs).length) '0' ++
          Nat.toDigits 10 power.natAbs)))) :=
    fun isWhole places => .parts isWhole places (by rintro _ ⟨⟩; exact ⟨powers, some⟩)
      (Or.inr (by simp))
  obtain ⟨first, more, rfl⟩ := List.exists_cons_of_ne_nil significant.nonempty
  have whole : Whole [first] := by
    refine Or.inr ⟨?_, List.cons_ne_nil _ _, significant.noZero⟩
    intro char listed
    rw [List.mem_singleton.mp listed]
    exact significant.plain first List.mem_cons_self
  cases more with
  | nil =>
    have real := @exponential _ none whole (by simp)
    simpa [Decimal.scientific, fractionText, exponentText] using real
  | cons second others =>
    have plain : Digits (second :: others) :=
      fun char listed => significant.plain char (List.mem_cons_of_mem first listed)
    have real := @exponential _ (.some (second :: others)) whole
      (by rintro _ ⟨⟩; exact ⟨plain, List.cons_ne_nil _ _⟩)
    simpa [Decimal.scientific, fractionText, exponentText] using real

end Significant

end RegionBuild.Json

namespace RegionBuild.Decimal

/-- A decimal that is tried and taken is not zero. -/
theorem Interval.onGrid?_pos {interval : Interval} {ten : Int} {decimal : Shortest}
    (found : interval.onGrid? ten = some decimal) : 0 < decimal.digits := by
  unfold Interval.onGrid? at found
  dsimp only at found
  split at found
  · cases found
  · next below _ =>
    cases found
    simp only [Bool.and_eq_true, decide_eq_true_eq] at below
    exact below.2
  · cases found
    exact Nat.succ_pos _
  · next below _ =>
    simp only [Bool.and_eq_true, decide_eq_true_eq] at below
    split at found
    · cases found
      exact below.2
    · cases found
      exact Nat.succ_pos _
    · cases found
      dsimp only
      split
      · exact below.2
      · exact Nat.succ_pos _

/-- The search gives no zero if the finest grid does not. -/
theorem Interval.search_pos {interval : Interval} (fuel : Nat) (ten : Int)
    (finest : 0 < interval.floor (ten - fuel)) : 0 < (interval.search fuel ten).digits := by
  induction fuel generalizing ten with
  | zero =>
    rw [Interval.search]
    simpa using finest
  | succ fuel inductionHypothesis =>
    rw [Interval.search]
    split
    · next found => exact Interval.onGrid?_pos found
    · apply inductionHypothesis
      have same : ten - 1 - (fuel : Int) = ten - ((fuel + 1 : Nat) : Int) := by omega
      rw [same]
      exact finest

/-- No finite number lies below the finest grid, so its shortest decimal is not zero. -/
theorem shortest_pos {mantissa : Nat} {exponent : Int} (positive : 0 < mantissa)
    (inRange : -1074 ≤ exponent) : 0 < (shortest mantissa exponent).digits := by
  have finest : (310 : Int) - (700 : Nat) = -390 := rfl
  have wide : ∀ few count, few ≤ 3 * count → twoTo few ≤ tenTo count := fun few count bound =>
    calc 2 ^ few ≤ 2 ^ (3 * count) := Nat.pow_le_pow_right (by decide) bound
      _ = (2 ^ 3) ^ count := Nat.pow_mul 2 3 count
      _ ≤ 10 ^ count := Nat.pow_le_pow_left (by decide) count
  apply Interval.search_pos
  simp only [Interval.floor, Interval.around, finest]
  apply Nat.div_pos
  · calc tenTo (-390 : Int).toNat * twoTo (-(exponent - 2)).toNat
        = twoTo (-(exponent - 2)).toNat := Nat.one_mul _
      _ ≤ tenTo 390 := wide _ 390 (by omega)
      _ ≤ 4 * mantissa * twoTo (exponent - 2).toNat * tenTo (-(-390 : Int)).toNat := by
        apply Nat.le_mul_of_pos_left
        exact Nat.mul_pos (by omega) (Nat.pow_pos (by decide))
  · exact Nat.mul_pos (Nat.pow_pos (by decide)) (Nat.pow_pos (by decide))

/-- Exponents have a least value. -/
theorem Binary64.exponent_range {number : Binary64} {mantissa : Nat} {exponent : Int}
    (finite : number.magnitude = .finite mantissa exponent) : -1074 ≤ exponent := by
  unfold Binary64.magnitude at finite
  dsimp only at finite
  split at finite
  · split at finite <;> cases finite
  · split at finite
    · cases finite
      exact Int.le_refl _
    · next normal =>
      cases finite
      omega

end RegionBuild.Decimal

namespace RegionBuild.Json

/-- The digits of a decimal that is not zero are significant. -/
theorem significant_of_pos {decimal : Decimal.Shortest} (positive : 0 < decimal.digits) :
    Significant decimal.significant.1 := by
  have starts : decimal.significant.1 <+: Text.ofNat decimal.digits :=
    List.rdropWhile_prefix (· == '0') _
  have head := head?_ofNat positive
  have nonempty : decimal.significant.1 ≠ [] := by
    intro none
    have zeros := List.rdropWhile_eq_nil_iff.mp none
    obtain ⟨first, more, digits⟩ := List.exists_cons_of_ne_nil (Text.ofNat_ne_nil decimal.digits)
    have zero : (first == '0') = true := zeros first (by
      rw [show Nat.toDigits 10 decimal.digits = first :: more from digits]
      exact List.mem_cons_self)
    rw [digits, List.head?_cons, beq_iff_eq.mp zero] at head
    exact head rfl
  refine ⟨fun char listed => ?_, nonempty, ?_⟩
  · exact Text.isDigit_of_mem_ofNat (starts.subset listed)
  · obtain ⟨zeros, whole⟩ := starts
    rw [← whole, List.head?_append_of_ne_nil _ nonempty] at head
    exact head

/-- The text of a finite number is that of a number with a fraction or an exponent. -/
theorem realText_magnitudeText {number : Decimal.Binary64} {mantissa : Nat} {exponent : Int}
    (finite : number.magnitude = .finite mantissa exponent) (infinity undefined : Text) :
    RealText (Decimal.magnitudeText infinity undefined number) := by
  rw [Decimal.magnitudeText, finite]
  cases mantissa with
  | zero =>
    have zero : RealText (['0'] ++ (fractionText (some ['0']) ++ exponentText none)) :=
      .parts (Or.inl rfl) (by rintro _ ⟨⟩; exact ⟨digits_zeros 1, List.cons_ne_nil _ _⟩) (by simp)
        (Or.inl (by simp))
    exact zero
  | succ less =>
    have significant := significant_of_pos (Decimal.shortest_pos (Nat.succ_pos less)
      (Decimal.Binary64.exponent_range finite))
    change RealText (if _ ∧ _ then Decimal.positional _ _ else Decimal.scientific _ _)
    split
    · exact significant.realText_positional _
    · exact significant.realText_scientific _

/-- A double is read back as a double, the same one whatever follows. -/
theorem exists_readScalar_writeFloat (number : Decimal.Binary64) :
    ∃ value, ∀ rest, Ends rest →
      readScalar (writeFloat number ++ rest) = .ok (.float value, rest) := by
  rw [writeFloat, Decimal.shortestText]
  cases size : number.magnitude with
  | notANumber =>
    refine ⟨.notANumber, fun rest _ => ?_⟩
    simp only [Decimal.magnitudeText, size]
    simp [readScalar, word?, words]
  | infinite =>
    refine ⟨.infinity number.isNegative, fun rest _ => ?_⟩
    simp only [Decimal.magnitudeText, size]
    cases number.isNegative <;> simp [readScalar, word?, words]
  | finite mantissa exponent =>
    obtain ⟨value, read⟩ := (realText_magnitudeText size "Infinity".toList "NaN".toList).read
      number.isNegative
    refine ⟨value, fun rest ends => ?_⟩
    rw [← read rest ends]
    cases number.isNegative <;> rfl

end RegionBuild.Json
