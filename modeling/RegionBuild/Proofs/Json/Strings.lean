import Mathlib.Data.List.Chain
import RegionBuild.Json.Parser
import RegionBuild.Json.Printer
import RegionBuild.Proofs.Fault

/-!
# Strings in JSON

A code point is written as itself, as a short escape, or as the escapes of its UTF-16
units, and every one of these is read back as the code point. What could go wrong is that
two code points are read as one: a first half of a surrogate pair with a second half right
after it. No string that was read has these two side by side, since reading joins them. A
string that has them is written like the one in which they are joined, and read as that.
-/

namespace RegionBuild.Json

/-- No first half of a surrogate pair has a second half right after it. -/
def Joined (codes : List CodePoint) : Prop :=
  codes.IsChain fun first second =>
    ¬ (isHighSurrogate first.val = true ∧ isLowSurrogate second.val = true)

/-- A text that starts with the escape of the second half of a surrogate pair. -/
def StartsLow (text : Text) : Prop :=
  ∃ digits unit beyond, text = '\\' :: 'u' :: digits ∧ hexUnit? digits = some (unit, beyond) ∧
    isLowSurrogate unit = true

/-- A number in range is that of its code point. -/
theorem codePoint_val {number : Nat} (small : number < 0x110000) :
    (codePoint number).val = number :=
  Nat.mod_eq_of_lt small

/-- A code point is the one with its number. -/
theorem codePoint_self (code : CodePoint) : codePoint code.val = code :=
  Fin.ofNat_val_eq_self code

/-- A digit in base sixteen is read as its value. -/
theorem hexDigit?_digitChar {digit : Nat} (small : digit < 16) :
    hexDigit? digit.digitChar = some digit := by
  revert digit
  decide

/-- The value of a digit in base sixteen is below sixteen. -/
theorem hexDigit?_lt {char : Char} {digit : Nat} (read : hexDigit? char = some digit) :
    digit < 16 := by
  simp only [hexDigit?, Char.isDigit, Bool.and_eq_true, decide_eq_true_eq] at read
  split at read
  · next range =>
    have upper : char.toNat ≤ 57 := range.2
    obtain rfl := Option.some.inj read
    omega
  · split at read
    · next range =>
      have upper : char.toNat ≤ 102 := range.2
      obtain rfl := Option.some.inj read
      omega
    · split at read
      · next range =>
        have upper : char.toNat ≤ 70 := range.2
        obtain rfl := Option.some.inj read
        omega
      · cases read

/-- The four digits of a unit. -/
theorem hexPadded_four {unit : Nat} (small : unit < 0x10000) :
    Text.hexPadded 4 unit =
      [(unit / 4096).digitChar, (unit / 256 % 16).digitChar, (unit / 16 % 16).digitChar,
        (unit % 16).digitChar] := by
  have tens : ∀ number, 16 ≤ number →
      Nat.toDigits 16 number = Nat.toDigits 16 (number / 16) ++ [(number % 16).digitChar] :=
    fun number large => Nat.toDigits_of_base_le (by decide) large
  have ones : ∀ number, number < 16 → Nat.toDigits 16 number = [number.digitChar] :=
    fun number low => Nat.toDigits_of_lt_base low
  rw [Text.hexPadded]
  by_cases one : unit < 16
  · have first : unit / 4096 = 0 := by omega
    have second : unit / 256 % 16 = 0 := by omega
    have third : unit / 16 % 16 = 0 := by omega
    have fourth : unit % 16 = unit := by omega
    rw [ones unit one, first, second, third, fourth]
    rfl
  by_cases two : unit < 256
  · have first : unit / 4096 = 0 := by omega
    have second : unit / 256 % 16 = 0 := by omega
    have third : unit / 16 % 16 = unit / 16 := by omega
    rw [tens unit (by omega), ones (unit / 16) (by omega), first, second, third]
    rfl
  by_cases three : unit < 4096
  · have first : unit / 4096 = 0 := by omega
    have second : unit / 256 % 16 = unit / 16 / 16 := by omega
    rw [tens unit (by omega), tens (unit / 16) (by omega), ones (unit / 16 / 16) (by omega), first,
      second]
    rfl
  · have first : unit / 4096 = unit / 16 / 16 / 16 := by omega
    have second : unit / 256 % 16 = unit / 16 / 16 % 16 := by omega
    rw [tens unit (by omega), tens (unit / 16) (by omega), tens (unit / 16 / 16) (by omega),
      ones (unit / 16 / 16 / 16) (by omega), first, second]
    rfl

/-- The digits of a unit are read as the unit, as long as something follows. -/
theorem hexUnit?_hexPadded {unit : Nat} (small : unit < 0x10000) {after : Text}
    (open? : after ≠ []) : hexUnit? (Text.hexPadded 4 unit ++ after) = some (unit, after) := by
  obtain ⟨next, rest, rfl⟩ := List.exists_cons_of_ne_nil open?
  rw [hexPadded_four small]
  simp only [List.cons_append, List.nil_append, hexUnit?]
  rw [hexDigit?_digitChar (by omega), hexDigit?_digitChar (by omega),
    hexDigit?_digitChar (by omega), hexDigit?_digitChar (by omega)]
  have value : ((unit / 4096 * 16 + unit / 256 % 16) * 16 + unit / 16 % 16) * 16 + unit % 16 =
      unit := by
    omega
  simp only [bind, Option.bind, value]
  rfl

/-- Four digits denote a unit of sixteen bits. -/
theorem hexUnit?_lt {text rest : Text} {unit : Nat} (read : hexUnit? text = some (unit, rest)) :
    unit < 0x10000 := by
  unfold hexUnit? at read
  split at read
  · obtain ⟨a, first, read⟩ := Option.bind_eq_some_iff.mp read
    obtain ⟨b, second, read⟩ := Option.bind_eq_some_iff.mp read
    obtain ⟨c, third, read⟩ := Option.bind_eq_some_iff.mp read
    obtain ⟨d, fourth, read⟩ := Option.bind_eq_some_iff.mp read
    have value : ((a * 16 + b) * 16 + c) * 16 + d = unit :=
      congrArg Prod.fst (Option.some.inj read)
    have first := hexDigit?_lt first
    have second := hexDigit?_lt second
    have third := hexDigit?_lt third
    have fourth := hexDigit?_lt fourth
    omega
  · cases read

/-- How a code point may be spelled: by itself, by a short escape, by its only unit, or by its
two units. -/
inductive Spelling (code : CodePoint) : Text → Prop where
  | plain {char : Char} : char.toNat = code.val → 0x20 ≤ char.toNat → char ≠ '"' → char ≠ '\\' →
      Spelling code [char]
  | short {char : Char} : char ≠ 'u' → simpleEscape? char = some code.val →
      Spelling code ['\\', char]
  | unit : code.val < 0x10000 → Spelling code (escapeUnit code.val)
  | pair {high low : Nat} : isHighSurrogate high = true → isLowSurrogate low = true →
      joinSurrogates high low = code.val → Spelling code (escapeUnit high ++ escapeUnit low)

/-- What is written for a code point is one of its spellings. -/
theorem spelling_writeCode (code : CodePoint) : Spelling code (writeCode code) := by
  rw [writeCode]
  split_ifs with quote backslash feed carriage tab page back printable single
  · exact .short (by decide) (by rw [quote]; rfl)
  · exact .short (by decide) (by rw [backslash]; rfl)
  · exact .short (by decide) (by rw [feed]; rfl)
  · exact .short (by decide) (by rw [carriage]; rfl)
  · exact .short (by decide) (by rw [tab]; rfl)
  · exact .short (by decide) (by rw [page]; rfl)
  · exact .short (by decide) (by rw [back]; rfl)
  · have value : (Char.ofNat code.val).toNat = code.val := by
      rw [Char.ofNat, dif_pos (Or.inl (by omega))]
      rfl
    refine .plain value (by omega) ?_ ?_
    · intro same
      rw [same] at value
      exact quote value.symm
    · intro same
      rw [same] at value
      exact backslash value.symm
  · exact .unit single
  · have bound := code.isLt
    apply Spelling.pair
    · simp only [isHighSurrogate, decide_eq_true_eq]
      omega
    · simp only [isLowSurrogate, decide_eq_true_eq]
      omega
    · unfold joinSurrogates
      omega

/-- The units of a pair have sixteen bits, and no unit is both halves. -/
theorem high_range {unit : Nat} (high : isHighSurrogate unit = true) :
    unit < 0x10000 ∧ isLowSurrogate unit = false := by
  simp only [isHighSurrogate, isLowSurrogate, decide_eq_true_eq, decide_eq_false_iff_not] at high ⊢
  omega

theorem low_range {unit : Nat} (low : isLowSurrogate unit = true) : unit < 0x10000 := by
  simp only [isLowSurrogate, decide_eq_true_eq] at low
  omega

namespace Spelling

variable {code : CodePoint} {spelling : Text}

/-- No spelling is empty. -/
theorem ne_nil (spelled : Spelling code spelling) : spelling ≠ [] := by
  cases spelled <;> exact List.cons_ne_nil _ _

/-- Only the second half of a surrogate pair is spelled by its escape. -/
theorem not_startsLow (spelled : Spelling code spelling) (other : isLowSurrogate code.val = false)
    {after : Text} (open? : after ≠ []) : ¬ StartsLow (spelling ++ after) := by
  rintro ⟨digits, unit, beyond, starts, read, low⟩
  -- Spelled by an escape, the text gives away its first unit, which is no second half.
  have first : ∀ {unit' : Nat} {after' : Text}, unit' < 0x10000 → isLowSurrogate unit' = false →
      after' ≠ [] → escapeUnit unit' ++ after' ≠ '\\' :: 'u' :: digits := by
    intro unit' after' small notLow more same
    have same : Text.hexPadded 4 unit' ++ after' = digits :=
      (List.cons.inj (List.cons.inj same).2).2
    rw [← same, hexUnit?_hexPadded small more] at read
    obtain rfl := congrArg Prod.fst (Option.some.inj read)
    rw [low] at notLow
    cases notLow
  cases spelled with
  | plain _ _ _ noBackslash => exact noBackslash (List.cons.inj starts).1
  | short noUnit _ => exact noUnit (List.cons.inj (List.cons.inj starts).2).1
  | unit small => exact first small other open? starts
  | pair high _ _ =>
    rw [List.append_assoc] at starts
    exact first (high_range high).1 (high_range high).2 (List.cons_ne_nil _ _) starts

end Spelling

/-- Reading a unit that is not completed by what follows. -/
theorem readString_unit {fuel opening unit : Nat} {after rest : Text} {codes : List CodePoint}
    (small : unit < 0x10000) (tail : readString fuel opening after = .ok (codes, rest))
    (apart : isHighSurrogate unit = true → ¬ StartsLow after) :
    readString (fuel + 1) opening (escapeUnit unit ++ after) =
      .ok (codePoint unit :: codes, rest) := by
  have open? : after ≠ [] := by
    rintro rfl
    cases fuel <;> cases tail
  rw [escapeUnit, List.cons_append, List.cons_append, readString, hexUnit?_hexPadded small open?]
  dsimp only
  split
  · next second high =>
    split
    · rw [tail]
      rfl
    · -- The tail is read from an escape, so there is a unit, and it is not a second half.
      cases fuel with
      | zero => cases tail
      | succ fuel =>
        cases next : hexUnit? second with
        | none =>
          rw [readString, next] at tail
          cases tail
        | some found =>
          obtain ⟨low, beyond⟩ := found
          have notLow : isLowSurrogate low ≠ true := fun isLow =>
            apart high ⟨second, low, beyond, rfl, next, isLow⟩
          dsimp only
          rw [if_neg notLow, tail]
          rfl
  · rw [tail]
    rfl

/-- Reading the two units of a pair. -/
theorem readString_pair {fuel opening high low : Nat} {after rest : Text} {codes : List CodePoint}
    (isHigh : isHighSurrogate high = true) (isLow : isLowSurrogate low = true)
    (tail : readString fuel opening after = .ok (codes, rest)) :
    readString (fuel + 1) opening (escapeUnit high ++ (escapeUnit low ++ after)) =
      .ok (codePoint (joinSurrogates high low) :: codes, rest) := by
  have open? : after ≠ [] := by
    rintro rfl
    cases fuel <;> cases tail
  have read := hexUnit?_hexPadded (low_range isLow) open?
  have long : ¬ (Text.hexPadded 4 low ++ after).length < 5 := by
    rw [hexPadded_four (low_range isLow)]
    have some := List.length_pos_of_ne_nil open?
    simp only [List.length_append, List.length_cons, List.length_nil]
    omega
  have first := hexUnit?_hexPadded (high_range isHigh).1
    (List.cons_ne_nil '\\' ('u' :: (Text.hexPadded 4 low ++ after)))
  simp only [escapeUnit, List.cons_append]
  rw [readString, first]
  simp only [isHigh, long, ↓reduceIte, read, isLow, tail]
  rfl

/-- A spelling is read as its code point, unless it is a first half that what follows would
complete. -/
theorem Spelling.read {code : CodePoint} {spelling : Text} (spelled : Spelling code spelling)
    {fuel opening : Nat} {after rest : Text} {codes : List CodePoint}
    (tail : readString fuel opening after = .ok (codes, rest))
    (apart : isHighSurrogate code.val = true → ¬ StartsLow after) :
    readString (fuel + 1) opening (spelling ++ after) = .ok (code :: codes, rest) := by
  have self := codePoint_self code
  cases spelled with
  | plain value visible noQuote noBackslash =>
    rw [List.singleton_append, readString]
    · rw [if_neg (by omega)]
      dsimp only
      rw [tail, value, self]
      rfl
    · exact noQuote
    · exact fun same _ => noBackslash same
    · exact fun _ same _ => noBackslash same
    · exact fun _ _ same _ => noBackslash same
  | short noUnit value =>
    rw [List.cons_append, List.singleton_append, readString]
    · rw [value]
      dsimp only
      rw [tail, self]
      rfl
    · exact noUnit
  | unit small =>
    rw [readString_unit small tail apart, self]
  | pair high low value =>
    rw [List.append_assoc, readString_pair high low tail, value, self]

/-- The code points of a string take at least as many characters. -/
theorem length_le_flatMap (codes : List CodePoint) :
    codes.length ≤ (codes.flatMap writeCode).length := by
  induction codes with
  | nil => exact Nat.le_refl 0
  | cons code rest inductionHypothesis =>
    have some := List.length_pos_of_ne_nil (spelling_writeCode code).ne_nil
    rw [List.flatMap_cons, List.length_append, List.length_cons]
    omega

/-- The code points of a string without loose pairs are read back up to its closing quote. -/
theorem readString_flatMap {codes : List CodePoint} (joined : Joined codes) (rest : Text)
    (fuel opening : Nat) (enough : codes.length < fuel) :
    readString fuel opening (codes.flatMap writeCode ++ '"' :: rest) = .ok (codes, rest) := by
  induction codes generalizing fuel with
  | nil =>
    cases fuel with
    | zero => exact absurd enough (Nat.not_lt_zero 0)
    | succ fuel => rw [List.flatMap_nil, List.nil_append, readString]
  | cons code more inductionHypothesis =>
    cases fuel with
    | zero => exact absurd enough (Nat.not_lt_zero _)
    | succ fuel =>
      have tail := inductionHypothesis joined.tail fuel (Nat.lt_of_succ_lt_succ enough)
      rw [List.flatMap_cons, List.append_assoc]
      refine (spelling_writeCode code).read tail fun high => ?_
      cases more with
      | nil =>
        rintro ⟨_, _, _, starts, _⟩
        cases starts
      | cons next others =>
        have notLow : isLowSurrogate next.val = false := by
          have apart := (List.isChain_cons_cons.mp joined).1
          simpa [high] using apart
        rw [List.flatMap_cons, List.append_assoc]
        exact (spelling_writeCode next).not_startsLow notLow (by simp)

/-- A string is read back. -/
theorem readString_writeString {codes : List CodePoint} (joined : Joined codes) (rest : Text)
    (opening : Nat) :
    ∃ body, writeString codes ++ rest = '"' :: body ∧
      readString (body.length + 1) opening body = .ok (codes, rest) := by
  refine ⟨codes.flatMap writeCode ++ '"' :: rest, by simp [writeString], ?_⟩
  apply readString_flatMap joined
  have long := length_le_flatMap codes
  rw [List.length_append]
  omega

/-- Four digits and something after them. -/
theorem length_of_hexUnit? {text rest : Text} {unit : Nat}
    (read : hexUnit? text = some (unit, rest)) : 5 ≤ text.length := by
  unfold hexUnit? at read
  split at read
  · simp
  · cases read

/-- What a short escape stands for is no surrogate. -/
theorem simpleEscape?_lt {char : Char} {code : Nat} (read : simpleEscape? char = some code) :
    code < 0x80 := by
  unfold simpleEscape? at read
  split at read <;> cases read <;> decide

/-- A surrogate has its place among the code points. -/
theorem surrogate_range {code : Nat}
    (surrogate : isHighSurrogate code = true ∨ isLowSurrogate code = true) :
    0xD800 ≤ code ∧ code ≤ 0xDFFF := by
  simp only [isHighSurrogate, isLowSurrogate, decide_eq_true_eq] at surrogate
  omega

/-- The two halves of a pair make a code point beyond sixteen bits. -/
theorem joinSurrogates_range {high low : Nat} (isHigh : isHighSurrogate high = true)
    (isLow : isLowSurrogate low = true) :
    0x10000 ≤ joinSurrogates high low ∧ joinSurrogates high low < 0x110000 := by
  simp only [isHighSurrogate, isLowSurrogate, decide_eq_true_eq] at isHigh isLow
  unfold joinSurrogates
  omega

/-- What a step that gives a code point leaves to the next one. -/
structure StepsTo (text : Text) (code : Nat) (after : Text) : Prop where
  small : code < 0x110000
  high : isHighSurrogate code = true → ¬ StartsLow after
  low : isLowSurrogate code = true → StartsLow text

/-- Nothing is to be said of a code point that is no surrogate. -/
theorem stepsTo_of_range {text after : Text} {code : Nat} (small : code < 0x110000)
    (other : code < 0xD800 ∨ 0xDFFF < code) : StepsTo text code after := by
  refine ⟨small, fun high => ?_, fun low => ?_⟩
  · have range := surrogate_range (Or.inl high)
    omega
  · have range := surrogate_range (Or.inr low)
    omega

/-- An escaped unit is read by itself if what follows does not complete it. -/
theorem stepsTo_unit {digits after : Text} {unit : Nat}
    (found : hexUnit? digits = some (unit, after))
    (apart : isHighSurrogate unit = true → ¬ StartsLow after) :
    StepsTo ('\\' :: 'u' :: digits) unit after where
  small := Nat.lt_trans (hexUnit?_lt found) (by decide)
  high := apart
  low isLow := ⟨digits, unit, after, rfl, found, isLow⟩

/-- A string that goes on after a code point starts with it. -/
theorem readString_goesOn {fuel opening code : Nat} {text after rest : Text}
    {codes : List CodePoint} (steps : StepsTo text code after)
    (read : (readString fuel opening after >>= fun found =>
      pure (codePoint code :: found.1, found.2)) = Except.ok (codes, rest)) :
    ∃ code after more, StepsTo text code after ∧ codes = codePoint code :: more ∧
      readString fuel opening after = .ok (more, rest) := by
  obtain ⟨⟨more, last⟩, tail, same⟩ := bind_eq_ok.mp read
  cases same
  exact ⟨code, after, more, steps, rfl, tail⟩

/-- One step of reading a string: it ends at the quote, or gives one code point and goes on. -/
theorem readString_cases {fuel opening : Nat} {text rest : Text} {codes : List CodePoint}
    (read : readString (fuel + 1) opening text = .ok (codes, rest)) :
    codes = [] ∨ ∃ code after more, StepsTo text code after ∧
      codes = codePoint code :: more ∧
      readString fuel opening after = .ok (more, rest) := by
  unfold readString at read
  dsimp only at read
  split at read
  · cases read
  · cases read
    exact Or.inl rfl
  · cases read
  · next digits =>
    split at read
    · cases read
    · next unit after found =>
      split at read
      · next second isHigh =>
        split at read
        · next short =>
          refine Or.inr (readString_goesOn (stepsTo_unit found fun _ => ?_) read)
          rintro ⟨_, _, _, same, unread, _⟩
          cases same
          have long := length_of_hexUnit? unread
          omega
        · split at read
          · cases read
          · next lower beyond next =>
            split at read
            · next isLow =>
              have range := joinSurrogates_range isHigh isLow
              exact Or.inr (readString_goesOn (stepsTo_of_range range.2 (by omega)) read)
            · next notLow =>
              refine Or.inr (readString_goesOn (stepsTo_unit found fun _ => ?_) read)
              rintro ⟨_, _, _, same, again, isLow⟩
              cases same
              rw [next] at again
              cases again
              exact notLow isLow
      · next apart =>
        refine Or.inr (readString_goesOn (stepsTo_unit found fun isHigh => ?_) read)
        rintro ⟨second, _, _, same, _⟩
        exact apart second isHigh same
  · split at read
    · cases read
    · next value =>
      have range := simpleEscape?_lt value
      exact Or.inr (readString_goesOn (stepsTo_of_range (by omega) (by omega)) read)
  · next char after _ _ _ _ =>
    split at read
    · cases read
    · have valid : char.toNat < 0xD800 ∨ 0xDFFF < char.toNat ∧ char.toNat < 0x110000 := char.valid
      exact Or.inr (readString_goesOn (stepsTo_of_range (by omega) (by omega)) read)

/-- No string that was read has loose pairs, and it starts with a second half only if that was
an escape.

Induct over the fuel. The second part is what a first half before it needs to know. -/
theorem joined_of_readString {fuel opening : Nat} {text rest : Text} {codes : List CodePoint}
    (read : readString fuel opening text = .ok (codes, rest)) :
    Joined codes ∧
      ∀ code, codes.head? = some code → isLowSurrogate code.val = true → StartsLow text := by
  induction fuel generalizing text codes with
  | zero => cases read
  | succ fuel inductionHypothesis =>
    rcases readString_cases read with rfl | ⟨code, after, more, steps, rfl, tail⟩
    · exact ⟨List.isChain_nil, by simp⟩
    · have value := codePoint_val steps.small
      obtain ⟨joined, starts⟩ := inductionHypothesis tail
      refine ⟨List.isChain_cons.mpr ⟨?_, joined⟩, ?_⟩
      · rintro second follows ⟨high, low⟩
        rw [value] at high
        exact steps.high high (starts second follows low)
      · rintro _ ⟨⟩ low
        rw [value] at low
        exact steps.low low

/-- Code points with every first half of a surrogate pair joined to a second half right after
it. -/
def joinPairs : List CodePoint → List CodePoint
  | [] => []
  | [code] => [code]
  | first :: second :: rest =>
    if isHighSurrogate first.val && isLowSurrogate second.val then
      codePoint (joinSurrogates first.val second.val) :: joinPairs rest
    else first :: joinPairs (second :: rest)

/-- The two halves of a pair are written as the code point that they make. So the text of a
string cannot tell a loose pair from a joined one. -/
theorem writeCode_joinSurrogates {first second : CodePoint}
    (high : isHighSurrogate first.val = true) (low : isLowSurrogate second.val = true) :
    writeCode (codePoint (joinSurrogates first.val second.val)) =
      writeCode first ++ writeCode second := by
  have range := joinSurrogates_range high low
  have unit : ∀ code : CodePoint, 0xD800 ≤ code.val → code.val ≤ 0xDFFF →
      writeCode code = escapeUnit code.val := by
    intro code above below
    simp only [writeCode]
    iterate 8 rw [if_neg (by omega)]
    exact if_pos (by omega)
  have joined : writeCode (codePoint (joinSurrogates first.val second.val)) =
      escapeUnit (0xD800 + (joinSurrogates first.val second.val - 0x10000) / 0x400) ++
        escapeUnit (0xDC00 + (joinSurrogates first.val second.val - 0x10000) % 0x400) := by
    simp only [writeCode, codePoint_val range.2]
    iterate 9 rw [if_neg (by omega)]
  simp only [isHighSurrogate, isLowSurrogate, decide_eq_true_eq] at high low
  rw [joined, unit first (by omega) (by omega), unit second (by omega) (by omega)]
  refine congrArg₂ (fun left right => escapeUnit left ++ escapeUnit right) ?_ ?_
  · unfold joinSurrogates
    omega
  · unfold joinSurrogates
    omega

/-- A string is written like the one with its pairs joined. -/
theorem writeString_joinPairs (codes : List CodePoint) :
    writeString (joinPairs codes) = writeString codes := by
  have same : (joinPairs codes).flatMap writeCode = codes.flatMap writeCode := by
    fun_induction joinPairs codes with
    | case1 => rfl
    | case2 code => rfl
    | case3 first second rest pair inductionHypothesis =>
      obtain ⟨high, low⟩ := Bool.and_eq_true_iff.mp pair
      simp only [List.flatMap_cons, inductionHypothesis, writeCode_joinSurrogates high low,
        List.append_assoc]
    | case4 first second rest _ inductionHypothesis =>
      simp only [List.flatMap_cons, inductionHypothesis]
  rw [writeString, same, writeString]

/-- Joining leaves a second half in front only if it was there. -/
theorem low_of_head?_joinPairs {codes : List CodePoint} {code : CodePoint}
    (front : (joinPairs codes).head? = some code) (low : isLowSurrogate code.val = true) :
    codes.head? = some code := by
  fun_cases joinPairs codes with
  | case1 => exact front
  | case2 => exact front
  | case3 first second rest pair =>
    obtain ⟨high, low'⟩ := Bool.and_eq_true_iff.mp pair
    have range := joinSurrogates_range high low'
    rw [joinPairs, if_pos pair] at front
    obtain rfl := Option.some.inj front
    rw [codePoint_val range.2] at low
    have surrogate := surrogate_range (Or.inr low)
    omega
  | case4 first second rest apart =>
    rw [joinPairs, if_neg apart] at front
    exact front

/-- No pair is loose once all are joined. -/
theorem joined_joinPairs (codes : List CodePoint) : Joined (joinPairs codes) := by
  fun_induction joinPairs codes with
  | case1 => exact List.isChain_nil
  | case2 code => exact List.isChain_singleton code
  | case3 first second rest pair inductionHypothesis =>
    obtain ⟨high, low⟩ := Bool.and_eq_true_iff.mp pair
    have range := joinSurrogates_range high low
    refine List.isChain_cons.mpr ⟨?_, inductionHypothesis⟩
    rintro _ _ ⟨high', _⟩
    rw [codePoint_val range.2] at high'
    have surrogate := surrogate_range (Or.inl high')
    omega
  | case4 first second rest apart inductionHypothesis =>
    refine List.isChain_cons.mpr ⟨?_, inductionHypothesis⟩
    rintro code front ⟨high, low⟩
    obtain rfl := Option.some.inj (low_of_head?_joinPairs front low)
    exact apart (Bool.and_eq_true_iff.mpr ⟨high, low⟩)

/-- Every character is a code point that is no surrogate. -/
theorem codeOf_val (char : Char) :
    (codeOf char).val = char.toNat ∧ (char.toNat < 0xD800 ∨ 0xDFFF < char.toNat) := by
  have valid : char.toNat < 0xD800 ∨ 0xDFFF < char.toNat ∧ char.toNat < 0x110000 := char.valid
  exact ⟨codePoint_val (by omega), by omega⟩

/-- It is told from other characters by its code point. -/
theorem codeOf_injective : Function.Injective codeOf := by
  intro first second same
  have values := congrArg Fin.val same
  rw [(codeOf_val first).1, (codeOf_val second).1] at values
  exact Char.toNat_inj.mp values

/-- The character of a code point is the one with this code point. -/
theorem charOf?_eq_some {code : CodePoint} {char : Char} :
    charOf? code = some char ↔ codeOf char = code := by
  rw [charOf?]
  constructor
  · intro found
    split at found
    · next range =>
      have valid : code.val.isValidChar := range.imp_right fun above => ⟨above, code.isLt⟩
      cases found
      apply Fin.ext
      rw [(codeOf_val _).1, Char.ofNat, dif_pos valid]
      rfl
    · cases found
  · rintro rfl
    rw [(codeOf_val char).1, if_pos (codeOf_val char).2, Char.ofNat_toNat]

/-- A text is read back from its code points, and no other sequence stands for it. -/
theorem textOf?_eq_some {codes : List CodePoint} {text : Text} :
    textOf? codes = some text ↔ codesOf text = codes := by
  induction codes generalizing text with
  | nil => cases text <;> simp [textOf?, codesOf]
  | cons code rest inductionHypothesis =>
    rw [textOf?, List.mapM_cons]
    constructor
    · intro found
      obtain ⟨char, first, more⟩ := Option.bind_eq_some_iff.mp found
      obtain ⟨others, tail, same⟩ := Option.bind_eq_some_iff.mp more
      cases same
      rw [codesOf, List.map_cons, charOf?_eq_some.mp first]
      exact congrArg (code :: ·) (inductionHypothesis.mp tail)
    · cases text with
      | nil => rintro ⟨⟩
      | cons char others =>
        intro same
        obtain ⟨first, tail⟩ := List.cons.inj same
        exact Option.bind_eq_some_iff.mpr ⟨char, charOf?_eq_some.mpr first,
          Option.bind_eq_some_iff.mpr ⟨others, inductionHypothesis.mpr tail, rfl⟩⟩

/-- The code points of a text have no loose pairs, as they have no halves. -/
theorem joined_codesOf (text : Text) : Joined (codesOf text) := by
  induction text with
  | nil => exact List.isChain_nil
  | cons char rest inductionHypothesis =>
    refine List.isChain_cons.mpr ⟨?_, inductionHypothesis⟩
    rintro second _ ⟨high, _⟩
    have range := surrogate_range (Or.inl high)
    have value := codeOf_val char
    omega

end RegionBuild.Json
