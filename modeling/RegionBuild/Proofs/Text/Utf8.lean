import RegionBuild.Text.Utf8

/-!
# Bytes tell characters apart

The bytes of a character have one of four forms, by the lead byte. Everything about
the encoding follows from the forms. Decoding what was encoded gives the text back.
A lead byte says how many tail bytes follow and is none itself, so a text can be cut
into characters from any of its lead bytes on: where the bytes of a text occur among
those of another, the text itself occurs there.
-/

namespace RegionBuild.Utf8

/-- The forms of the bytes of one character, by the code point. -/
inductive Form (code : Nat) : List UInt8 → Prop where
  | one (lead : UInt8) : lead.toNat < 0x80 → code = lead.toNat → Form code [lead]
  | two (lead second : UInt8) : 0xC2 ≤ lead.toNat → lead.toNat < 0xE0 →
      isSecond lead second = true →
      code = lead.toNat % 0x20 * 0x40 + second.toNat % 0x40 → Form code [lead, second]
  | three (lead second third : UInt8) : 0xE0 ≤ lead.toNat → lead.toNat < 0xF0 →
      isSecond lead second = true → isTail third = true →
      code = lead.toNat % 0x10 * 0x1000 + second.toNat % 0x40 * 0x40 + third.toNat % 0x40 →
      Form code [lead, second, third]
  | four (lead second third fourth : UInt8) : 0xF0 ≤ lead.toNat → lead.toNat < 0xF5 →
      isSecond lead second = true → isTail third = true → isTail fourth = true →
      code = lead.toNat % 0x08 * 0x40000 + second.toNat % 0x40 * 0x1000 +
        third.toNat % 0x40 * 0x40 + fourth.toNat % 0x40 →
      Form code [lead, second, third, fourth]

/-- A small number survives as a byte. -/
theorem toNat_byte (code : Nat) (small : code < 0x100) : (UInt8.ofNat code).toNat = code := by
  simp only [UInt8.toNat_ofNat']
  omega

/-- Tail bytes by their number. -/
theorem isTail_iff (byte : UInt8) :
    isTail byte = true ↔ 0x80 ≤ byte.toNat ∧ byte.toNat < 0xC0 := by
  simp [isTail]

/-- All other bytes by their number. -/
theorem isTail_eq_false_iff (byte : UInt8) :
    isTail byte = false ↔ byte.toNat < 0x80 ∨ 0xC0 ≤ byte.toNat := by
  rw [Bool.eq_false_iff, ne_eq, isTail_iff]
  omega

/-- Second bytes by their number. The four leads with a narrower rule are told apart. -/
theorem isSecond_iff (lead second : UInt8) :
    isSecond lead second = true ↔ isTail second = true ∧
      (lead.toNat = 0xE0 → 0xA0 ≤ second.toNat) ∧ (lead.toNat = 0xED → second.toNat < 0xA0) ∧
      (lead.toNat = 0xF0 → 0x90 ≤ second.toNat) ∧ (lead.toNat = 0xF4 → second.toNat < 0x90) := by
  unfold isSecond
  split <;> simp_all

/-- Every character is encoded in its form. The narrower rules for second bytes hold
because a code point has as few bytes as it needs and is no surrogate. -/
theorem form_encodeChar (char : Char) : Form char.toNat (encodeChar char) := by
  have valid : char.toNat < 0xD800 ∨ 0xDFFF < char.toNat ∧ char.toNat < 0x110000 := char.valid
  unfold encodeChar
  simp only
  generalize char.toNat = code at valid
  have last := toNat_byte (0x80 + code % 0x40) (by omega)
  have middle := toNat_byte (0x80 + code / 0x40 % 0x40) (by omega)
  split
  · have lead := toNat_byte code (by omega)
    exact .one _ (by omega) (by omega)
  split
  · have lead := toNat_byte (0xC0 + code / 0x40) (by omega)
    exact .two _ _ (by omega) (by omega) (by rw [isSecond_iff, isTail_iff]; omega) (by omega)
  split
  · have lead := toNat_byte (0xE0 + code / 0x1000) (by omega)
    exact .three _ _ _ (by omega) (by omega) (by rw [isSecond_iff, isTail_iff]; omega)
      (by rw [isTail_iff]; omega) (by omega)
  · have lead := toNat_byte (0xF0 + code / 0x40000) (by omega)
    have second := toNat_byte (0x80 + code / 0x1000 % 0x40) (by omega)
    exact .four _ _ _ _ (by omega) (by omega) (by rw [isSecond_iff, isTail_iff]; omega)
      (by rw [isTail_iff]; omega) (by rw [isTail_iff]; omega) (by omega)

/-- Decoding reads bytes of a form as the character with that code point and goes on
after them. -/
theorem Form.decodeFrom {code : Nat} {bytes : List UInt8} (form : Form code bytes)
    (position : Nat) (rest : List UInt8) :
    decodeFrom position (bytes ++ rest) =
      (charOf code :: ·) <$> decodeFrom (position + bytes.length) rest := by
  cases form with
  | one lead low value =>
    rw [List.cons_append, Utf8.decodeFrom.eq_def]
    simp [low, value]
  | two lead second low high follows value =>
    have large : ¬ lead.toNat < 0x80 := by omega
    have starts : ¬ (lead.toNat < 0xC2 ∨ 0xF5 ≤ lead.toNat) := by omega
    rw [List.cons_append, Utf8.decodeFrom.eq_def]
    simp [large, starts, follows, high, value]
  | three lead second third low high follows tail value =>
    have large : ¬ lead.toNat < 0x80 := by omega
    have starts : ¬ (lead.toNat < 0xC2 ∨ 0xF5 ≤ lead.toNat) := by omega
    have longer : ¬ lead.toNat < 0xE0 := by omega
    rw [List.cons_append, Utf8.decodeFrom.eq_def]
    simp [large, starts, follows, longer, tail, high, value]
  | four lead second third fourth low high follows tail tail' value =>
    have large : ¬ lead.toNat < 0x80 := by omega
    have starts : ¬ (lead.toNat < 0xC2 ∨ 0xF5 ≤ lead.toNat) := by omega
    have longer : ¬ lead.toNat < 0xE0 := by omega
    have longest : ¬ lead.toNat < 0xF0 := by omega
    rw [List.cons_append, Utf8.decodeFrom.eq_def]
    simp [large, starts, follows, longer, tail, longest, tail', value]

/-- The bytes of two texts in a row are the bytes of each in a row. -/
theorem encode_append (first second : Text) :
    encode (first ++ second) = encode first ++ encode second := by
  simp [encode]

/-- The bytes of a character come before those of the text after it. -/
theorem encode_cons (char : Char) (rest : Text) :
    encode (char :: rest) = encodeChar char ++ encode rest := by
  simp [encode]

/-- Decoding the bytes of a character gives the character. -/
theorem decodeFrom_encodeChar (position : Nat) (char : Char) (rest : List UInt8) :
    decodeFrom position (encodeChar char ++ rest) =
      (char :: ·) <$> decodeFrom (position + (encodeChar char).length) rest := by
  have read := (form_encodeChar char).decodeFrom position rest
  rwa [charOf, Char.ofNat_toNat] at read

/-- Decoding the bytes of a text gives the text, wherever they stand. -/
theorem decodeFrom_encode (position : Nat) (text : Text) :
    decodeFrom position (encode text) = .ok text := by
  induction text generalizing position with
  | nil => rfl
  | cons char rest inductionHypothesis =>
    rw [encode_cons, decodeFrom_encodeChar, inductionHypothesis]
    rfl

/-- What was encoded can be decoded. -/
theorem decode_encode (text : Text) : decode (encode text) = .ok text :=
  decodeFrom_encode 0 text

/-- How many tail bytes follow a lead. -/
def following (lead : UInt8) : Nat :=
  if lead.toNat < 0x80 then 0
  else if lead.toNat < 0xE0 then 1
  else if lead.toNat < 0xF0 then 2
  else 3

/-- Bytes of a form are a lead, which is no tail byte, and as many tail bytes as it
asks for. -/
theorem Form.lead {code : Nat} {bytes : List UInt8} (form : Form code bytes) :
    ∃ lead tails, bytes = lead :: tails ∧ isTail lead = false ∧
      tails.length = following lead ∧ ∀ byte ∈ tails, isTail byte = true := by
  cases form with
  | one lead low _ =>
    refine ⟨lead, [], rfl, (isTail_eq_false_iff lead).mpr (by omega), ?_, by simp⟩
    simp [following, low]
  | two lead second low high follows _ =>
    refine ⟨lead, [second], rfl, (isTail_eq_false_iff lead).mpr (by omega), ?_, ?_⟩
    · have large : ¬ lead.toNat < 0x80 := by omega
      simp [following, large, high]
    · simp [((isSecond_iff lead second).mp follows).1]
  | three lead second third low high follows tail _ =>
    refine ⟨lead, [second, third], rfl, (isTail_eq_false_iff lead).mpr (by omega), ?_, ?_⟩
    · have large : ¬ lead.toNat < 0x80 := by omega
      have longer : ¬ lead.toNat < 0xE0 := by omega
      simp [following, large, longer, high]
    · simp [((isSecond_iff lead second).mp follows).1, tail]
  | four lead second third fourth low high follows tail tail' _ =>
    refine ⟨lead, [second, third, fourth], rfl, (isTail_eq_false_iff lead).mpr (by omega), ?_, ?_⟩
    · have large : ¬ lead.toNat < 0x80 := by omega
      have longer : ¬ lead.toNat < 0xE0 := by omega
      have longest : ¬ lead.toNat < 0xF0 := by omega
      simp [following, large, longer, longest]
    · simp [((isSecond_iff lead second).mp follows).1, tail, tail']

/-- Different characters have different bytes. -/
theorem encodeChar_injective {first second : Char}
    (same : encodeChar first = encodeChar second) : first = second := by
  have read : ∀ char : Char, decode (encodeChar char) = .ok [char] := by
    intro char
    have read := decode_encode [char]
    rwa [encode_cons, show encode [] = [] from rfl, List.append_nil] at read
  have texts := read first
  rw [same, read second] at texts
  exact (List.cons.inj (Except.ok.inj texts)).1.symm

/-- The bytes of a character are not the start of those of another. The leads are the
same, so as many bytes follow. -/
theorem encodeChar_append_inj {first second : Char} {rest rest' : List UInt8}
    (same : encodeChar first ++ rest = encodeChar second ++ rest') :
    first = second ∧ rest = rest' := by
  obtain ⟨lead, tails, form, _, count, _⟩ := (form_encodeChar first).lead
  obtain ⟨lead', tails', form', _, count', _⟩ := (form_encodeChar second).lead
  have leads : lead = lead' := by
    rw [form, form'] at same
    exact (List.cons.inj same).1
  have lengths : (encodeChar first).length = (encodeChar second).length := by
    rw [form, form', List.length_cons, List.length_cons, count, count', leads]
  obtain ⟨bytes, rests⟩ := List.append_inj same lengths
  exact ⟨encodeChar_injective bytes, rests⟩

/-- A text starts with another exactly if its bytes start with those of the other. -/
theorem encode_prefix_iff (front text : Text) :
    encode front <+: encode text ↔ front <+: text := by
  constructor
  · intro starts
    induction front generalizing text with
    | nil => exact List.nil_prefix
    | cons char rest inductionHypothesis =>
      obtain ⟨after, whole⟩ := starts
      rw [encode_cons, List.append_assoc] at whole
      cases text with
      | nil =>
        obtain ⟨lead, tails, form, _⟩ := (form_encodeChar char).lead
        rw [form] at whole
        cases whole
      | cons char' rest' =>
        rw [encode_cons] at whole
        obtain ⟨rfl, rests⟩ := encodeChar_append_inj whole
        exact List.cons_prefix_cons.mpr ⟨rfl, inductionHypothesis rest' ⟨after, rests⟩⟩
  · rintro ⟨after, rfl⟩
    rw [encode_append]
    exact List.prefix_append _ _

/-- The bytes of a text do not start with a tail byte. -/
theorem eq_nil_of_tail {pattern : Text} {byte : UInt8} {after rest : List UInt8}
    (tail : isTail byte = true) (same : encode pattern ++ after = byte :: rest) :
    pattern = [] := by
  cases pattern with
  | nil => rfl
  | cons char others =>
    obtain ⟨lead, tails, form, notTail, _⟩ := (form_encodeChar char).lead
    rw [encode_cons, form] at same
    rw [← (List.cons.inj same).1, notTail] at tail
    cases tail

/-- Where the bytes of a text occur among those of another, the text itself occurs.

Induct over the text that is searched. Bytes that occur later than its first character
occur among those of the rest. Bytes that start inside the first character would start
with a tail byte. -/
theorem exists_of_encode_eq {pattern text : Text} {before after : List UInt8}
    (nonempty : pattern ≠ []) (whole : before ++ (encode pattern ++ after) = encode text) :
    ∃ front back, text = front ++ (pattern ++ back) ∧ encode front = before := by
  induction text generalizing before with
  | nil =>
    obtain ⟨_, empty⟩ := List.append_eq_nil_iff.mp whole
    have starts : encode pattern <+: encode [] := ⟨after, empty⟩
    exact absurd (List.prefix_nil.mp ((encode_prefix_iff pattern []).mp starts)) nonempty
  | cons char rest inductionHypothesis =>
    rw [encode_cons] at whole
    rcases List.append_eq_append_iff.mp whole with ⟨inside, cut, remaining⟩ | ⟨later, rfl, remaining⟩
    · cases before with
      | nil =>
        have starts : encode pattern <+: encode (char :: rest) :=
          ⟨after, by rw [encode_cons]; exact whole⟩
        obtain ⟨back, split⟩ := (encode_prefix_iff pattern _).mp starts
        exact ⟨[], back, split.symm, rfl⟩
      | cons first more =>
        cases inside with
        | nil =>
          obtain ⟨front, back, split, empty⟩ := @inductionHypothesis [] remaining
          refine ⟨char :: front, back, by rw [split]; rfl, ?_⟩
          rw [encode_cons, empty, cut, List.append_nil, List.append_nil]
        | cons byte others =>
          -- The pattern would start inside the first character.
          obtain ⟨lead, tails, form, _, _, isTails⟩ := (form_encodeChar char).lead
          have within : more ++ byte :: others = tails := by
            rw [form] at cut
            exact (List.cons.inj cut).2.symm
          have tail := isTails byte (by rw [← within]; simp)
          exact absurd (eq_nil_of_tail tail remaining) nonempty
    · obtain ⟨front, back, split, bytes⟩ := inductionHypothesis remaining.symm
      refine ⟨char :: front, back, by rw [split]; rfl, ?_⟩
      rw [encode_cons, bytes]

/-- A text occurs in another exactly if its bytes occur among those of the other. -/
theorem encode_infix_iff (pattern text : Text) :
    encode pattern <:+: encode text ↔ pattern <:+: text := by
  constructor
  · rintro ⟨before, after, whole⟩
    by_cases empty : pattern = []
    · rw [empty]
      exact List.nil_infix
    · rw [List.append_assoc] at whole
      obtain ⟨front, back, split, _⟩ := exists_of_encode_eq empty whole
      exact ⟨front, back, by rw [split, List.append_assoc]⟩
  · rintro ⟨before, after, rfl⟩
    rw [encode_append, encode_append]
    exact ⟨encode before, encode after, rfl⟩

/-- A byte of the first half stands for itself. -/
theorem encodeChar_of_ascii {char : Char} {byte : UInt8} (inside : byte ∈ encodeChar char)
    (ascii : byte.toNat < 0x80) : encodeChar char = [byte] ∧ char.toNat = byte.toNat := by
  have form := form_encodeChar char
  obtain ⟨lead, tails, bytes, _, count, isTails⟩ := form.lead
  have single : encodeChar char = [byte] := by
    rw [bytes] at inside ⊢
    rcases List.mem_cons.mp inside with rfl | tail
    · have none : tails.length = 0 := count.trans (if_pos ascii)
      rw [List.length_eq_zero_iff.mp none]
    · have large := (isTail_iff byte).mp (isTails byte tail)
      omega
  rw [single] at form
  cases form with
  | one _ _ value => exact ⟨single, value⟩

/-- The last byte of a character. -/
def lastByte (char : Char) : UInt8 :=
  if char.toNat < 0x80 then UInt8.ofNat char.toNat else UInt8.ofNat (0x80 + char.toNat % 0x40)

/-- It stands at the end of the character's bytes. -/
theorem getLast?_encodeChar (char : Char) : (encodeChar char).getLast? = some (lastByte char) := by
  unfold encodeChar lastByte
  dsimp only
  split
  · rfl
  · split
    · rfl
    · split
      · rfl
      · rfl

/-- The last byte of a text is that of its last character. -/
theorem getLast?_encode {text : Text} {last : Char} (ends : text.getLast? = some last) :
    (encode text).getLast? = some (lastByte last) := by
  obtain ⟨front, rfl⟩ := List.getLast?_eq_some_iff.mp ends
  rw [encode_append, encode_cons, List.getLast?_append]
  rw [show encode [] = [] from rfl, List.append_nil, getLast?_encodeChar]
  rfl

/-- On its own the last byte of a character can be decoded only if there is no other. -/
theorem decode_lastByte (char : Char) :
    decode [lastByte char] =
      if char.toNat < 0x80 then .ok [char] else .error ⟨0, [lastByte char], .start⟩ := by
  split
  · next ascii =>
    have bytes : encode [char] = [lastByte char] := by
      rw [encode_cons, encodeChar, if_pos ascii, lastByte, if_pos ascii]
      rfl
    rw [← bytes, decode_encode]
  · next large =>
    have value : (lastByte char).toNat = 0x80 + char.toNat % 0x40 := by
      rw [lastByte, if_neg large]
      exact toNat_byte _ (by omega)
    have noAscii : ¬ (lastByte char).toNat < 0x80 := by omega
    have noStart : (lastByte char).toNat < 0xC2 ∨ 0xF5 ≤ (lastByte char).toNat := by omega
    rw [decode, decodeFrom.eq_def]
    simp only [noAscii, noStart, ↓reduceIte]

end RegionBuild.Utf8
