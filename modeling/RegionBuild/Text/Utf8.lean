import RegionBuild.Text.Basic

/-!
# UTF-8

Files hold bytes; texts are their UTF-8 decodings. Decoding is strict: it stops
at the first byte sequence that no character has and says where that sequence
lies and what is wrong with it. Overlong forms, surrogates and values above the
last code point are refused at the first byte that rules them out.
-/

namespace RegionBuild.Utf8

/-- The UTF-8 bytes of one character. -/
def encodeChar (char : Char) : List UInt8 :=
  let code := char.toNat
  if code < 0x80 then
    [UInt8.ofNat code]
  else if code < 0x800 then
    [UInt8.ofNat (0xC0 + code / 0x40), UInt8.ofNat (0x80 + code % 0x40)]
  else if code < 0x10000 then
    [UInt8.ofNat (0xE0 + code / 0x1000), UInt8.ofNat (0x80 + code / 0x40 % 0x40),
     UInt8.ofNat (0x80 + code % 0x40)]
  else
    [UInt8.ofNat (0xF0 + code / 0x40000), UInt8.ofNat (0x80 + code / 0x1000 % 0x40),
     UInt8.ofNat (0x80 + code / 0x40 % 0x40), UInt8.ofNat (0x80 + code % 0x40)]

/-- The UTF-8 bytes of a text. -/
def encode (text : Text) : List UInt8 := text.flatMap encodeChar

/-- How many bytes a text takes. -/
def size (text : Text) : Nat := (encode text).length

/-- Why a byte sequence is not the encoding of a character. -/
inductive Reason where
  /-- No character starts with this byte. -/
  | start
  /-- The byte after the sequence does not continue it. -/
  | continuation
  /-- The bytes end inside the sequence. -/
  | ended
deriving DecidableEq, Repr

/-- The first undecodable sequence: its position, its bytes and the reason. -/
structure Fault where
  position : Nat
  bytes : List UInt8
  reason : Reason
deriving DecidableEq, Repr

/-- Whether a byte may follow a lead byte that has no narrower rule. -/
def isTail (byte : UInt8) : Bool := decide (0x80 ≤ byte.toNat ∧ byte.toNat < 0xC0)

/-- Whether a byte may stand second after the lead. The narrower rules keep out
overlong forms, surrogates and values above the last code point. -/
def isSecond (lead second : UInt8) : Bool :=
  isTail second &&
    match lead.toNat with
    | 0xE0 => decide (0xA0 ≤ second.toNat)
    | 0xED => decide (second.toNat < 0xA0)
    | 0xF0 => decide (0x90 ≤ second.toNat)
    | 0xF4 => decide (second.toNat < 0x90)
    | _ => true

/-- The character with the given code point. -/
def charOf (code : Nat) : Char := Char.ofNat code

/-- Decode the bytes that stand at a position of a longer sequence. -/
def decodeFrom (position : Nat) : List UInt8 → Except Fault Text
  | [] => .ok []
  | lead :: rest =>
    if lead.toNat < 0x80 then
      (charOf lead.toNat :: ·) <$> decodeFrom (position + 1) rest
    else if lead.toNat < 0xC2 ∨ 0xF5 ≤ lead.toNat then
      .error ⟨position, [lead], .start⟩
    else
      match rest with
      | [] => .error ⟨position, [lead], .ended⟩
      | second :: rest =>
        if !isSecond lead second then
          .error ⟨position, [lead], .continuation⟩
        else if lead.toNat < 0xE0 then
          (charOf (lead.toNat % 0x20 * 0x40 + second.toNat % 0x40) :: ·) <$>
            decodeFrom (position + 2) rest
        else
          match rest with
          | [] => .error ⟨position, [lead, second], .ended⟩
          | third :: rest =>
            if !isTail third then
              .error ⟨position, [lead, second], .continuation⟩
            else if lead.toNat < 0xF0 then
              (charOf (lead.toNat % 0x10 * 0x1000 + second.toNat % 0x40 * 0x40 +
                third.toNat % 0x40) :: ·) <$> decodeFrom (position + 3) rest
            else
              match rest with
              | [] => .error ⟨position, [lead, second, third], .ended⟩
              | fourth :: rest =>
                if !isTail fourth then
                  .error ⟨position, [lead, second, third], .continuation⟩
                else
                  (charOf (lead.toNat % 0x08 * 0x40000 + second.toNat % 0x40 * 0x1000 +
                    third.toNat % 0x40 * 0x40 + fourth.toNat % 0x40) :: ·) <$>
                    decodeFrom (position + 4) rest

/-- The text that the bytes encode, or the first fault in them. -/
def decode (bytes : List UInt8) : Except Fault Text := decodeFrom 0 bytes

/-- The wording of a reason. -/
def Reason.message : Reason → String
  | .start => "invalid start byte"
  | .continuation => "invalid continuation byte"
  | .ended => "unexpected end of data"

/-- A byte as two lower-case hexadecimal digits. -/
def hexByte (byte : UInt8) : Text :=
  [Nat.digitChar (byte.toNat / 16), Nat.digitChar (byte.toNat % 16)]

/-- One bad byte is shown itself; of a longer sequence only the positions are. -/
def Fault.message (fault : Fault) : String :=
  let place :=
    match fault.bytes with
    | [byte] => s!"byte 0x{String.ofList (hexByte byte)} in position {fault.position}"
    | bytes => s!"bytes in position {fault.position}-{fault.position + bytes.length - 1}"
  s!"'utf-8' codec can't decode {place}: {fault.reason.message}"

/-- Decode with every undecodable byte written out as a four-character escape. -/
def decodeShowing : Nat → List UInt8 → Text
  | 0, _ => []
  | fuel + 1, bytes =>
    match decode bytes with
    | .ok text => text
    | .error fault =>
      let sound := match decode (bytes.take fault.position) with
        | .ok text => text
        | .error _ => []
      let shown := fault.bytes.flatMap fun byte => '\\' :: 'x' :: hexByte byte
      sound ++ shown ++ decodeShowing fuel (bytes.drop (fault.position + fault.bytes.length))

/-- The text of the bytes, in which undecodable bytes are written as escapes. -/
def decodeVisible (bytes : List UInt8) : Text := decodeShowing (bytes.length + 1) bytes

end RegionBuild.Utf8
