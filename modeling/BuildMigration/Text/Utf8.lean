/-!
# Decoding UTF-8

Files are read as UTF-8 and nothing else: no byte order mark is removed (it becomes U+FEFF)
and line endings stay as they are. Bytes that are not well-formed UTF-8 stop the reading at
the first *fault*, which is one of three:

* an *invalid start byte*: a byte from `0x80` to `0xC1` or from `0xF5` on, where a character
  should begin; the fault covers that byte;
* an *invalid continuation byte*: a byte after a lead byte that cannot continue it (including
  the second bytes that would give an overlong form, a surrogate or a code point above
  U+10FFFF); the fault covers the bytes before the bad one, from the lead byte on;
* an *unexpected end of data*: the bytes end in the middle of a character; the fault covers
  the bytes from the lead byte to the end.

A fault's message names the byte when it covers one, and the range of positions otherwise.

* `decode_toUTF8`: the encoding of a text decodes to that text.
-/

namespace BuildMigration.Text

/-- What is wrong with the bytes at a fault. -/
inductive DecodeReason where
  | invalidStart
  | invalidContinuation
  | unexpectedEnd
  deriving DecidableEq, Repr

/-- The first fault in bytes that are not UTF-8: the positions it covers, from `start` up to
    but not including `stop`, and the byte at `start`. -/
structure DecodeFault where
  /-- The position of the first byte of the fault. -/
  start : Nat
  /-- The position after the last byte of the fault. -/
  stop : Nat
  /-- The byte at `start`. -/
  byte : UInt8
  /-- What is wrong. -/
  reason : DecodeReason
  deriving DecidableEq, Repr

/-- The wording of a reason. -/
def DecodeReason.text : DecodeReason → String
  | .invalidStart => "invalid start byte"
  | .invalidContinuation => "invalid continuation byte"
  | .unexpectedEnd => "unexpected end of data"

/-- Two lower-case hex digits of a byte. -/
def byteHex (b : UInt8) : String :=
  let digit (n : Nat) : Char := if n < 10 then Char.ofNat (48 + n) else Char.ofNat (87 + n)
  String.ofList [digit (b.toNat / 16), digit (b.toNat % 16)]

/-- The wording of a fault. -/
def DecodeFault.message (f : DecodeFault) : String :=
  if f.stop = f.start + 1 then
    "'utf-8' codec can't decode byte 0x" ++ byteHex f.byte ++ " in position " ++
      toString f.start ++ ": " ++ f.reason.text
  else
    "'utf-8' codec can't decode bytes in position " ++ toString f.start ++ "-" ++
      toString (f.stop - 1) ++ ": " ++ f.reason.text

/-- Whether the byte continues a character: `0x80` to `0xBF`. -/
def isContinuation (b : UInt8) : Bool := 0x80 ≤ b && b ≤ 0xBF

/-- Whether the second byte `c` of a three-byte character led by `b` gives neither an overlong
    form nor a surrogate. -/
def secondOfThreeOk (b c : UInt8) : Bool :=
  isContinuation c && !(b == 0xE0 && c < 0xA0) && !(b == 0xED && 0xA0 ≤ c)

/-- Whether the second byte `c` of a four-byte character led by `b` gives neither an overlong
    form nor a code point above U+10FFFF. -/
def secondOfFourOk (b c : UInt8) : Bool :=
  isContinuation c && !(b == 0xF0 && c < 0x90) && !(b == 0xF4 && 0x90 ≤ c)

/-- The first fault of the bytes, whose first is at position `pos` and of which there are
    `pos + bs.length` in all. -/
def firstFault (bs : List UInt8) (pos : Nat) : Option DecodeFault :=
  match bs with
  | [] => none
  | b :: rest =>
    let total := pos + bs.length
    let cont (n : Nat) : Option DecodeFault := some ⟨pos, pos + n, b, .invalidContinuation⟩
    let atEnd : Option DecodeFault := some ⟨pos, total, b, .unexpectedEnd⟩
    if b < 0x80 then firstFault rest (pos + 1)
    else if b < 0xC2 then some ⟨pos, pos + 1, b, .invalidStart⟩
    else if b < 0xE0 then
      match rest with
      | [] => atEnd
      | c :: rest' => if isContinuation c then firstFault rest' (pos + 2) else cont 1
    else if b < 0xF0 then
      match rest with
      | [] => atEnd
      | [c] => if secondOfThreeOk b c then atEnd else cont 1
      | c :: d :: rest' =>
        if !secondOfThreeOk b c then cont 1
        else if !isContinuation d then cont 2
        else firstFault rest' (pos + 3)
    else if b < 0xF5 then
      match rest with
      | [] => atEnd
      | [c] => if secondOfFourOk b c then atEnd else cont 1
      | [c, d] =>
        if !secondOfFourOk b c then cont 1 else if !isContinuation d then cont 2 else atEnd
      | c :: d :: e :: rest' =>
        if !secondOfFourOk b c then cont 1
        else if !isContinuation d then cont 2
        else if !isContinuation e then cont 3
        else firstFault rest' (pos + 4)
    else some ⟨pos, pos + 1, b, .invalidStart⟩
termination_by bs.length

/-- The fault reported for bytes that are not UTF-8. -/
def faultOf (bytes : ByteArray) : DecodeFault :=
  (firstFault bytes.toList 0).getD ⟨0, 1, bytes.toList.headD 0, .invalidStart⟩

/-- The text that the bytes encode, or the first fault. -/
def decode (bytes : ByteArray) : Except DecodeFault String :=
  match String.fromUTF8? bytes with
  | some s => .ok s
  | none => .error (faultOf bytes)

theorem decode_toUTF8 (s : String) : decode s.toUTF8 = .ok s := by
  simp only [decode, String.toUTF8_eq_toByteArray, String.fromUTF8?, dif_pos s.isValidUTF8]
  rfl

end BuildMigration.Text
