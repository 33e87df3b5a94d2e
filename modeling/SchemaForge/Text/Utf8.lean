import SchemaForge.Text.Basic

/-!
# UTF-8

Bytes and texts. Decoding refuses overlong forms, surrogates and numbers beyond
the last code point; a fault tells the bytes at fault, which are the longest
beginning of a well-formed sequence, and what was wrong with the next one.
Encoding refuses surrogates, because no well-formed bytes stand for them.
-/

namespace SchemaForge.Utf8

/-- What was wrong with bytes that are no UTF-8. -/
inductive DecodeReason where
  /-- No sequence begins with this byte. -/
  | invalidStart
  /-- The sequence does not go on with this byte. -/
  | invalidContinuation
  /-- The sequence is not finished. -/
  | unexpectedEnd
deriving DecidableEq

/-- The wording of a reason. -/
def DecodeReason.message : DecodeReason → Text
  | invalidStart => "invalid start byte"
  | invalidContinuation => "invalid continuation byte"
  | unexpectedEnd => "unexpected end of data"

/-- Bytes that are no UTF-8. -/
structure DecodeFault where
  /-- How many bytes lie before the ones at fault. -/
  start : Nat
  /-- How many bytes are at fault. -/
  count : Nat
  /-- The first byte at fault. -/
  byte : UInt8
  /-- What was wrong. -/
  reason : DecodeReason
deriving DecidableEq

/-- The wording of a fault: a single byte is shown, several are given by position. -/
def DecodeFault.message (fault : DecodeFault) : Text :=
  let bytes : Text :=
    if fault.count = 1 then
      Text.concat ["byte 0x", Text.padded 16 2 fault.byte.toNat, " in position ",
        Text.ofNat fault.start]
    else
      Text.concat ["bytes in position ", Text.ofNat fault.start, "-",
        Text.ofNat (fault.start + fault.count - 1)]
  Text.concat ["'utf-8' codec can't decode ", bytes, ": ", fault.reason.message]

/-- A byte inside a sequence. -/
def isContinuation (byte : UInt8) : Bool := 0x80 ≤ byte && byte < 0xC0

/-- The low six bits of a byte inside a sequence. -/
def payload (byte : UInt8) : Nat := byte.toNat % 64

/-- The range of the second byte of a sequence, by its first byte. It excludes
overlong forms, surrogates and numbers beyond the last code point. -/
def secondRange (first : UInt8) : Nat × Nat :=
  if first = 0xE0 then (0xA0, 0xBF)
  else if first = 0xED then (0x80, 0x9F)
  else if first = 0xF0 then (0x90, 0xBF)
  else if first = 0xF4 then (0x80, 0x8F)
  else (0x80, 0xBF)

/-- Whether a byte may be the second of a sequence. -/
def isSecond (first second : UInt8) : Bool :=
  (secondRange first).1 ≤ second.toNat && second.toNat ≤ (secondRange first).2

/-- One code point at the start of some bytes, and how many bytes it takes; else how
many bytes are at fault and why. -/
def decodeOne (first : UInt8) (rest : List UInt8) :
    Except (Nat × DecodeReason) (CodePoint × Nat) :=
  if first < 0x80 then .ok (CodePoint.ofNat first.toNat, 1)
  else if first < 0xC2 || 0xF4 < first then .error (1, .invalidStart)
  else
    match rest with
    | [] => .error (1, .unexpectedEnd)
    | second :: rest =>
      if !isSecond first second then .error (1, .invalidContinuation)
      else if first < 0xE0 then
        .ok (CodePoint.ofNat (first.toNat % 32 * 64 + payload second), 2)
      else
        match rest with
        | [] => .error (2, .unexpectedEnd)
        | third :: rest =>
          if !isContinuation third then .error (2, .invalidContinuation)
          else if first < 0xF0 then
            .ok (CodePoint.ofNat ((first.toNat % 16 * 64 + payload second) * 64 + payload third), 3)
          else
            match rest with
            | [] => .error (3, .unexpectedEnd)
            | fourth :: _ =>
              if !isContinuation fourth then .error (3, .invalidContinuation)
              else
                .ok (CodePoint.ofNat
                  (((first.toNat % 8 * 64 + payload second) * 64 + payload third) * 64 +
                    payload fourth), 4)

/-- The code points of the rest of some bytes, of which `start` lie before. -/
def decodeFrom (start : Nat) : List UInt8 → Except DecodeFault Text
  | [] => .ok []
  | first :: rest =>
    match decodeOne first rest with
    | .error (count, reason) => .error ⟨start, count, first, reason⟩
    | .ok (c, width) =>
      match decodeFrom (start + width) (rest.drop (width - 1)) with
      | .error fault => .error fault
      | .ok text => .ok (c :: text)
termination_by bytes => bytes.length
decreasing_by
  simp only [List.length_drop, List.length_cons]
  omega

/-- The text of some bytes. -/
def decode (bytes : List UInt8) : Except DecodeFault Text := decodeFrom 0 bytes

/-- The bytes of a code point that is no surrogate. -/
def encodeOne (c : CodePoint) : List UInt8 :=
  let n := c.val
  let tail (shift : Nat) : UInt8 := UInt8.ofNat (0x80 + n / shift % 64)
  if n < 0x80 then [UInt8.ofNat n]
  else if n < 0x800 then [UInt8.ofNat (0xC0 + n / 64), tail 1]
  else if n < 0x10000 then [UInt8.ofNat (0xE0 + n / 4096), tail 64, tail 1]
  else [UInt8.ofNat (0xF0 + n / 262144), tail 4096, tail 64, tail 1]

/-- Surrogates that have no bytes. -/
structure EncodeFault where
  /-- How many code points lie before the ones at fault. -/
  start : Nat
  /-- How many code points are at fault. -/
  count : Nat
  /-- The first of them. -/
  first : CodePoint
deriving DecidableEq

/-- The wording of a fault: a single code point is shown, several are given by
position. -/
def EncodeFault.message (fault : EncodeFault) : Text :=
  let characters : Text :=
    if fault.count = 1 then
      Text.concat ["character '\\u", Text.padded 16 4 fault.first.val, "' in position ",
        Text.ofNat fault.start]
    else
      Text.concat ["characters in position ", Text.ofNat fault.start, "-",
        Text.ofNat (fault.start + fault.count - 1)]
  Text.concat ["'utf-8' codec can't encode ", characters, ": surrogates not allowed"]

/-- The bytes of the rest of a text, of which `start` code points lie before. The
fault covers the whole run of surrogates. -/
def encodeFrom (start : Nat) : Text → Except EncodeFault (List UInt8)
  | [] => .ok []
  | c :: rest =>
    if c.isSurrogate then
      .error ⟨start, (rest.takeWhile CodePoint.isSurrogate).length + 1, c⟩
    else
      match encodeFrom (start + 1) rest with
      | .error fault => .error fault
      | .ok bytes => .ok (encodeOne c ++ bytes)

/-- The bytes of a text. -/
def encode (text : Text) : Except EncodeFault (List UInt8) := encodeFrom 0 text

/-- A surrogate that stands for a byte of a file name that is no UTF-8. -/
def isEscapedByte (c : CodePoint) : Bool := 0xDC80 ≤ c.val && c.val ≤ 0xDCFF

/-- The bytes of the rest of a file name, of which `start` code points lie before. Some
surrogates stand for bytes of their own; any other is at fault, with the run of surrogates
behind it. -/
def encodeNameFrom (start : Nat) : Text → Except EncodeFault (List UInt8)
  | [] => .ok []
  | c :: rest =>
    if isEscapedByte c then
      (encodeNameFrom (start + 1) rest).map (UInt8.ofNat (c.val - 0xDC00) :: ·)
    else if c.isSurrogate then
      .error ⟨start, (rest.takeWhile CodePoint.isSurrogate).length + 1, c⟩
    else (encodeNameFrom (start + 1) rest).map (encodeOne c ++ ·)

/-- The bytes of a file name. -/
def encodeName (name : Text) : Except EncodeFault (List UInt8) := encodeNameFrom 0 name

/-- The file name of some bytes. A byte that belongs to no code point is a surrogate. -/
def decodeName : List UInt8 → Text
  | [] => []
  | first :: rest =>
    match decodeOne first rest with
    | .ok (c, width) => c :: decodeName (rest.drop (width - 1))
    | .error _ => CodePoint.ofNat (0xDC00 + first.toNat) :: decodeName rest
termination_by bytes => bytes.length
decreasing_by
  all_goals simp only [List.length_drop, List.length_cons]
  all_goals omega

/-- The one spelling of a file name among those with the same bytes that reading the bytes
gives back. -/
def canonicalName (name : Text) : Text :=
  if name.any isEscapedByte then
    match encodeName name with
    | .ok bytes => decodeName bytes
    | .error _ => name
  else name

end SchemaForge.Utf8
