import SchemaForge.Text.Quoted

/-!
# Bytes in base sixty-four

Four signs of six bits make three bytes. Signs outside the alphabet are passed
over, and equals signs complete a last group of two or three signs. What follows
a complete ending is not looked at; a text that ends inside a group has no bytes.
-/

namespace SchemaForge.Base64

/-- The six bits of a sign. -/
def sextet? (c : CodePoint) : Option Nat :=
  if c.isUpper then some (c.val - 'A'.toNat)
  else if c.isLower then some (c.val - 'a'.toNat + 26)
  else if c.isDigit then some (c.val - '0'.toNat + 52)
  else if c = '+' then some 62
  else if c = '/' then some 63
  else none

/-- Why a text spells no bytes. -/
inductive Fault where
  /-- A run of code points beyond the first 128, by its start and its length. -/
  | foreign (first : CodePoint) (start length : Nat)
  /-- The last group has only one sign; the number of signs up to it. -/
  | loneSign (count : Nat)
  /-- The last group has no ending. -/
  | openGroup
deriving DecidableEq

/-- The wording of a fault. -/
def Fault.message : Fault → Text
  | foreign first start length =>
    let whose : Text :=
      if length = 1 then
        Text.concat [" '", Text.numberEscape first, "' in position ", Text.ofNat start]
      else
        Text.concat ["s in position ", Text.ofNat start, "-", Text.ofNat (start + length - 1)]
    Text.concat ["failed to convert base64 data into ascii: 'ascii' codec can't encode character",
      whose, ": ordinal not in range(128)"]
  | loneSign count =>
    Text.concat ["failed to decode base64 data: Invalid base64-encoded string: number of data ",
      "characters (", Text.ofNat count, ") cannot be 1 more than a multiple of 4"]
  | openGroup => "failed to decode base64 data: Incorrect padding"

/-- The bytes of the signs from here on, given how many groups are complete, how many signs
of the current one have been seen, the bits of them that are left over, and how many equals
signs follow them. -/
def decodeFrom (groups seen left fills : Nat) : Text → Except Fault (List UInt8)
  | [] =>
    if seen = 0 then .ok []
    else if seen = 1 then .error (.loneSign (groups * 4 + 1))
    else .error .openGroup
  | c :: rest =>
    if c = '=' then
      if seen < 2 then decodeFrom groups seen left fills rest
      else if 4 ≤ seen + fills + 1 then .ok []
      else decodeFrom groups seen left (fills + 1) rest
    else
      match sextet? c with
      | none => decodeFrom groups seen left fills rest
      | some bits =>
        let byte (value : Nat) (others : Except Fault (List UInt8)) : Except Fault (List UInt8) :=
          others.map (UInt8.ofNat value :: ·)
        match seen with
        | 0 => decodeFrom groups 1 bits 0 rest
        | 1 => byte (left * 4 + bits / 16) (decodeFrom groups 2 (bits % 16) 0 rest)
        | 2 => byte (left * 16 + bits / 4) (decodeFrom groups 3 (bits % 4) 0 rest)
        | _ => byte (left * 64 + bits) (decodeFrom (groups + 1) 0 0 0 rest)

/-- A code point beyond the first 128. -/
def isForeign (c : CodePoint) : Bool := decide (0x80 ≤ c.val)

/-- The bytes that a text spells. -/
def decode (text : Text) : Except Fault (List UInt8) :=
  match text.dropWhile (fun c => !isForeign c) with
  | [] => decodeFrom 0 0 0 0 text
  | first :: rest =>
    let start := (text.takeWhile (fun c => !isForeign c)).length
    .error (.foreign first start ((first :: rest).takeWhile isForeign).length)

end SchemaForge.Base64
