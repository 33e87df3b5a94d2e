/-!
# Code points and texts

A text is a list of Unicode code points. Surrogates are code points like any
other here: a schema may spell one with an escape, and two neighbours are never
joined into one character. Every name, message, path and generated module of the
library is such a text, so a length or an offset always counts code points.

Nothing in this module depends on a character property beyond the numeric value;
classes of characters have modules of their own.
-/

namespace SchemaForge

/-- A Unicode code point, surrogates included. -/
structure CodePoint where
  /-- The number of the code point. -/
  val : Nat
  /-- No code point lies beyond the sixteenth supplementary plane. -/
  valid : val < 0x110000
deriving DecidableEq

namespace CodePoint

/-- Every Unicode scalar value is a code point of the same number. -/
def ofChar (c : Char) : CodePoint :=
  ⟨c.val.toNat, by
    rcases c.valid with below | above
    · have bound : c.val.toNat < 0xD800 := below
      omega
    · have bound : c.val.toNat < 0x110000 := above.2
      omega⟩

/-- The code point of a number, and U+FFFD for a number beyond the last one. -/
def ofNat (n : Nat) : CodePoint :=
  if valid : n < 0x110000 then ⟨n, valid⟩ else ⟨0xFFFD, by decide⟩

/-- A surrogate is half of a pair in another encoding and no character by itself. -/
def isSurrogate (c : CodePoint) : Bool :=
  0xD800 ≤ c.val && c.val ≤ 0xDFFF

/-- The code point lies between two given characters, ends included. -/
def between (first last : Char) (c : CodePoint) : Bool :=
  first.toNat ≤ c.val && c.val ≤ last.toNat

/-- Whether one of some ranges of numbers, ends included, holds the code point. -/
def inRanges (ranges : List (Nat × Nat)) (c : CodePoint) : Bool :=
  ranges.any (fun range => range.1 ≤ c.val && c.val ≤ range.2)

/-- A decimal digit of ASCII. -/
def isDigit (c : CodePoint) : Bool := c.between '0' '9'

/-- A capital letter of ASCII. -/
def isUpper (c : CodePoint) : Bool := c.between 'A' 'Z'

/-- A small letter of ASCII. -/
def isLower (c : CodePoint) : Bool := c.between 'a' 'z'

/-- A hexadecimal digit of either case. -/
def isHexDigit (c : CodePoint) : Bool :=
  c.isDigit || c.between 'a' 'f' || c.between 'A' 'F'

/-- The value of a hexadecimal digit, and zero for any other code point. -/
def hexValue (c : CodePoint) : Nat :=
  if c.isDigit then c.val - '0'.toNat
  else if c.between 'a' 'f' then c.val - 'a'.toNat + 10
  else if c.between 'A' 'F' then c.val - 'A'.toNat + 10
  else 0

instance : Coe Char CodePoint := ⟨ofChar⟩

/-- The double quote. -/
def quote : CodePoint := ⟨0x22, by decide⟩

/-- The apostrophe. -/
def apostrophe : CodePoint := ⟨0x27, by decide⟩

/-- The backslash, which opens an escape. -/
def backslash : CodePoint := ⟨0x5C, by decide⟩

/-- The line feed, the only code point at which positions count a new line. -/
def lineFeed : CodePoint := ⟨0x0A, by decide⟩

/-- The carriage return. -/
def carriageReturn : CodePoint := ⟨0x0D, by decide⟩

/-- The tab. -/
def tab : CodePoint := ⟨0x09, by decide⟩

instance : Inhabited CodePoint := ⟨ofChar ' '⟩

end CodePoint

/-- A text is the list of its code points. -/
abbrev Text := List CodePoint

namespace Text

/-- The code points of a string, one for each of its characters. -/
def ofString (s : String) : Text := s.toList.map CodePoint.ofChar

instance : Coe String Text := ⟨ofString⟩

/-- The pieces one after another. -/
def concat (pieces : List Text) : Text := pieces.flatten

/-- The parts with the separator between neighbours. -/
def join (separator : Text) : List Text → Text
  | [] => []
  | [part] => part
  | part :: parts => part ++ separator ++ join separator parts

/-- The parts between occurrences of a code point. There is always at least one
part, and `join` with that code point gives the text back. -/
def splitOn (separator : CodePoint) : Text → List Text
  | [] => [[]]
  | c :: rest =>
    if c = separator then [] :: splitOn separator rest
    else
      match splitOn separator rest with
      | [] => [[c]]
      | part :: parts => (c :: part) :: parts

/-- Whether the text begins with `lead`. -/
def startsWith : Text → Text → Bool
  | _, [] => true
  | [], _ :: _ => false
  | c :: rest, d :: lead => c = d && startsWith rest lead

/-- What follows `lead`, if the text begins with it. -/
def after? : Text → Text → Option Text
  | text, [] => some text
  | [], _ :: _ => none
  | c :: rest, d :: lead => if c = d then after? rest lead else none

/-- A text that follows a lead is exactly as much shorter as the lead is long. -/
theorem length_of_after? {text lead rest : Text} (found : after? text lead = some rest) :
    rest.length + lead.length = text.length := by
  induction text generalizing lead with
  | nil =>
    cases lead with
    | nil => simp [after?] at found; simp [← found]
    | cons d lead => simp [after?] at found
  | cons c text inductionHypothesis =>
    cases lead with
    | nil => simp [after?] at found; simp [← found]
    | cons d lead =>
      simp only [after?] at found
      split at found
      · have shorter := inductionHypothesis found
        simp only [List.length_cons]
        omega
      · cases found

/-- Every occurrence of a pattern is replaced, found from the left and without
overlap. The pattern is given by its first code point and its further ones, so
that it cannot be empty. -/
def replace (first : CodePoint) (further : Text) (substitute : Text) : Text → Text
  | [] => []
  | c :: rest =>
    if c = first then
      match found : after? rest further with
      | some tail =>
        have := length_of_after? found
        substitute ++ replace first further substitute tail
      | none => c :: replace first further substitute rest
    else c :: replace first further substitute rest
termination_by text => text.length
decreasing_by
  · simp only [List.length_cons]
    omega
  all_goals simp

/-- Whether a code point occurs. -/
def contains (c : CodePoint) (text : Text) : Bool := text.any (· = c)

/-- The text without the code points of a class at its start. -/
def trimStart (drops : CodePoint → Bool) (text : Text) : Text := text.dropWhile drops

/-- The text without the code points of a class at its end. -/
def trimEnd (drops : CodePoint → Bool) (text : Text) : Text :=
  (text.reverse.dropWhile drops).reverse

/-- The text without the code points of a class at either end. -/
def trim (drops : CodePoint → Bool) (text : Text) : Text :=
  trimEnd drops (trimStart drops text)

/-- A run of blanks. -/
def blanks (count : Nat) : Text := List.replicate count (' ' : Char)

/-- Texts are ordered by the code points at their first difference; a proper
beginning comes first. -/
def le : Text → Text → Bool
  | [], _ => true
  | _ :: _, [] => false
  | c :: rest, d :: others => c.val < d.val || (c.val == d.val && le rest others)

/-- The distinct texts of a list, each at its first occurrence. -/
def distinct : List Text → List Text
  | [] => []
  | text :: texts => text :: (distinct texts).filter (fun other => decide (other ≠ text))

/-- The decimal digits of a natural number. -/
def ofNat (n : Nat) : Text := (Nat.toDigits 10 n).map CodePoint.ofChar

/-- The decimal digits of an integer, with a sign in front if it is negative. -/
def ofInt : Int → Text
  | .ofNat n => ofNat n
  | .negSucc n => CodePoint.ofChar '-' :: ofNat (n + 1)

/-- The digits of a number in a base up to sixteen, padded with zeros on the left
to at least the given width. -/
def padded (base width n : Nat) : Text :=
  let digits := (Nat.toDigits base n).map CodePoint.ofChar
  List.replicate (width - digits.length) (CodePoint.ofChar '0') ++ digits

/-- The number that a row of digits spells in a base. -/
def toNat (base : Nat) (digits : Text) : Nat :=
  digits.foldl (fun value digit => base * value + digit.hexValue) 0

end Text

end SchemaForge
