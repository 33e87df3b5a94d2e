import SchemaForge.Data.Key

/-!
# Members of sets

A set lists its members by their places in a table. The table has a power of two of
places, of which more than half are free. A member stands at the place that its residue
names; if that place and those right behind it are taken, at a later one. The residue of
a number is its exact value modulo a prime, so that equal numbers of different kinds
have one place. Members whose place is not fixed by their value stay in the order in which
they were given.
-/

namespace SchemaForge

/-- The prime to which residues are taken. -/
def Residue.modulus : Nat := Nat.pow 2 61 - 1

/-- The residue of an infinite number. -/
def Residue.infinite : Int := 314159

namespace ExactNumber

/-- The residue of a number, with its sign; minus one is never one. The modulus is one less
than a power of two, so that the powers of two repeat modulo it. -/
def residue? : ExactNumber → Option Int
  | finite significand exponent =>
    let power := Nat.pow 2 (exponent % 61).toNat
    let size := significand.natAbs * power % Residue.modulus
    let signed := Numeral.signed (significand < 0) size
    some (if signed = -1 then -2 else signed)
  | infinite negative => some (if negative then -Residue.infinite else Residue.infinite)
  | undefined => none

end ExactNumber

namespace Data

/-- The residue of a member, as a word of sixty-four bits, if its value fixes one. -/
def residue? : Data → Option Nat
  | text [] | bytes [] => some 0
  | member => do
    let number ← member.number?
    let residue ← number.residue?
    pure (residue % Int.ofNat (Nat.pow 2 64)).toNat

/-- The number of places for some members: eight for up to four, else the first power of two
above their double. -/
def placesFor (count : Nat) : Nat :=
  if count ≤ 4 then 8 else Nat.pow 2 ((2 * count).log2 + 1)

/-- The places that are tried together: ten in a row if the table has them, else one. -/
def neighbours (places first : Nat) : List Nat :=
  if first + 10 ≤ places then List.range' first 10 else [first]

/-- The place for a residue. Where all neighbours of a place are taken, the next place to
try depends on more and more of the residue; once it is used up, every place has its turn, so
that the number of tries is bounded. -/
def freePlace (places : Nat) (taken : List Nat) : (tries place rest : Nat) → Nat
  | 0, place, _ => place
  | tries + 1, place, rest =>
    match (neighbours places place).find? (fun other => !taken.contains other) with
    | some free => free
    | none =>
      let rest := rest / 32
      freePlace places taken tries ((place * 5 + 1 + rest) % places) rest

/-- The places of some residues, each in front of those given before it. -/
def placesOf (places : Nat) (residues : List Nat) : List Nat :=
  residues.foldl (fun taken residue =>
    freePlace places taken (places + 13) (residue % places) residue :: taken) []

/-- The members of a set as they are listed: by their places if their values fix them, else
as they were given. -/
def listedMembers (members : List Data) : List Data :=
  match members.mapM residue? with
  | none => members
  | some residues =>
    let places := (placesOf (placesFor members.length) residues).reverse
    ((places.zip members).mergeSort (fun left right => left.1 ≤ right.1)).map Prod.snd

end Data

end SchemaForge
