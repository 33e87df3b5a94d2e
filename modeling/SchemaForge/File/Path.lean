import SchemaForge.Text.Basic

/-!
# Paths

A path is a root and the parts below it. Empty parts and single dots say nothing
and are dropped; double dots stay, because what they mean depends on the files.
Exactly two leading slashes are a root of their own, any other number is one.
-/

namespace SchemaForge

/-- A path to a file or directory. -/
structure Path where
  /-- The root: empty for a relative path, else one slash or two. -/
  root : Text
  /-- The parts below the root. -/
  parts : List Text
deriving DecidableEq, Inhabited

namespace Path

/-- The directory from which relative paths start. -/
def here : Path := ⟨[], []⟩

/-- The parts of a text between slashes that say something. -/
def partsOf (text : Text) : List Text :=
  (Text.splitOn ('/' : Char) text).filter (fun part => !part.isEmpty && part ≠ ("." : Text))

/-- The path that a text spells. -/
def ofText (text : Text) : Path :=
  let slashes := (text.takeWhile (fun (c : CodePoint) => decide (c = '/'))).length
  let root : Text := if slashes = 0 then [] else if slashes = 2 then "//" else "/"
  ⟨root, partsOf text⟩

/-- The spelling of a path. The path without parts is a single dot. -/
def display (path : Path) : Text :=
  if path.root.isEmpty && path.parts.isEmpty then "."
  else path.root ++ Text.join "/" path.parts

/-- Whether a path starts from a root. -/
def isAbsolute (path : Path) : Bool := !path.root.isEmpty

/-- A path seen from a base. An absolute path forgets the base. -/
def under (base path : Path) : Path :=
  if path.isAbsolute then path else ⟨base.root, base.parts ++ path.parts⟩

/-- The path below a base that a text spells. -/
def join (base : Path) (text : Text) : Path := base.under (ofText text)

/-- The path without its last part. A path without parts is its own parent. -/
def parent (path : Path) : Path := ⟨path.root, path.parts.dropLast⟩

/-- The last part, empty if there is none. -/
def name (path : Path) : Text := path.parts.getLastD []

/-- The part of a file name from its last dot on. A dot at the start or at the end
of the name begins no suffix. -/
def suffix (path : Path) : Text :=
  let reversed := path.name.reverse
  let tail := reversed.takeWhile (fun (c : CodePoint) => decide (c ≠ '.'))
  let head := reversed.drop (tail.length + 1)
  if tail.length < reversed.length && !tail.isEmpty && !head.isEmpty then
    CodePoint.ofChar '.' :: tail.reverse
  else []

/-- Whether one path lies strictly below another, by their spelling alone. -/
def isBelow (path base : Path) : Bool :=
  path.root = base.root && base.parts.length < path.parts.length &&
    path.parts.take base.parts.length = base.parts

/-- Lists of parts are ordered by their first difference. -/
def partsLe : List Text → List Text → Bool
  | [], _ => true
  | _ :: _, [] => false
  | part :: parts, other :: others =>
    if part = other then partsLe parts others else Text.le part other

/-- Paths are ordered part by part, not by their spelling. -/
def le (left right : Path) : Bool :=
  let key (path : Path) : List Text :=
    if path.root.isEmpty then path.parts else path.root :: path.parts
  partsLe (key left) (key right)

end Path

end SchemaForge
