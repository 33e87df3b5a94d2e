import SchemaForge.Generation
import SchemaForge.Proofs.PathParts
import SchemaForge.Schema.Lexeme

/-!
# The files of modules

The file of a module is reached from the root of a sink by one step for each part of its
package and one for its name. A step is a text of its own: it may be empty, hold slashes or be
absolute, and a package is any string of a schema.

Two conditions on a module are of interest. If no step is absolute, the file lies below every
root, and otherwise it is the same for all of them. If the parts of the package are moreover
not empty and no step holds a slash, each step is one part of the path: then the file tells
the package and the module apart from all others, and it is where the artifact says it is.
-/

namespace SchemaForge

/-! ## Names -/

/-- A name of the schema language. -/
def Text.isName (text : Text) : Bool :=
  text.head?.any CodePoint.isNameStart && text.all CodePoint.isNameRest

namespace ModuleName

variable {holds : CodePoint → Prop} {text : Text}

/-- Cutting acronyms adds underscores and nothing else. -/
theorem cutAcronyms_all (underscore : holds ('_' : Char)) (before : Option CodePoint)
    (all : ∀ c ∈ text, holds c) : ∀ c ∈ cutAcronyms before text, holds c := by
  fun_induction cutAcronyms before text with
  | case1 => exact all
  | case2 => exact all
  | case3 before c d rest cut cuts inductionHypothesis =>
    rw [List.forall_mem_cons] at all
    exact List.forall_mem_cons.mpr
      ⟨underscore, List.forall_mem_cons.mpr ⟨all.1, inductionHypothesis all.2⟩⟩
  | case4 before c d rest cut stays inductionHypothesis =>
    rw [List.forall_mem_cons] at all
    exact List.forall_mem_cons.mpr ⟨all.1, inductionHypothesis all.2⟩

/-- Cutting words adds underscores and nothing else. -/
theorem cutWords_all (underscore : holds ('_' : Char)) (before : Option CodePoint)
    (all : ∀ c ∈ text, holds c) : ∀ c ∈ cutWords before text, holds c := by
  fun_induction cutWords before text with
  | case1 => exact all
  | case2 before c rest cut cuts inductionHypothesis =>
    rw [List.forall_mem_cons] at all
    exact List.forall_mem_cons.mpr
      ⟨underscore, List.forall_mem_cons.mpr ⟨all.1, inductionHypothesis all.2⟩⟩
  | case3 before c rest cut stays inductionHypothesis =>
    rw [List.forall_mem_cons] at all
    exact List.forall_mem_cons.mpr ⟨all.1, inductionHypothesis all.2⟩

/-- Names are spelled in ASCII. -/
theorem ascii_of_isNameRest {c : CodePoint} (named : c.isNameRest = true) : c.val < 0x80 := by
  simp only [CodePoint.isNameRest, CodePoint.isNameStart, CodePoint.isUpper, CodePoint.isLower,
    CodePoint.isDigit, CodePoint.between, Bool.or_eq_true, Bool.and_eq_true,
    decide_eq_true_eq] at named
  obtain ((upper | lower) | rfl) | digit := named
  · exact Nat.lt_of_le_of_lt upper.2 (by decide)
  · exact Nat.lt_of_le_of_lt lower.2 (by decide)
  · decide
  · exact Nat.lt_of_le_of_lt digit.2 (by decide)

/-- The small form of a code point of a name is one of a name. -/
theorem toLower_isNameRest {c : CodePoint} (named : c.isNameRest = true) :
    ∀ small ∈ c.toLower, small.isNameRest = true := by
  unfold CodePoint.toLower
  rw [if_pos (ascii_of_isNameRest named)]
  split
  · next upper =>
    simp only [CodePoint.isUpper, CodePoint.between, Bool.and_eq_true, decide_eq_true_eq] at upper
    have first : 65 ≤ c.val := upper.1
    have last : c.val ≤ 90 := upper.2
    have valid : c.val + 32 < 0x110000 := by omega
    intro small member
    rw [List.mem_singleton.mp member]
    have lower : (CodePoint.ofNat (c.val + 32)).isLower = true := by
      simp only [CodePoint.isLower, CodePoint.between, CodePoint.ofNat, valid, ↓reduceDIte,
        Bool.and_eq_true, decide_eq_true_eq]
      exact ⟨Nat.add_le_add_right first 32, Nat.add_le_add_right last 32⟩
    simp [CodePoint.isNameRest, CodePoint.isNameStart, lower]
  · intro small member
    rw [List.mem_singleton.mp member]
    exact named

/-- A name stays a name in small letters. -/
theorem lower_all (all : ∀ c ∈ text, c.isNameRest = true) :
    ∀ c ∈ Text.lower text, c.isNameRest = true := by
  have behind (before : Text) : ∀ c ∈ Text.lowerAfter before text, c.isNameRest = true := by
    induction text generalizing before with
    | nil => exact all
    | cons c rest inductionHypothesis =>
      rw [List.forall_mem_cons] at all
      have ascii := ascii_of_isNameRest all.1
      have other : c.val ≠ 0x3A3 := by omega
      rw [Text.lowerAfter]
      simp only [other, ↓reduceIte]
      exact List.forall_mem_append.mpr
        ⟨toLower_isNameRest all.1, inductionHypothesis all.2 (c :: before)⟩
  exact behind []

/-- An identifier consists of what names consist of, if its name does. -/
theorem identifier_all {name : Text} (all : ∀ c ∈ name, c.isNameRest = true) :
    ∀ c ∈ identifier name, c.isNameRest = true := by
  have underscore : ∀ c ∈ ("_" : Text), c.isNameRest = true := by decide
  unfold identifier
  split
  · exact List.forall_mem_append.mpr ⟨all, underscore⟩
  · exact all

/-- The module of a type consists of what names consist of. -/
theorem ofType_all {typeName : Text} (named : typeName.isName = true) :
    ∀ c ∈ ofType typeName, c.isNameRest = true := by
  have all : ∀ c ∈ typeName, c.isNameRest = true := by
    simp only [Text.isName, Bool.and_eq_true, List.all_eq_true] at named
    exact named.2
  have underscore : CodePoint.isNameRest ('_' : Char) = true := by decide
  have acronyms : ∀ c ∈ cutAcronyms none typeName, c.isNameRest = true :=
    cutAcronyms_all underscore none all
  have words : ∀ c ∈ cutWords none (cutAcronyms none typeName), c.isNameRest = true :=
    cutWords_all underscore none acronyms
  have snake : ∀ c ∈ snake typeName, c.isNameRest = true := lower_all words
  exact identifier_all snake

end ModuleName

namespace FileStore

/-! ## Steps to a file -/

/-- The steps from the root of a sink to the file of a module. -/
def steps (package typeName : Text) : List Text :=
  Text.splitOn ('.' : Char) package ++ [ModuleName.ofType typeName ++ ".py"]

/-- The file of a module is where its steps lead. -/
theorem pathFor_eq (root : Path) (package typeName : Text) :
    pathFor root package typeName = (steps package typeName).foldl Path.join root := by
  rw [steps, List.foldl_append]
  rfl

/-- The root of a sink is the base of the files of its modules. -/
theorem pathFor_under (root : Path) (package typeName : Text) :
    pathFor root package typeName = root.under (pathFor Path.here package typeName) := by
  rw [pathFor_eq, pathFor_eq, Path.foldl_join]

/-- No step to the file of a module is absolute. -/
def Contained (package typeName : Text) : Prop :=
  ∀ step ∈ steps package typeName, step.head? ≠ some (CodePoint.ofChar '/')

/-- The file of a module is relative to the root exactly if no step is absolute. -/
theorem isAbsolute_pathFor_here (package typeName : Text) :
    (pathFor Path.here package typeName).isAbsolute = false ↔ Contained package typeName := by
  rw [pathFor_eq, Path.isAbsolute_foldl, List.any_eq_false]
  simp only [Path.isAbsolute_ofText, decide_eq_true_eq]
  rfl

/-- The last step to a file says something. -/
theorem partsOf_file (name : Text) : Path.partsOf (name ++ ".py") ≠ [] :=
  Path.partsOf_ne_nil (List.mem_append_right name (.tail _ (.tail _ (.head _)))) (by decide)
    (by decide)

/-- The file of a contained module has its steps for parts, behind those of the root. -/
theorem pathFor_contained {package typeName : Text} (contained : Contained package typeName)
    (root : Path) :
    pathFor root package typeName =
      ⟨root.root, root.parts ++ (steps package typeName).flatMap Path.partsOf⟩ := by
  have relative := (isAbsolute_pathFor_here package typeName).mpr contained
  rw [pathFor_under, Path.under_of_relative relative, pathFor_eq, Path.parts_foldl]
  intro step member
  rw [Path.isAbsolute_ofText, decide_eq_false_iff_not]
  exact contained step member

/-- The file of a contained module lies below every root. -/
theorem isBelow_pathFor {package typeName : Text} (contained : Contained package typeName)
    (root : Path) : (pathFor root package typeName).isBelow root = true := by
  have relative := (isAbsolute_pathFor_here package typeName).mpr contained
  rw [pathFor_under]
  refine Path.isBelow_under relative ?_ root
  rw [pathFor_contained contained]
  intro none
  have file : Path.partsOf (ModuleName.ofType typeName ++ ".py") = [] := by
    simp only [steps, List.flatMap_append, List.append_eq_nil_iff] at none
    simpa using none.2.2
  exact partsOf_file _ file

/-- The file of any other module does not depend on the root. -/
theorem pathFor_not_contained {package typeName : Text} (free : ¬ Contained package typeName)
    (root : Path) : pathFor root package typeName = pathFor Path.here package typeName := by
  have absolute : (pathFor Path.here package typeName).isAbsolute = true := by
    rw [← isAbsolute_pathFor_here, Bool.not_eq_false] at free
    exact free
  rw [pathFor_under, Path.under_of_absolute absolute]

/-- Where the type has a name of the schema language its package decides alone. -/
theorem contained_iff {typeName : Text} (named : typeName.isName = true) (package : Text) :
    Contained package typeName ↔
      ∀ part ∈ Text.splitOn ('.' : Char) package, part.head? ≠ some (CodePoint.ofChar '/') := by
  have file : (ModuleName.ofType typeName ++ ".py").head? ≠ some (CodePoint.ofChar '/') := by
    have all := ModuleName.ofType_all named
    cases name : ModuleName.ofType typeName with
    | nil => decide
    | cons c rest =>
      rw [name, List.forall_mem_cons] at all
      intro slash
      obtain rfl := Option.some.inj slash
      exact absurd all.1 (by decide)
  unfold Contained steps
  rw [List.forall_mem_append, List.forall_mem_singleton]
  exact and_iff_left file

/-- For a type of a schema, the file lies below every root exactly if no part of the package
begins with a slash. -/
theorem isBelow_pathFor_iff {typeName : Text} (named : typeName.isName = true) (package : Text) :
    (∀ root, (pathFor root package typeName).isBelow root = true) ↔
      ∀ part ∈ Text.splitOn ('.' : Char) package, part.head? ≠ some (CodePoint.ofChar '/') := by
  rw [← contained_iff named]
  constructor
  · intro below
    rw [← isAbsolute_pathFor_here, ← Bool.not_eq_true]
    intro absolute
    have outside := Path.not_isBelow_here absolute
    rw [below Path.here] at outside
    cases outside
  · intro contained root
    exact isBelow_pathFor contained root

/-! ## Steps of one part each -/

/-- Each step to the file of a module is one part of its path. -/
structure Plain (package typeName : Text) : Prop where
  /-- The parts of the package are not empty. -/
  some : ∀ part ∈ Text.splitOn ('.' : Char) package, part ≠ []
  /-- No step holds a slash. -/
  flat : ∀ step ∈ steps package typeName, CodePoint.ofChar '/' ∉ step

namespace Plain

variable {package typeName : Text}

/-- No step of one part is absolute. -/
theorem contained (plain : Plain package typeName) : Contained package typeName := by
  intro step member slash
  exact plain.flat step member (List.mem_of_mem_head? slash)

/-- The steps are the parts that they say. -/
theorem flatMap_partsOf (plain : Plain package typeName) :
    (steps package typeName).flatMap Path.partsOf = steps package typeName := by
  have single : ∀ step ∈ steps package typeName, Path.partsOf step = [step] := by
    intro step member
    have flat := plain.flat step member
    rw [steps, List.mem_append, List.mem_singleton] at member
    obtain part | rfl := member
    · have undotted := Text.not_mem_of_mem_splitOn _ part
      refine Path.partsOf_of_not_mem flat (plain.some step part) ?_
      rintro rfl
      exact undotted (List.mem_singleton_self _)
    · refine Path.partsOf_of_not_mem flat ?_ ?_
      · simp [Text.ofString]
      · intro dot
        have longer := congrArg List.length dot
        simp [Text.ofString] at longer
  calc (steps package typeName).flatMap Path.partsOf
      = (steps package typeName).flatMap (fun step => [step]) := by
        rw [List.flatMap_def, List.flatMap_def, List.map_congr_left single]
    _ = steps package typeName := by simp

/-- The parts of the file of a module are those of the root and then the steps. -/
theorem pathFor (plain : Plain package typeName) (root : Path) :
    FileStore.pathFor root package typeName =
      ⟨root.root, root.parts ++ steps package typeName⟩ := by
  rw [pathFor_contained plain.contained, plain.flatMap_partsOf]

end Plain

/-- Steps tell the package and the module. -/
theorem steps_inj {package other typeName otherName : Text}
    (same : steps package typeName = steps other otherName) :
    package = other ∧ ModuleName.ofType typeName = ModuleName.ofType otherName := by
  obtain ⟨packages, files⟩ := List.append_inj' same rfl
  exact ⟨Text.splitOn_inj _ packages, List.append_cancel_right (List.singleton_inj.mp files)⟩

/-- Modules of one file are one module of one package. -/
theorem pathFor_inj {package other typeName otherName : Text} (plain : Plain package typeName)
    (plainOther : Plain other otherName) {root : Path}
    (same : FileStore.pathFor root package typeName = FileStore.pathFor root other otherName) :
    package = other ∧ ModuleName.ofType typeName = ModuleName.ofType otherName := by
  rw [plain.pathFor, plainOther.pathFor] at same
  exact steps_inj (List.append_cancel_left (congrArg Path.parts same))

/-- The file of a module is where its artifact says it is. -/
theorem pathFor_relativePath {artifact : Artifact} (plain : Plain artifact.package artifact.typeName)
    (root : Path) :
    FileStore.pathFor root artifact.package artifact.typeName = root.join artifact.relativePath := by
  obtain ⟨first, others, split⟩ :=
    List.exists_cons_of_ne_nil (Text.splitOn_ne_nil ('.' : Char) artifact.package)
  have relative : (Path.ofText artifact.relativePath).isAbsolute = false := by
    have some := plain.some first (split ▸ List.mem_cons_self)
    have flat := plain.flat first (List.mem_append_left _ (split ▸ List.mem_cons_self))
    obtain ⟨c, rest, rfl⟩ := List.exists_cons_of_ne_nil some
    have begins : artifact.relativePath.head? = Option.some c := by
      unfold Artifact.relativePath
      rw [split]
      cases others <;> rfl
    rw [Path.isAbsolute_ofText, begins, decide_eq_false_iff_not]
    rintro ⟨⟩
    exact flat List.mem_cons_self
  rw [plain.pathFor, Path.join, Path.under_of_relative relative]
  have parts : (Path.ofText artifact.relativePath).parts =
      steps artifact.package artifact.typeName := by
    rw [← plain.flatMap_partsOf, ← Path.partsOf_join (by simp [steps])]
    rfl
  rw [parts]

end FileStore

end SchemaForge
