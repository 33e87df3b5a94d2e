import Mathlib.Algebra.GroupWithZero.Nat
import Mathlib.Data.List.ModifyLast
import SchemaForge.Proofs.BlockStringRule
import SchemaForge.Proofs.ModulePlaces

/-!
# Physical lines

The generated language ends a line at a line feed, a carriage return, or both together. How many
lines a text has is counted piece by piece, as long as no line end is cut in two: a carriage
return at the end of one piece and a line feed at the beginning of the next are one line end, and
two where the pieces are counted by themselves. Pieces that do not meet in this way are apart.
-/

namespace SchemaForge

namespace Text

variable {text rest front back : Text}

/-- The physical lines of a text. The last one is what is behind the last line end. -/
def physicalLines (text : Text) : List Text := splitOn .lineFeed (normalizeNewlines text)

/-- How many lines end in a text. -/
def lineEnds (text : Text) : Nat := (normalizeNewlines text).count .lineFeed

/-- No line ends in the text. -/
def Unbroken (text : Text) : Prop := ∀ c ∈ text, c ≠ .lineFeed ∧ c ≠ .carriageReturn

instance (text : Text) : Decidable text.Unbroken := by
  unfold Unbroken
  infer_instance

/-- Two texts one behind the other, of which the first does not end with the first half of a line
end and the second begin with the other half. -/
def Apart (text rest : Text) : Prop :=
  text.getLast? = some .carriageReturn → rest.head? ≠ some .lineFeed

/-- Line ends of texts that are apart are read one text behind the other. By the cases of the
reading: only where a text stops behind a carriage return does the next one matter. -/
theorem normalizeNewlines_apart (apart : Apart text rest) :
    normalizeNewlines (text ++ rest) = normalizeNewlines text ++ normalizeNewlines rest := by
  induction text using normalizeNewlines.induct with
  | case1 => simp [normalizeNewlines]
  | case2 tail inductionHypothesis =>
    rw [List.cons_append, List.cons_append, normalizeNewlines_pair, normalizeNewlines_pair,
      List.cons_append]
    refine congrArg _ (inductionHypothesis ?_)
    intro last
    apply apart
    cases tail with
    | nil => cases last
    | cons d tail => simpa using last
  | case3 d tail other inductionHypothesis =>
    have alone (more : Text) : Halts (fun c => decide (c = .lineFeed)) (d :: more) :=
      .cons (by simpa using other)
    rw [List.cons_append, List.cons_append, normalizeNewlines_lone (alone _),
      normalizeNewlines_lone (alone _), List.cons_append]
    refine congrArg _ (inductionHypothesis ?_)
    intro last
    apply apart
    simpa using last
  | case4 =>
    have alone : Halts (fun c => decide (c = .lineFeed)) rest := by
      intro c first
      have other := apart rfl
      rw [Option.mem_def.mp first] at other
      simpa using other
    rw [List.singleton_append, normalizeNewlines_lone alone, normalizeNewlines_lone .nil]
    simp [normalizeNewlines]
  | case5 c tail other inductionHypothesis =>
    have single : CodePoint.carriageReturn ∉ [c] := by simpa using Ne.symm other
    have whole (more : Text) : normalizeNewlines (c :: more) = c :: normalizeNewlines more :=
      normalizeNewlines_append single more
    rw [List.cons_append, whole, whole, List.cons_append]
    refine congrArg _ (inductionHypothesis ?_)
    intro last
    apply apart
    cases tail with
    | nil => cases last
    | cons d tail => simpa using last

/-- The line ends of texts that are apart are counted one text behind the other. -/
theorem lineEnds_append (apart : Apart text rest) :
    lineEnds (text ++ rest) = lineEnds text + lineEnds rest := by
  rw [lineEnds, normalizeNewlines_apart apart, List.count_append]
  rfl

/-- There is one part more than there are separators. -/
theorem length_splitOn (separator : CodePoint) (text : Text) :
    (splitOn separator text).length = text.count separator + 1 := by
  induction text with
  | nil => rfl
  | cons c rest inductionHypothesis =>
    by_cases same : c = separator
    · rw [same, splitOn, if_pos rfl, List.length_cons, inductionHypothesis, List.count_cons_self]
    · obtain ⟨part, parts, split⟩ := List.exists_cons_of_ne_nil (splitOn_ne_nil separator rest)
      rw [List.count_cons_of_ne same, ← inductionHypothesis, splitOn, if_neg same, split]
      rfl

/-- There is one line more than there are line ends. -/
theorem length_physicalLines (text : Text) : text.physicalLines.length = text.lineEnds + 1 :=
  length_splitOn .lineFeed (normalizeNewlines text)

/-- A text on one line is read as it is. -/
theorem Unbroken.normalizeNewlines (unbroken : Unbroken text) :
    Text.normalizeNewlines text = text :=
  normalizeNewlines_eq (fun member => (unbroken _ member).2 rfl)

/-- A text in which no line ends is one line. -/
theorem Unbroken.physicalLines (unbroken : Unbroken text) : text.physicalLines = [text] := by
  rw [Text.physicalLines, unbroken.normalizeNewlines]
  exact splitOn_of_not_mem .lineFeed (fun member => (unbroken _ member).1 rfl)

/-- It has no line ends. -/
theorem Unbroken.lineEnds (unbroken : Unbroken text) : text.lineEnds = 0 := by
  have one := length_physicalLines text
  rw [unbroken.physicalLines, List.length_singleton] at one
  omega

/-- Texts in which no line ends have none together. -/
theorem Unbroken.append (front : Unbroken text) (back : Unbroken rest) : Unbroken (text ++ rest) :=
  List.forall_mem_append.mpr ⟨front, back⟩

/-- A text in which no line ends is apart from whatever comes behind it. -/
theorem Unbroken.apart (unbroken : Unbroken text) : Apart text rest := by
  intro last
  exact absurd rfl (unbroken _ (List.mem_of_getLast? last)).2

/-- A text in which no line ends is apart from whatever comes in front of it. -/
theorem Unbroken.apart_front (unbroken : Unbroken rest) : Apart text rest := by
  intro _ first
  exact absurd rfl (unbroken _ (List.mem_of_mem_head? first)).1

/-- Only texts in which no line ends have no line ends. -/
theorem lineEnds_eq_zero_iff : text.lineEnds = 0 ↔ Unbroken text := by
  constructor
  · intro none c member
    have absent : CodePoint.lineFeed ∉ normalizeNewlines text := List.count_eq_zero.mp none
    obtain ⟨front, back, rfl⟩ := List.append_of_mem member
    constructor
    · rintro rfl
      have feed : 0 < lineEnds (.lineFeed :: back) := by
        have whole : normalizeNewlines ([CodePoint.lineFeed] ++ back) = [CodePoint.lineFeed] ++ _ :=
          normalizeNewlines_append (by decide) back
        rw [lineEnds, ← List.singleton_append, whole]
        simp
      by_cases half : front.getLast? = some .carriageReturn
      · obtain ⟨tail, rfl⟩ := List.getLast?_eq_some_iff.mp half
        have apart : Apart tail (.carriageReturn :: .lineFeed :: back) := by
          intro _ first
          cases first
        rw [List.append_assoc, List.singleton_append, normalizeNewlines_apart apart,
          normalizeNewlines_pair] at absent
        simp at absent
      · have apart : Apart front (.lineFeed :: back) := fun last => absurd last half
        rw [lineEnds_append apart] at none
        omega
    · rintro rfl
      have apart : Apart front (.carriageReturn :: back) := by
        intro _ first
        cases first
      rw [normalizeNewlines_apart apart, List.mem_append, not_or] at absent
      apply absent.2
      cases back with
      | nil => simp [normalizeNewlines]
      | cons d back =>
        by_cases feed : d = .lineFeed
        · rw [feed, normalizeNewlines_pair]
          exact List.mem_cons_self
        · rw [normalizeNewlines_lone (.cons (by simpa using feed))]
          exact List.mem_cons_self
  · exact Unbroken.lineEnds

/-- A line feed ends a line that does not end with a carriage return by itself. -/
theorem physicalLines_lineFeed (unended : text.getLast? ≠ some .carriageReturn) (rest : Text) :
    physicalLines (text ++ .lineFeed :: rest) = physicalLines text ++ physicalLines rest := by
  have apart : Apart text (.lineFeed :: rest) := fun last => absurd last unended
  have feed : normalizeNewlines (.lineFeed :: rest) = .lineFeed :: normalizeNewlines rest := by
    have alone : CodePoint.carriageReturn ∉ [CodePoint.lineFeed] := by decide
    exact normalizeNewlines_append alone rest
  rw [physicalLines, normalizeNewlines_apart apart, feed, splitOn_append_cons]
  rfl

/-- So there is one more line end. -/
theorem lineEnds_lineFeed (unended : text.getLast? ≠ some .carriageReturn) (rest : Text) :
    lineEnds (text ++ .lineFeed :: rest) = lineEnds text + 1 + lineEnds rest := by
  have lengths := congrArg List.length (physicalLines_lineFeed unended rest)
  rw [List.length_append, length_physicalLines, length_physicalLines, length_physicalLines]
    at lengths
  omega

/-- A line feed in front is one line end more. -/
theorem lineEnds_cons_lineFeed (rest : Text) :
    lineEnds (.lineFeed :: rest) = 1 + lineEnds rest := by
  have empty : Unbroken [] := by decide
  have unended : List.getLast? ([] : Text) ≠ some .carriageReturn := by decide
  have ends := lineEnds_lineFeed unended rest
  rw [empty.lineEnds] at ends
  simpa using ends

/-- Lines that are ended by line feeds are the lines in each of them. -/
theorem physicalLines_ended {lines : List Text}
    (unended : ∀ line ∈ lines, line.getLast? ≠ some .carriageReturn) (rest : Text) :
    physicalLines (lines.flatMap (· ++ [CodePoint.lineFeed]) ++ rest) =
      lines.flatMap physicalLines ++ physicalLines rest := by
  induction lines with
  | nil => rfl
  | cons line lines inductionHypothesis =>
    rw [List.forall_mem_cons] at unended
    rw [List.flatMap_cons, List.flatMap_cons, List.append_assoc, List.append_assoc,
      List.singleton_append, physicalLines_lineFeed unended.1, inductionHypothesis unended.2,
      List.append_assoc]

/-- So are their line ends, and one more for each of them. -/
theorem lineEnds_ended {lines : List Text}
    (unended : ∀ line ∈ lines, line.getLast? ≠ some .carriageReturn) (rest : Text) :
    lineEnds (lines.flatMap (· ++ [CodePoint.lineFeed]) ++ rest) =
      (lines.map (fun line => line.lineEnds + 1)).sum + lineEnds rest := by
  have lengths := congrArg List.length (physicalLines_ended unended rest)
  rw [List.length_append, length_physicalLines, length_physicalLines, List.length_flatMap]
    at lengths
  simp only [length_physicalLines] at lengths
  omega

/-- Where the separator is not in front of a text, what is in front belongs to the first part. -/
theorem splitOn_append_left {separator : CodePoint} {lead : Text} (absent : separator ∉ lead)
    (text : Text) :
    splitOn separator (lead ++ text) = (splitOn separator text).modifyHead (lead ++ ·) := by
  induction lead with
  | nil =>
    obtain ⟨part, parts, split⟩ := List.exists_cons_of_ne_nil (splitOn_ne_nil separator text)
    rw [List.nil_append, split]
    rfl
  | cons c lead inductionHypothesis =>
    rw [List.mem_cons, not_or] at absent
    obtain ⟨part, parts, split⟩ := List.exists_cons_of_ne_nil (splitOn_ne_nil separator text)
    rw [List.cons_append, splitOn, if_neg (Ne.symm absent.1), inductionHypothesis absent.2, split]
    rfl

/-- What stands around a text, and ends no line, belongs to its first line and to its last. -/
theorem physicalLines_around {lead tail : Text} (front : Unbroken lead) (back : Unbroken tail)
    (text : Text) :
    physicalLines (lead ++ text ++ tail) =
      ((physicalLines text).modifyLast (· ++ tail)).modifyHead (lead ++ ·) := by
  have absent : CodePoint.lineFeed ∉ lead := fun member => (front _ member).1 rfl
  have absentToo : CodePoint.lineFeed ∉ tail := fun member => (back _ member).1 rfl
  obtain ⟨lines, last, split, splitMore⟩ :=
    splitOn_append_of_not_mem absentToo (normalizeNewlines text)
  rw [physicalLines, normalizeNewlines_apart back.apart_front,
    normalizeNewlines_apart front.apart, front.normalizeNewlines, back.normalizeNewlines,
    List.append_assoc, splitOn_append_left absent, splitMore, physicalLines, split,
    List.modifyLast_concat]

end Text

end SchemaForge
