import SchemaForge.Proofs.DocstringLiterals

/-!
# Lines of a block string

What becomes of a block string is decided by its lines. Where they are cut is one question, and
what is then taken off them another: `formatted` answers the second one for any lines, and the
value of a block string is what comes of the lines of its body. A body that ends with a line end
has an empty line behind it or not, by the way of counting, and that makes no difference.

Of what is taken off a line nothing but blanks and tabs is lost, and the lines at either end that
are left have more than these. If all lines but the first are indented further by the same
blanks and tabs, so much more is taken off each of them, and the value stays.
-/

namespace SchemaForge

/-- What is in a part is in the joined text. -/
theorem Text.mem_join_of_mem {c : CodePoint} {separator part : Text} {parts : List Text}
    (listed : part ∈ parts) (member : c ∈ part) : c ∈ join separator parts := by
  induction parts with
  | nil => cases listed
  | cons first parts inductionHypothesis =>
    cases parts with
    | nil =>
      rw [List.mem_singleton.mp listed] at member
      exact member
    | cons next parts =>
      change c ∈ first ++ separator ++ join separator (next :: parts)
      obtain rfl | listed := List.mem_cons.mp listed
      · exact List.mem_append_left _ (List.mem_append_left _ member)
      · exact List.mem_append_right _ (inductionHypothesis listed)

namespace BlockString

/-! ## Blank lines and indentation -/

/-- A line of blanks and tabs only, or of nothing. -/
def Blank (line : Text) : Prop := ∀ c ∈ line, c = ' ' ∨ c = .tab

/-- Blanks and tabs are what indents. -/
theorem isIndent_iff {c : CodePoint} : c.isIndent = true ↔ c = ' ' ∨ c = .tab := by
  simp [CodePoint.isIndent]

/-- A line is found to be blank if it is. -/
theorem isBlankLine_iff {line : Text} : isBlankLine line = true ↔ Blank line := by
  simp only [isBlankLine, List.all_eq_true, isIndent_iff]
  rfl

/-- A line is found not to be blank if it is not. -/
theorem isBlankLine_eq_false {line : Text} : isBlankLine line = false ↔ ¬ Blank line := by
  rw [← isBlankLine_iff, Bool.not_eq_true]

variable {line indent : Text} {lines others kept : List Text}

/-- Blanks and tabs in front make no line blank and no line other than blank. -/
theorem isBlankLine_append (blank : Blank indent) (line : Text) :
    isBlankLine (indent ++ line) = isBlankLine line := by
  have all : indent.all CodePoint.isIndent = true := isBlankLine_iff.mpr blank
  rw [isBlankLine, List.all_append, all, Bool.true_and, isBlankLine]

/-- Blanks and tabs in front count as indentation. -/
theorem indentation_append (blank : Blank indent) (line : Text) :
    indentation (indent ++ line) = indent.length + indentation line := by
  have all : ∀ c ∈ indent, c.isIndent = true := fun c member => isIndent_iff.mpr (blank c member)
  rw [indentation, List.takeWhile_append_of_pos all, List.length_append, indentation]

/-- The shared indentation is the least one of a line that is not blank. -/
theorem sharedIndentation_eq_some {count : Nat} : sharedIndentation lines = some count ↔
    (∃ line ∈ lines, ¬ Blank line ∧ indentation line = count) ∧
      ∀ line ∈ lines, ¬ Blank line → count ≤ indentation line := by
  simp only [sharedIndentation, List.min?_eq_some_iff, List.mem_map, List.mem_filter,
    Bool.not_eq_true', isBlankLine_eq_false, and_assoc, forall_exists_index, and_imp]
  constructor
  · rintro ⟨reached, least⟩
    exact ⟨reached, fun line member inked => least _ line member inked rfl⟩
  · rintro ⟨reached, least⟩
    refine ⟨reached, ?_⟩
    rintro _ line member inked rfl
    exact least line member inked

/-- Blank lines share no indentation. -/
theorem sharedIndentation_eq_none :
    sharedIndentation lines = none ↔ ∀ line ∈ lines, Blank line := by
  simp [sharedIndentation, List.min?_eq_none_iff, isBlankLine_iff]

/-- Where lines are indented further, they share so much more. -/
theorem sharedIndentation_map (blank : Blank indent) (lines : List Text) :
    sharedIndentation (lines.map (indent ++ ·)) =
      (sharedIndentation lines).map (indent.length + ·) := by
  have inked (line : Text) : Blank (indent ++ line) ↔ Blank line := by
    rw [← isBlankLine_iff, isBlankLine_append blank, isBlankLine_iff]
  cases shared : sharedIndentation lines with
  | none =>
    rw [sharedIndentation_eq_none] at shared
    rw [Option.map_none, sharedIndentation_eq_none, List.forall_mem_map]
    intro line member
    exact (inked line).mpr (shared line member)
  | some count =>
    obtain ⟨⟨line, member, some, rfl⟩, least⟩ := sharedIndentation_eq_some.mp shared
    rw [Option.map_some, sharedIndentation_eq_some, List.forall_mem_map]
    constructor
    · refine ⟨_, List.mem_map_of_mem member, ?_, indentation_append blank line⟩
      rwa [inked]
    · intro other listed some
      rw [inked] at some
      rw [indentation_append blank]
      exact Nat.add_le_add_left (least other listed some) _

/-- Blanks and tabs end no line. -/
theorem Blank.onOneLine (blank : Blank indent) : indent.OnOneLine := by
  intro c member
  obtain rfl | rfl := blank c member <;> decide

/-! ## Lines that are kept -/

/-- Lines without blank ones at either end. -/
structure Trims (lines kept : List Text) : Prop where
  /-- What is left out at either end is blank. -/
  split : ∃ leading trailing, lines = leading ++ (kept ++ trailing) ∧
    (∀ line ∈ leading, Blank line) ∧ ∀ line ∈ trailing, Blank line
  /-- The first line that is kept is not blank. -/
  first : ∀ line ∈ kept.head?, ¬ Blank line
  /-- The last line that is kept is not blank. -/
  last : ∀ line ∈ kept.getLast?, ¬ Blank line

/-- Blank lines are dropped up to one that is not. -/
theorem dropWhile_blank {leading rest : List Text} (blank : ∀ line ∈ leading, Blank line)
    (inked : ∀ line ∈ rest.head?, ¬ Blank line) :
    (leading ++ rest).dropWhile isBlankLine = rest := by
  rw [List.dropWhile_append_of_pos (fun line member => isBlankLine_iff.mpr (blank line member))]
  cases rest with
  | nil => rfl
  | cons line rest =>
    have visible : ¬ isBlankLine line = true := by
      rw [isBlankLine_iff]
      exact inked line rfl
    exact List.dropWhile_cons_of_neg visible

/-- What is dropped from the front is blank, and what is then first is not. -/
theorem exists_dropWhile_blank (lines : List Text) :
    ∃ leading, lines = leading ++ lines.dropWhile isBlankLine ∧
      (∀ line ∈ leading, Blank line) ∧
      ∀ line ∈ (lines.dropWhile isBlankLine).head?, ¬ Blank line := by
  refine ⟨lines.takeWhile isBlankLine, List.takeWhile_append_dropWhile.symm, ?_, ?_⟩
  · intro line member
    exact isBlankLine_iff.mp (List.all_eq_true.mp List.all_takeWhile line member)
  · intro line first
    have stopped := List.head?_dropWhile_not isBlankLine lines
    rw [Option.mem_def.mp first] at stopped
    exact isBlankLine_eq_false.mp stopped

/-- Trimming leaves the lines between the first and the last one that is not blank. -/
theorem trims_iff : Trims lines kept ↔ trimBlankLines lines = kept := by
  constructor
  · rintro ⟨⟨leading, trailing, rfl, front, back⟩, first, last⟩
    obtain rfl | ⟨others, line, rfl⟩ := List.eq_nil_or_concat kept
    · have all : ∀ line ∈ leading ++ trailing, Blank line :=
        List.forall_mem_append.mpr ⟨front, back⟩
      have dropped : ((leading ++ trailing) ++ []).dropWhile isBlankLine = [] :=
        dropWhile_blank all (by simp)
      rw [List.append_nil] at dropped
      rw [List.nil_append, trimBlankLines, dropped]
      rfl
    · have begins : ∀ other ∈ (others.concat line ++ trailing).head?, ¬ Blank other := by
        cases others <;> exact first
      have ends : ∀ other ∈ (others.concat line).reverse.head?, ¬ Blank other := by
        rwa [List.head?_reverse]
      have behind : ∀ other ∈ trailing.reverse, Blank other := by simpa using back
      rw [trimBlankLines, dropWhile_blank front begins, List.reverse_append,
        dropWhile_blank behind ends, List.reverse_reverse]
  · rintro rfl
    obtain ⟨leading, split, front, first⟩ := exists_dropWhile_blank lines
    obtain ⟨trailing, more, back, last⟩ :=
      exists_dropWhile_blank (lines.dropWhile isBlankLine).reverse
    have rest : lines.dropWhile isBlankLine = trimBlankLines lines ++ trailing.reverse := by
      rw [trimBlankLines, ← List.reverse_append, ← more, List.reverse_reverse]
    refine ⟨⟨leading, trailing.reverse, ?_, front, by simpa using back⟩, ?_, ?_⟩
    · rw [← rest, ← split]
    · intro line member
      apply first
      rw [rest]
      cases kept : trimBlankLines lines with
      | nil => simp [kept] at member
      | cons other others => simpa [kept] using member
    · rwa [trimBlankLines, List.getLast?_reverse]

/-- Blank lines at the end are not kept. -/
theorem trimBlankLines_append {behind : List Text} (blank : ∀ line ∈ behind, Blank line)
    (lines : List Text) : trimBlankLines (lines ++ behind) = trimBlankLines lines := by
  obtain ⟨⟨leading, trailing, split, front, back⟩, first, last⟩ :=
    trims_iff.mpr (rfl : trimBlankLines lines = _)
  refine trims_iff.mp ⟨⟨leading, trailing ++ behind, ?_, front, ?_⟩, first, last⟩
  · rw [← List.append_assoc, ← List.append_assoc, List.append_assoc leading, ← split]
  · exact List.forall_mem_append.mpr ⟨back, blank⟩

/-! ## Lines of a value -/

/-- What is left of lines: the shared indentation is taken off, and then blank lines at either
end. -/
def keptLines (lines : List Text) : List Text := trimBlankLines (unindent lines)

/-- What is left of lines, with a line feed between neighbours. -/
def formatted (lines : List Text) : Text := Text.join [.lineFeed] (keptLines lines)

/-- An empty line at the end makes no difference. -/
theorem keptLines_append (lines : List Text) : keptLines (lines ++ [[]]) = keptLines lines := by
  have blank : ∀ line ∈ [([] : Text)], Blank line := by simp [Blank]
  cases lines with
  | nil => exact trimBlankLines_append blank []
  | cons first others =>
    have shared : sharedIndentation (others ++ [[]]) = sharedIndentation others := by
      simp [sharedIndentation, isBlankLine]
    rw [keptLines, List.cons_append, unindent, shared, List.map_append, ← List.cons_append]
    exact trimBlankLines_append (by simp [Blank]) _

/-- Indenting all lines but the first further makes no difference. -/
theorem keptLines_indented (blank : Blank indent) (first : Text) (others : List Text) :
    keptLines (first :: others.map (indent ++ ·)) = keptLines (first :: others) := by
  rw [keptLines, keptLines, unindent, unindent, sharedIndentation_map blank]
  cases shared : sharedIndentation others with
  | none =>
    -- Nothing is taken off, but the other lines are blank and none of them is kept.
    rw [sharedIndentation_eq_none] at shared
    have further : ∀ line ∈ others.map (indent ++ ·), Blank line := by
      rw [List.forall_mem_map]
      intro line member
      exact List.forall_mem_append.mpr ⟨blank, shared line member⟩
    have unchanged : List.drop ((none : Option Nat).getD 0) = (id : Text → Text) := rfl
    rw [Option.map_none, unchanged, List.map_id, List.map_id]
    exact (trimBlankLines_append further [first]).trans
      (trimBlankLines_append shared [first]).symm
  | some count =>
    have same : (others.map (indent ++ ·)).map (List.drop (indent.length + count)) =
        others.map (List.drop count) := by
      rw [List.map_map]
      apply List.map_congr_left
      intro line _
      exact List.drop_length_add_append count
    exact congrArg (fun lines => trimBlankLines (first :: lines)) same

/-- A code point that does not indent is not taken off with the indentation. -/
theorem mem_drop_indentation {c : CodePoint} (inked : c.isIndent = false) (member : c ∈ line)
    {count : Nat} (little : count ≤ indentation line) : c ∈ line.drop count := by
  have inside : line.take count <+: line.takeWhile CodePoint.isIndent := by
    apply List.prefix_of_prefix_length_le (List.take_prefix count line)
      (List.takeWhile_prefix CodePoint.isIndent)
    exact Nat.le_trans (List.length_take_le count line) little
  rw [← List.take_append_drop count line, List.mem_append] at member
  obtain front | back := member
  · have indents := List.all_eq_true.mp List.all_takeWhile c (inside.subset front)
    rw [inked] at indents
    cases indents
  · exact back

/-- Taking off the shared indentation loses nothing but blanks and tabs. -/
theorem mem_unindent {c : CodePoint} (inked : c.isIndent = false) :
    (∃ line ∈ unindent lines, c ∈ line) ↔ ∃ line ∈ lines, c ∈ line := by
  cases lines with
  | nil => rfl
  | cons first others =>
    rw [unindent]
    constructor
    · rintro ⟨line, listed, member⟩
      obtain rfl | listed := List.mem_cons.mp listed
      · exact ⟨line, List.mem_cons_self, member⟩
      · obtain ⟨whole, inside, rfl⟩ := List.mem_map.mp listed
        exact ⟨whole, List.mem_cons_of_mem first inside, List.mem_of_mem_drop member⟩
    · rintro ⟨line, listed, member⟩
      obtain rfl | listed := List.mem_cons.mp listed
      · exact ⟨line, List.mem_cons_self, member⟩
      · refine ⟨_, List.mem_cons_of_mem first (List.mem_map_of_mem listed), ?_⟩
        have some : ¬ Blank line := by
          intro blank
          rw [isIndent_iff.mpr (blank c member)] at inked
          cases inked
        cases shared : sharedIndentation others with
        | none => exact absurd (sharedIndentation_eq_none.mp shared line listed) some
        | some count =>
          obtain ⟨-, least⟩ := sharedIndentation_eq_some.mp shared
          exact mem_drop_indentation inked member (least line listed some)

/-- Of all lines nothing but blanks and tabs is lost. -/
theorem mem_keptLines {c : CodePoint} (inked : c.isIndent = false) :
    (∃ line ∈ keptLines lines, c ∈ line) ↔ ∃ line ∈ lines, c ∈ line := by
  obtain ⟨⟨leading, trailing, split, front, back⟩, -, -⟩ :=
    trims_iff.mpr (rfl : trimBlankLines (unindent lines) = _)
  have inkless {blanks : List Text} (blank : ∀ line ∈ blanks, Blank line) :
      ¬ ∃ line ∈ blanks, c ∈ line := by
    rintro ⟨line, listed, member⟩
    rw [isIndent_iff.mpr (blank line listed c member)] at inked
    cases inked
  have all : (∃ line ∈ unindent lines, c ∈ line) ↔ ∃ line ∈ keptLines lines, c ∈ line := by
    rw [split]
    simp only [List.mem_append, or_and_right, exists_or, inkless front, inkless back, false_or,
      or_false]
    rfl
  exact all.symm.trans (mem_unindent inked)

/-- So a value keeps everything that is neither a blank nor a tab, and what else it has is line
feeds. -/
theorem mem_formatted {c : CodePoint} (inked : c.isIndent = false) (other : c ≠ .lineFeed) :
    c ∈ formatted lines ↔ ∃ line ∈ lines, c ∈ line := by
  rw [← mem_keptLines inked]
  constructor
  · intro member
    obtain feed | found := Text.mem_join member
    · exact absurd (List.mem_singleton.mp feed) other
    · exact found
  · rintro ⟨line, listed, member⟩
    exact Text.mem_join_of_mem listed member

end BlockString

/-! ## Lines of a body -/

namespace Text

variable {text part mark rest last : Text} {lines : List Text}

/-- What has no carriage return is read as it is. -/
theorem normalizeNewlines_append (absent : CodePoint.carriageReturn ∉ part) (rest : Text) :
    normalizeNewlines (part ++ rest) = part ++ normalizeNewlines rest := by
  induction part with
  | nil => rfl
  | cons c part inductionHypothesis =>
    rw [List.mem_cons, not_or] at absent
    obtain ⟨other, further⟩ := absent
    rw [List.cons_append, normalizeNewlines.eq_def]
    simp [Ne.symm other, inductionHypothesis further]

/-- A text without carriage returns is read as it is. -/
theorem normalizeNewlines_eq (absent : CodePoint.carriageReturn ∉ text) :
    normalizeNewlines text = text := by
  have read := normalizeNewlines_append absent []
  rwa [List.append_nil, normalizeNewlines, List.append_nil] at read

/-- A carriage return by itself is read as a line feed. -/
theorem normalizeNewlines_lone (alone : Halts (fun c => decide (c = .lineFeed)) rest) :
    normalizeNewlines (.carriageReturn :: rest) = .lineFeed :: normalizeNewlines rest := by
  cases rest with
  | nil => simp [normalizeNewlines]
  | cons d rest =>
    have other : d ≠ .lineFeed := by simpa [Halts] using alone
    rw [normalizeNewlines.eq_def]
    simp [other]

/-- A carriage return and a line feed are read as a line feed. -/
theorem normalizeNewlines_pair (rest : Text) :
    normalizeNewlines (.carriageReturn :: .lineFeed :: rest) =
      .lineFeed :: normalizeNewlines rest := by
  rw [normalizeNewlines.eq_def]
  simp

/-- A text in which every line end, of whatever kind and also of two code points, is one line
feed. -/
def unified (text : Text) : Text :=
  (normalizeNewlines text).map (fun c => if c.isLineEnd then .lineFeed else c)

/-- What is on one line is unified already. -/
theorem unified_part (line : part.OnOneLine) (rest : Text) :
    unified (part ++ rest) = part ++ unified rest := by
  have absent : CodePoint.carriageReturn ∉ part :=
    fun member => absurd (line _ member) (by decide)
  have same : part.map (fun c => if c.isLineEnd then .lineFeed else c) = part.map id := by
    apply List.map_congr_left
    intro c member
    simp [line c member]
  rw [unified, normalizeNewlines_append absent, List.map_append, same, List.map_id, unified]

/-- A line end becomes a line feed. -/
theorem unified_end (ends : LineEnd mark rest) :
    unified (mark ++ rest) = .lineFeed :: unified rest := by
  have feed : CodePoint.lineFeed.isLineEnd = true := by decide
  cases ends with
  | @single c rest ends other =>
    rw [unified, normalizeNewlines_append (by simpa using Ne.symm other)]
    simp [ends, unified]
  | lone alone =>
    rw [List.singleton_append, unified, normalizeNewlines_lone alone]
    simp [feed, unified]
  | pair =>
    rw [List.cons_append, List.singleton_append, unified, normalizeNewlines_pair]
    simp [feed, unified]

/-- On one line there is no line feed. -/
theorem OnOneLine.not_mem_lineFeed (line : part.OnOneLine) : CodePoint.lineFeed ∉ part :=
  fun member => absurd (line _ member) (by decide)

/-- The lines of a text are not affected by how they are ended. -/
theorem Broken.splitOn_unified (broken : Broken text lines last) :
    splitOn .lineFeed (unified text) = lines ++ [last] := by
  induction broken with
  | part line =>
    have whole := unified_part line []
    rw [List.append_nil] at whole
    rw [whole, unified, normalizeNewlines, List.map_nil, List.append_nil]
    exact splitOn_of_not_mem .lineFeed line.not_mem_lineFeed
  | more line ends further inductionHypothesis =>
    rw [unified_part line, unified_end ends, splitOn_append_cons, inductionHypothesis,
      splitOn_of_not_mem .lineFeed line.not_mem_lineFeed]
    rfl

/-- The part behind the last line end is a line unless it is empty. -/
theorem Broken.splitLines_eq (broken : Broken text lines last) :
    Text.splitLines text = lines ++ if last = [] then [] else [last] := by
  induction broken with
  | @part part line =>
    by_cases empty : part = []
    · simp [empty, Text.splitLines, linesFrom]
    · rw [Text.splitLines, linesFrom_eq line (by simpa using empty), if_neg empty]
      rfl
  | more line ends further inductionHypothesis =>
    rw [Text.splitLines, linesFrom_part line, linesFrom_end ends, ← Text.splitLines,
      inductionHypothesis]
    simp

/-- Lines with line feeds between them are cut there. -/
theorem broken_join (first : Text) (others : List Text)
    (plain : ∀ line ∈ first :: others, OnOneLine line) :
    ∃ lines last, Broken (join [.lineFeed] (first :: others)) lines last ∧
      lines ++ [last] = first :: others := by
  induction others generalizing first with
  | nil => exact ⟨[], first, .part (plain first List.mem_cons_self), rfl⟩
  | cons next others inductionHypothesis =>
    obtain ⟨line, further⟩ := List.forall_mem_cons.mp plain
    obtain ⟨lines, last, broken, split⟩ := inductionHypothesis next further
    refine ⟨first :: lines, last, ?_, congrArg (first :: ·) split⟩
    rw [join, List.append_assoc]
    · exact .more line (.single (by decide) (by decide)) broken
    · exact List.cons_ne_nil next others

end Text

namespace BlockString

open Text

variable {indent first : Text} {others : List Text}

/-- The value of a block string is what comes of the lines of its body, whether or not an empty
line behind the last line end is counted. -/
theorem value_eq (raw : Text) : value raw = formatted (splitOn .lineFeed (unified raw)) := by
  obtain ⟨lines, last, broken⟩ := exists_broken raw
  change formatted (splitLines raw) = _
  rw [broken.splitLines_eq, broken.splitOn_unified]
  split
  · next empty => rw [empty, List.append_nil, formatted, formatted, keptLines_append]
  · rfl

/-- The value of lines that are put into a block string. -/
theorem value_join (plain : ∀ line ∈ first :: others, OnOneLine line) :
    value (join [.lineFeed] (first :: others)) = formatted (first :: others) := by
  obtain ⟨lines, last, broken, split⟩ := broken_join first others plain
  rw [value_eq, broken.splitOn_unified, split]

/-- The lines of a value are those that are kept. -/
theorem splitOn_value {raw : Text} (given : value raw ≠ []) :
    splitOn .lineFeed (value raw) = keptLines (splitOn .lineFeed (unified raw)) := by
  rw [value_eq] at given ⊢
  have some : keptLines (splitOn .lineFeed (unified raw)) ≠ [] := by
    intro none
    rw [formatted, none] at given
    exact given rfl
  have feedless : ∀ line ∈ keptLines (splitOn .lineFeed (unified raw)),
      CodePoint.lineFeed ∉ line := by
    intro line kept feed
    obtain ⟨whole, listed, member⟩ := (mem_keptLines (by decide)).mp ⟨line, kept, feed⟩
    exact not_mem_of_mem_splitOn .lineFeed listed member
  rw [formatted, join_eq, splitOn_eq]
  exact List.splitOn_intercalate .lineFeed feedless some

/-- Indenting all lines but the first further does not change the value of a block string, and no
value has a blank line at either end. -/
theorem value_indented :
    (∀ (first : Text) (others : List Text) (indent : Text),
      (∀ line ∈ first :: others, OnOneLine line) → Blank indent →
      value (join [.lineFeed] (first :: others.map (indent ++ ·))) =
        value (join [.lineFeed] (first :: others))) ∧
    ∀ raw : Text, value raw ≠ [] →
      (∀ line ∈ (splitOn .lineFeed (value raw)).head?, ¬ Blank line) ∧
      ∀ line ∈ (splitOn .lineFeed (value raw)).getLast?, ¬ Blank line := by
  constructor
  · intro first others indent plain blank
    have still : ∀ line ∈ first :: others.map (indent ++ ·), OnOneLine line := by
      obtain ⟨begins, further⟩ := List.forall_mem_cons.mp plain
      refine List.forall_mem_cons.mpr ⟨begins, List.forall_mem_map.mpr ?_⟩
      intro line listed
      exact (Blank.onOneLine blank).append (further line listed)
    rw [value_join still, value_join plain, formatted, formatted, keptLines_indented blank]
  · intro raw given
    rw [splitOn_value given]
    have trimmed : Trims (unindent (splitOn .lineFeed (unified raw)))
        (keptLines (splitOn .lineFeed (unified raw))) := trims_iff.mpr rfl
    exact ⟨trimmed.first, trimmed.last⟩

/-- Three lines between blank ones, as they are and indented further. -/
theorem value_indented_outline :
    value (join [.lineFeed] ["", "\t  kinds:", "\t    - sum", "\t ", "\t   - list", "\t "]) =
        value (join [.lineFeed] ["", " kinds:", "   - sum", "", "  - list", ""]) ∧
      value (join [.lineFeed] ["", " kinds:", "   - sum", "", "  - list", ""]) =
        join [.lineFeed] ["kinds:", "  - sum", "", " - list"] ∧
      ∀ line ∈ (splitOn .lineFeed
        (value (join [.lineFeed] ["", " kinds:", "   - sum", "", "  - list", ""]))).head?,
        ¬ Blank line := by
  have said : value (join [.lineFeed] ["", " kinds:", "   - sum", "", "  - list", ""]) =
      join [.lineFeed] ["kinds:", "  - sum", "", " - list"] := by
    rw [value_join (by decide)]
    decide
  refine ⟨?_, said, ?_⟩
  · exact value_indented.1 "" [" kinds:", "   - sum", "", "  - list", ""] "\t " (by decide)
      (by unfold Blank; decide)
  · refine (value_indented.2 _ ?_).1
    rw [said]
    decide

end BlockString

end SchemaForge
