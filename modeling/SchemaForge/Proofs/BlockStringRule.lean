import SchemaForge.Proofs.BlockStringLines

/-!
# The block string rule

The rule for the value of a block string is stated here without a way of computing it: lines end
at a line feed, a carriage return or both together, the later lines lose the least indentation
of one that is not blank, and blank lines at either end are left out. It gives each body one
value.

The value that is computed obeys the rule for a body in which every line end has become a line
feed. This is the body itself if nothing else ends its lines. Any other line end the rule takes
for content, which it never loses, but it is never in a value that is computed. So a body is
given the value of the rule exactly if it has no such line end.
-/

namespace SchemaForge.BlockString

open Text

variable {raw text line mark rest said indent : Text} {lines others kept : List Text}

/-! ## The rule -/

/-- The end of a line in front of a text, as the grammar of schemas has it. -/
inductive LineTerminator : Text → Text → Prop where
  | feed {rest : Text} : LineTerminator [.lineFeed] rest
  | lone {rest : Text} (alone : ∀ c ∈ rest.head?, c ≠ .lineFeed) :
      LineTerminator [.carriageReturn] rest
  | pair {rest : Text} : LineTerminator [.carriageReturn, .lineFeed] rest

/-- The lines of a body. The last one is not ended, and may be empty. -/
inductive HasLines : Text → List Text → Prop where
  | last {line : Text} (plain : ∀ c ∈ line, c ≠ .lineFeed ∧ c ≠ .carriageReturn) :
      HasLines line [line]
  | more {line mark rest : Text} {lines : List Text}
      (plain : ∀ c ∈ line, c ≠ .lineFeed ∧ c ≠ .carriageReturn)
      (ends : LineTerminator mark rest) (further : HasLines rest lines) :
      HasLines (line ++ (mark ++ rest)) (line :: lines)

/-- A line begins with so many blanks and tabs, and no more. -/
def IndentedBy (line : Text) (count : Nat) : Prop :=
  ∃ indent content, line = indent ++ content ∧ indent.length = count ∧ Blank indent ∧
    ∀ c ∈ content.head?, ¬ (c = ' ' ∨ c = .tab)

/-- What is taken off the later lines: the least indentation of one that is not blank, and
nothing if all of them are. -/
inductive CommonIndent (others : List Text) : Nat → Prop where
  | none (blank : ∀ line ∈ others, Blank line) : CommonIndent others 0
  | some {line : Text} {count : Nat} (listed : line ∈ others) (inked : ¬ Blank line)
      (indented : IndentedBy line count)
      (least : ∀ other ∈ others, ¬ Blank other → ∀ more, IndentedBy other more → count ≤ more) :
      CommonIndent others count

/-- The value the rule gives a body. -/
inductive RuleValue (raw : Text) : Text → Prop where
  | intro {first : Text} {others kept : List Text} {count : Nat}
      (lines : HasLines raw (first :: others)) (common : CommonIndent others count)
      (trims : Trims (first :: others.map (List.drop count)) kept) :
      RuleValue raw (join [.lineFeed] kept)

/-! ## What the rule says -/

/-- The blanks and tabs a line begins with are counted. -/
theorem indentedBy_iff {count : Nat} : IndentedBy line count ↔ indentation line = count := by
  constructor
  · rintro ⟨indent, content, rfl, rfl, blank, halts⟩
    have stops : content.takeWhile CodePoint.isIndent = [] := by
      cases content with
      | nil => rfl
      | cons c content =>
        have inked : ¬ c.isIndent = true := by
          rw [isIndent_iff]
          exact halts c rfl
        exact List.takeWhile_cons_of_neg inked
    rw [indentation_append blank, indentation, stops, List.length_nil, Nat.add_zero]
  · rintro rfl
    refine ⟨_, _, List.takeWhile_append_dropWhile.symm, rfl, ?_, ?_⟩
    · intro c member
      exact isIndent_iff.mp (List.all_eq_true.mp List.all_takeWhile c member)
    · intro c first
      rw [← isIndent_iff, Bool.not_eq_true]
      exact Halts.dropWhile CodePoint.isIndent line c first

/-- The common indentation is what the later lines share, if they share any. -/
theorem commonIndent_iff {count : Nat} :
    CommonIndent others count ↔ (sharedIndentation others).getD 0 = count := by
  constructor
  · rintro (blank | ⟨listed, inked, indented, least⟩)
    · rw [sharedIndentation_eq_none.mpr blank]
      rfl
    · have shared : sharedIndentation others = some count := by
        refine sharedIndentation_eq_some.mpr ⟨⟨_, listed, inked, indentedBy_iff.mp indented⟩, ?_⟩
        intro other member visible
        exact least other member visible _ (indentedBy_iff.mpr rfl)
      rw [shared]
      rfl
  · rintro rfl
    cases shared : sharedIndentation others with
    | none => exact .none (sharedIndentation_eq_none.mp shared)
    | some count =>
      obtain ⟨⟨line, listed, inked, indented⟩, least⟩ := sharedIndentation_eq_some.mp shared
      refine .some listed inked (indentedBy_iff.mpr indented) ?_
      intro other member visible more further
      rw [← indentedBy_iff.mp further]
      exact least other member visible

/-- A terminator is read as a line feed. -/
theorem LineTerminator.normalizeNewlines (ends : LineTerminator mark rest) :
    Text.normalizeNewlines (mark ++ rest) = .lineFeed :: Text.normalizeNewlines rest := by
  cases ends with
  | feed => exact normalizeNewlines_append (by decide) rest
  | lone alone =>
    apply normalizeNewlines_lone
    intro c first
    exact decide_eq_false (alone c first)
  | pair => exact normalizeNewlines_pair rest

/-- Every body has lines. -/
theorem exists_hasLines (raw : Text) : ∃ lines, HasLines raw lines := by
  have none : ∀ c ∈ ([] : Text), c ≠ .lineFeed ∧ c ≠ .carriageReturn := by simp
  induction raw using Text.normalizeNewlines.induct with
  | case1 => exact ⟨_, .last none⟩
  | case2 rest inductionHypothesis =>
    obtain ⟨lines, further⟩ := inductionHypothesis
    exact ⟨_, .more none .pair further⟩
  | case3 d rest other inductionHypothesis =>
    obtain ⟨lines, further⟩ := inductionHypothesis
    exact ⟨_, .more none (.lone (by simpa using other)) further⟩
  | case4 => exact ⟨_, .more none (.lone (by simp)) (.last none)⟩
  | case5 c rest other inductionHypothesis =>
    obtain ⟨lines, further⟩ := inductionHypothesis
    by_cases feed : c = .lineFeed
    · subst feed
      exact ⟨_, .more none .feed further⟩
    · -- The code point belongs to the first line of the rest.
      cases further with
      | last plain => exact ⟨_, .last (List.forall_mem_cons.mpr ⟨⟨feed, other⟩, plain⟩)⟩
      | more plain ends further =>
        exact ⟨_, .more (List.forall_mem_cons.mpr ⟨⟨feed, other⟩, plain⟩) ends further⟩

/-- The lines of a body are those between line feeds after carriage returns have been read as
line feeds. -/
theorem HasLines.splitOn_eq (lines : HasLines raw kept) :
    splitOn .lineFeed (normalizeNewlines raw) = kept := by
  induction lines with
  | @last line plain =>
    rw [normalizeNewlines_eq (fun member => (plain _ member).2 rfl)]
    exact splitOn_of_not_mem .lineFeed (fun member => (plain _ member).1 rfl)
  | more plain ends further inductionHypothesis =>
    rw [normalizeNewlines_append (fun member => (plain _ member).2 rfl), ends.normalizeNewlines,
      splitOn_append_cons, inductionHypothesis,
      splitOn_of_not_mem .lineFeed (fun member => (plain _ member).1 rfl)]
    rfl

/-- So the lines of a body can be computed. -/
theorem hasLines_iff : HasLines raw lines ↔ splitOn .lineFeed (normalizeNewlines raw) = lines := by
  constructor
  · exact HasLines.splitOn_eq
  · rintro rfl
    obtain ⟨lines, given⟩ := exists_hasLines raw
    rwa [given.splitOn_eq]

/-- What the rule says can be computed. -/
theorem ruleValue_iff :
    RuleValue raw said ↔ said = formatted (splitOn .lineFeed (normalizeNewlines raw)) := by
  constructor
  · rintro ⟨lines, common, trims⟩
    rw [lines.splitOn_eq, formatted, keptLines, unindent, commonIndent_iff.mp common,
      trims_iff.mp trims]
  · rintro rfl
    obtain ⟨first, others, split⟩ := List.exists_cons_of_ne_nil
      (splitOn_ne_nil .lineFeed (normalizeNewlines raw))
    have trims : Trims (unindent (first :: others)) (keptLines (first :: others)) :=
      trims_iff.mpr rfl
    rw [split]
    exact .intro (hasLines_iff.mpr split) (commonIndent_iff.mpr rfl) trims

/-! ## Where the rule is followed -/

/-- Reading carriage returns as line feeds leaves none, and all else stays. -/
theorem mem_normalizeNewlines {c : CodePoint} (other : c ≠ .lineFeed) :
    c ∈ normalizeNewlines text ↔ c ≠ .carriageReturn ∧ c ∈ text := by
  induction text using normalizeNewlines.induct with
  | case1 => simp [normalizeNewlines]
  | case2 rest inductionHypothesis =>
    rw [normalizeNewlines_pair]
    simp only [List.mem_cons, other, inductionHypothesis, false_or]
    exact and_congr_right fun kept => by simp [kept]
  | case3 d rest alone inductionHypothesis =>
    rw [normalizeNewlines_lone (.cons (by simpa using alone)), List.mem_cons, inductionHypothesis]
    simp only [other, false_or]
    exact and_congr_right fun kept => by simp [kept]
  | case4 => simp [normalizeNewlines, other]
  | case5 d rest kept inductionHypothesis =>
    have absent : CodePoint.carriageReturn ∉ [d] := by simpa using Ne.symm kept
    have stays := normalizeNewlines_append absent rest
    rw [List.singleton_append] at stays
    rw [stays, List.singleton_append, List.mem_cons, List.mem_cons, inductionHypothesis]
    constructor
    · rintro (rfl | ⟨same, member⟩)
      · exact ⟨kept, .inl rfl⟩
      · exact ⟨same, .inr member⟩
    · rintro ⟨same, rfl | member⟩
      · exact .inl rfl
      · exact .inr ⟨same, member⟩

/-- What is neither a blank nor a tab nor a new line is not lost by the rule. -/
theorem RuleValue.mem {c : CodePoint} (rule : RuleValue raw said) (inked : c.isIndent = false)
    (other : c ≠ .lineFeed) (kept : c ≠ .carriageReturn) (member : c ∈ raw) : c ∈ said := by
  rw [ruleValue_iff.mp rule, mem_formatted inked other]
  have inside : c ∈ normalizeNewlines raw := (mem_normalizeNewlines other).mpr ⟨kept, member⟩
  rw [← join_splitOn .lineFeed (normalizeNewlines raw)] at inside
  obtain feed | found := mem_join inside
  · exact absurd (List.mem_singleton.mp feed) other
  · exact found

/-- Blanks and tabs end no line. -/
theorem not_isIndent_of_isLineEnd {c : CodePoint} (ends : c.isLineEnd = true) :
    c.isIndent = false := by
  by_contra indents
  obtain rfl | rfl := isIndent_iff.mp (by simpa using indents) <;> exact absurd ends (by decide)

/-- Where every line end has become a line feed, there is no other. -/
theorem eq_lineFeed_of_mem_unified {c : CodePoint} (member : c ∈ unified text)
    (ends : c.isLineEnd = true) : c = .lineFeed := by
  obtain ⟨d, -, rfl⟩ := List.mem_map.mp member
  split
  · rfl
  · next plain =>
    rw [if_neg plain] at ends
    exact absurd ends plain

/-- A value that is computed has no line end but line feeds. -/
theorem eq_lineFeed_of_mem_value {c : CodePoint} (member : c ∈ value raw)
    (ends : c.isLineEnd = true) : c = .lineFeed := by
  by_contra other
  rw [value_eq, mem_formatted (not_isIndent_of_isLineEnd ends) other] at member
  obtain ⟨line, listed, inside⟩ := member
  have inside : c ∈ unified raw := by
    rw [← join_splitOn .lineFeed (unified raw)]
    exact mem_join_of_mem listed inside
  exact other (eq_lineFeed_of_mem_unified inside ends)

/-- Where no line ends otherwise, every line end becomes a line feed by reading carriage returns
as such. -/
theorem unified_eq (common : ∀ c ∈ raw, c.isLineEnd = true → c = .lineFeed ∨ c = .carriageReturn) :
    unified raw = normalizeNewlines raw := by
  refine (List.map_congr_left ?_).trans (List.map_id _)
  intro c member
  by_cases feed : c = .lineFeed
  · subst feed
    rfl
  · obtain ⟨kept, listed⟩ := (mem_normalizeNewlines feed).mp member
    have plain : ¬ c.isLineEnd = true := by
      intro ends
      obtain same | same := common c listed ends
      · exact feed same
      · exact kept same
    exact if_neg plain

/-- The value of a block string is the one the rule gives the body in which every line end has
become a line feed. The rule gives the body itself one value, and it is the same one exactly if
no line of it ends at anything but a line feed or a carriage return. -/
theorem value_followsRule (raw : Text) :
    RuleValue (unified raw) (value raw) ∧ (∃! said, RuleValue raw said) ∧
      (RuleValue raw (value raw) ↔
        ∀ c ∈ raw, c.isLineEnd = true → c = .lineFeed ∨ c = .carriageReturn) := by
  refine ⟨?_, ?_, ?_, ?_⟩
  · have absent : CodePoint.carriageReturn ∉ unified raw := by
      intro member
      exact absurd (eq_lineFeed_of_mem_unified member (by decide)) (by decide)
    rw [ruleValue_iff, normalizeNewlines_eq absent, value_eq]
  · exact ⟨_, ruleValue_iff.mpr rfl, fun said rule => ruleValue_iff.mp rule⟩
  · intro rule c member ends
    have inked : c.isIndent = false := not_isIndent_of_isLineEnd ends
    by_contra kept
    rw [not_or] at kept
    exact kept.1 (eq_lineFeed_of_mem_value (rule.mem inked kept.1 kept.2 member) ends)
  · intro common
    rw [ruleValue_iff, value_eq, unified_eq common]

/-- A body with a line separator in it. By the rule it is one line. -/
def separatedBody : Text := "a\u2028b"

/-- By the rule the body is its own value, but the value that is computed has two lines. -/
theorem separatedBody_breaksRule :
    RuleValue separatedBody separatedBody ∧ value separatedBody = "a\nb" ∧
      ¬ RuleValue separatedBody (value separatedBody) := by
  have read : normalizeNewlines separatedBody = separatedBody := normalizeNewlines_eq (by decide)
  have computed : value separatedBody = "a\nb" := by
    rw [value_eq, unified, read]
    decide
  refine ⟨?_, computed, ?_⟩
  · rw [ruleValue_iff, read]
    decide
  · rw [computed, ruleValue_iff, read]
    decide

end SchemaForge.BlockString
