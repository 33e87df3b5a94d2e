import SchemaForge.Proofs.LiteralReading
import SchemaForge.Proofs.LogicalLines

/-!
# Snippets of code

A snippet is a text that stays on its logical line: a reader that comes to it in code is in code
behind it, with the same brackets open. Names, numbers and operators are snippets, so are quoted
texts and what stands between brackets, and snippets one behind the other are one snippet. A line
that is a snippet is read as that line.

One case needs care. Two marks that hold nothing between them leave the reader waiting for a
third, so no snippet that begins with a mark may follow. Nothing in generated code puts two
quoted texts next to each other.

A literal between triple quotes is a snippet as well, whatever lines it has. It ends where a
reader of literals says that it ends.
-/

namespace SchemaForge

namespace LogicalLine

variable {reader : Reader} {text front back : Text} {c mark : CodePoint}

/-! ## Readers in code -/

/-- More on a line, and then more. -/
@[simp] theorem put_put (reader : Reader) (text more : Text) :
    (reader.put text).put more = reader.put (text ++ more) := by
  simp [Reader.put]

/-- Nothing more on a line. -/
@[simp] theorem put_nil (reader : Reader) : reader.put [] = reader := by
  simp [Reader.put]

/-- What is on a line does not depend on what is being read. -/
@[simp] theorem put_turn (reader : Reader) (mode : Mode) (text : Text) :
    (reader.turn mode).put text = (reader.put text).turn mode := rfl

/-- Only what is being read last counts. -/
@[simp] theorem turn_turn (reader : Reader) (mode next : Mode) :
    (reader.turn mode).turn next = reader.turn next := rfl

/-- The code points that are more than code in a line of code. -/
def special : List CodePoint :=
  [.apostrophe, .quote, .backslash, .lineFeed, '#', '(', ')', '[', ']', '\x7b', '\x7d']

/-- A code point that is code and nothing else. -/
def isPlain (c : CodePoint) : Bool := isSource c && !special.contains c

/-- Plain code points are put on the line. -/
theorem step_plain (plain : isPlain c = true) (reader : Reader) (closed : Option CodePoint) :
    (reader.turn (.code closed)).step c = some ((reader.put [c]).turn (.code none), []) := by
  simp only [isPlain, Bool.and_eq_true, Bool.not_eq_true', List.contains_eq_mem,
    decide_eq_false_iff_not, special, List.mem_cons, List.not_mem_nil, not_or, or_false] at plain
  obtain ⟨source, apostrophe, quote, backslash, feed, hash, openers⟩ := plain
  have unmarked : Quoted.isMark c = false := by simp [Quoted.isMark, apostrophe, quote]
  have opens : closer? c = none := by simp [closer?, openers]
  have closes : isCloser c = false := by simp [isCloser, openers]
  rw [step_code source]
  simp only [Reader.stepCode, unmarked, hash, backslash, feed, opens, closes, if_false,
    Bool.false_eq_true]

/-- What names are made of can be seen. -/
theorem visible_of_isNameRest (named : c.isNameRest = true) : 0x30 ≤ c.val ∧ c.val < 0x80 := by
  refine ⟨?_, ModuleName.ascii_of_isNameRest named⟩
  simp only [CodePoint.isNameRest, CodePoint.isNameStart, CodePoint.isUpper, CodePoint.isLower,
    CodePoint.isDigit, CodePoint.between, Bool.or_eq_true, Bool.and_eq_true,
    decide_eq_true_eq] at named
  obtain ((upper | lower) | rfl) | decimal := named
  · exact Nat.le_trans (by decide) upper.1
  · exact Nat.le_trans (by decide) lower.1
  · decide
  · exact decimal.1

/-- What names are made of is plain. -/
theorem isPlain_of_isNameRest (named : c.isNameRest = true) : isPlain c = true := by
  have others : ∀ d ∈ special, d.isNameRest = false := by decide
  have visible := visible_of_isNameRest named
  have unspecial : c ∉ special := by
    intro listed
    rw [others c listed] at named
    cases named
  have source : isSource c = true := by
    simp only [isSource, CodePoint.isSurrogate, Bool.and_eq_true, decide_eq_true_eq,
      Bool.not_eq_true', Bool.and_eq_false_iff, decide_eq_false_iff_not]
    refine ⟨⟨by omega, ?_⟩, .inl (by omega)⟩
    rintro rfl
    exact absurd visible.1 (by decide)
  simp [isPlain, source, unspecial]

/-- What words and numbers are made of is plain. -/
theorem isPlain_of_isWordUnit (unit : Constant.isWordUnit c = true) : isPlain c = true := by
  simp only [Constant.isWordUnit, Bool.or_eq_true, decide_eq_true_eq] at unit
  obtain ((named | rfl) | rfl) | rfl := unit
  · exact isPlain_of_isNameRest named
  all_goals decide

/-- Plain text is put on the line. -/
theorem takes_plain (plain : ∀ c ∈ text, isPlain c = true) (some : text ≠ []) (reader : Reader)
    (closed : Option CodePoint) :
    Takes (reader.turn (.code closed)) text ((reader.put text).turn (.code none)) [] := by
  induction text generalizing reader closed with
  | nil => exact absurd rfl some
  | cons c rest inductionHypothesis =>
    obtain ⟨first, others⟩ := List.forall_mem_cons.mp plain
    have taken := step_plain first reader closed
    cases rest with
    | nil => exact .cons taken (takes_nil _)
    | cons d rest =>
      have further := inductionHypothesis others (List.cons_ne_nil d rest) (reader.put [c]) none
      rw [put_put] at further
      exact .cons taken further

/-- In front of anything but a mark, it does not matter whether a literal has been closed. -/
theorem step_unmarked (unmarked : Quoted.isMark c = false) (reader : Reader)
    (closed : Option CodePoint) :
    (reader.turn (.code closed)).step c = (reader.turn (.code none)).step c := by
  by_cases source : isSource c = true
  · rw [step_code source, step_code source, Reader.stepCode, Reader.stepCode, unmarked]
    rfl
  · rw [Reader.step, Reader.step, if_neg source, if_neg source]

/-! ## Snippets -/

/-- A text that a reader in code puts on the line as a whole, with the same brackets open. -/
def Snippet (text : Text) : Prop :=
  ∀ reader : Reader, ∃ closed,
    Takes (reader.turn (.code none)) text ((reader.put text).turn (.code closed)) []

namespace Snippet

/-- Nothing is a snippet. -/
theorem nil : Snippet [] := fun reader => ⟨none, by rw [put_nil]; exact takes_nil _⟩

/-- Plain text is a snippet. -/
theorem plain (plain : ∀ c ∈ text, isPlain c = true) : Snippet text := by
  intro reader
  by_cases some : text = []
  · rw [some]
    exact nil reader
  · exact ⟨none, takes_plain plain some reader none⟩

/-- Two snippets, of which the second does not begin with a mark, are one. -/
theorem append (first : Snippet front) (second : Snippet back) (apart : Halts Quoted.isMark back) :
    Snippet (front ++ back) := by
  intro reader
  obtain ⟨closed, begun⟩ := first reader
  obtain ⟨last, ended⟩ := second (reader.put front)
  cases back with
  | nil =>
    rw [List.append_nil]
    exact ⟨closed, begun⟩
  | cons c rest =>
    -- The first code point is taken in the same way whether or not a literal has been closed.
    have same : Takes ((reader.put front).turn (.code closed)) (c :: rest)
        (((reader.put front).put (c :: rest)).turn (.code last)) [] := by
      unfold Takes at ended ⊢
      rw [Reader.run, step_unmarked (apart c rfl)]
      exact ended
    rw [put_put] at same
    exact ⟨last, begun.append same⟩

/-- A snippet may follow plain text. -/
theorem behind (plain : ∀ c ∈ front, isPlain c = true) (second : Snippet back) :
    Snippet (front ++ back) := by
  by_cases some : front = []
  · rw [some]
    exact second
  · intro reader
    obtain ⟨last, ended⟩ := second (reader.put front)
    have begun := takes_plain plain some reader none
    rw [put_put] at ended
    exact ⟨last, begun.append ended⟩

/-- What stands between brackets may be any snippet. -/
theorem bracketed {opener closer : CodePoint} (pair : closer? opener = some closer)
    (inside : Snippet text) : Snippet (opener :: (text ++ [closer])) := by
  have brackets : isSource opener = true ∧ Quoted.isMark opener = false ∧
      opener ≠ '#' ∧ opener ≠ .backslash ∧ opener ≠ .lineFeed ∧ isSource closer = true ∧
      Quoted.isMark closer = false ∧ closer ≠ '#' ∧ closer ≠ .backslash ∧ closer ≠ .lineFeed ∧
      closer? closer = none ∧ isCloser closer = true := by
    unfold closer? at pair
    split at pair
    · next same => cases pair; subst same; decide
    · split at pair
      · next same => cases pair; subst same; decide
      · split at pair
        · next same => cases pair; subst same; decide
        · cases pair
  obtain ⟨source, unmarked, hash, backslash, feed, sourceToo, unmarkedToo, hashToo, backslashToo,
    feedToo, opens, closes⟩ := brackets
  intro reader
  obtain ⟨closed, within⟩ := inside { reader.put [opener] with closers := closer :: reader.closers }
  have opening : (reader.turn (.code none)).step opener =
      some (Reader.turn { reader.put [opener] with closers := closer :: reader.closers }
        (.code none), []) := by
    rw [step_code source]
    simp only [Reader.stepCode, unmarked, hash, backslash, feed, pair, if_false,
      Bool.false_eq_true]
    rfl
  have closing : (Reader.turn
      (Reader.put { reader.put [opener] with closers := closer :: reader.closers } text)
      (.code closed)).step closer =
        some ((reader.put (opener :: (text ++ [closer]))).turn (.code none), []) := by
    rw [step_code sourceToo]
    simp [Reader.stepCode, unmarkedToo, hashToo, backslashToo, feedToo, opens, closes, Reader.put,
      Reader.turn]
  exact ⟨none, .cons opening (within.append (.cons closing (takes_nil _)))⟩

/-- Snippets may be joined by plain text. -/
theorem join {separator : Text} (plain : ∀ c ∈ separator, isPlain c = true)
    (some : separator ≠ []) {parts : List Text} (snippets : ∀ part ∈ parts, Snippet part) :
    Snippet (Text.join separator parts) := by
  induction parts with
  | nil => exact nil
  | cons part parts inductionHypothesis =>
    obtain ⟨first, others⟩ := List.forall_mem_cons.mp snippets
    cases parts with
    | nil => exact first
    | cons next parts =>
      rw [Text.join_cons _ _ (List.cons_ne_nil next parts), List.append_assoc]
      refine first.append (behind plain (inductionHypothesis others)) ?_
      obtain ⟨c, rest, rfl⟩ := List.exists_cons_of_ne_nil some
      refine .cons (Bool.eq_false_iff.mpr fun marked => ?_)
      have unmarked := plain c List.mem_cons_self
      obtain rfl | rfl := Quoted.eq_of_isMark marked <;> exact absurd unmarked (by decide)

end Snippet

end LogicalLine

end SchemaForge
