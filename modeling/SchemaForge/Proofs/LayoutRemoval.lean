import SchemaForge.Proofs.InsertedLayout
import SchemaForge.Proofs.TokenTiling

/-!
# Texts without layout

What a text has besides its tokens is layout: ignored code points and comments. A stretch of the
text, from the beginning of one token to the end of another, is what its tokens say once the
layout is removed, as long as none of them is a string. A string is not spelled as it is read, and
a blank or a number sign in it is no layout.

A comment cannot be cut by the stretch, because a comment ends in front of a line end, and the
stretch goes on at least to the next token.
-/

namespace SchemaForge

/-! ## Removing layout -/

namespace Text

variable {rest body : Text}

/-- A text without its ignored code points and comments. -/
def withoutLayout : Text → Text
  | [] => []
  | c :: rest =>
    if c.isIgnored then withoutLayout rest
    else if c = '#' then withoutLayout (rest.dropWhile (fun c => !c.endsComment))
    else c :: withoutLayout rest
termination_by text => text.length
decreasing_by
  · exact Nat.lt_succ_self _
  · exact Nat.lt_succ_of_le (List.dropWhile_sublist _).length_le
  · exact Nat.lt_succ_self _

/-- An ignored code point is removed. -/
theorem withoutLayout_ignored {c : CodePoint} (ignored : c.isIgnored = true) :
    withoutLayout (c :: rest) = withoutLayout rest := by
  rw [withoutLayout, if_pos ignored]

/-- A comment is removed up to where it halts. -/
theorem withoutLayout_comment (line : ∀ c ∈ body, (!c.endsComment) = true)
    (halts : Halts (fun c => !c.endsComment) rest) :
    withoutLayout (CodePoint.ofChar '#' :: (body ++ rest)) = withoutLayout rest := by
  rw [withoutLayout, if_neg (by decide), if_pos rfl, List.dropWhile_append_of_pos line,
    show rest.dropWhile _ = rest from halts.dropWhile_append []]

/-- What holds no layout stays. -/
theorem withoutLayout_solid (solid : ∀ c ∈ body, ¬ c.Parts) (rest : Text) :
    withoutLayout (body ++ rest) = body ++ withoutLayout rest := by
  induction body with
  | nil => rfl
  | cons c body inductionHypothesis =>
    obtain ⟨ignored, sign⟩ := not_or.mp (solid c List.mem_cons_self)
    rw [List.cons_append, withoutLayout, if_neg ignored, if_neg sign,
      inductionHypothesis (fun d member => solid d (List.mem_cons_of_mem c member)),
      List.cons_append]

end Text

/-! ## Tokens of a stretch -/

/-- A word that is spelled as it is read and has no layout in it. -/
structure Solid (word : Reading) : Prop where
  /-- It is no string. -/
  unquoted : word.1.isString = false
  /-- No code point of it is taken for layout. -/
  dense : ∀ c ∈ word.2, ¬ c.Parts

/-- What is neither a comment nor a string is spelled as it is read. -/
theorem TokenKind.Spells.eq {kind : TokenKind} {value raw : Text} (spells : kind.Spells value raw)
    (other : kind ≠ .comment) (unquoted : kind.isString = false) : value = raw := by
  cases kind with
  | comment => exact absurd rfl other
  | string => cases unquoted
  | blockString => cases unquoted
  | _ => exact spells

namespace Lexeme

variable {c : CodePoint} {rest behind front back : Text} {lexeme : Lexeme}

/-- A lexeme goes with a front part of what follows it. -/
theorem cons_eq_front (found : read c rest = .ok lexeme) (split : lexeme.rest = front ++ back) :
    c :: rest = lexeme.raw ++ front ++ back := by
  rw [List.append_assoc, ← split, raw_append_rest found]

/-- A comment is removed with its number sign. -/
theorem withoutLayout_comment (found : read c rest = .ok lexeme) (kind : lexeme.kind = .comment)
    (halts : Halts lexeme.goesOn behind) :
    (lexeme.raw ++ behind).withoutLayout = behind.withoutLayout := by
  obtain ⟨rfl, rfl⟩ := eq_comment found kind
  have line := List.all_eq_true.mp (List.all_takeWhile (p := fun c => !c.endsComment) (l := rest))
  exact Text.withoutLayout_comment line halts

/-- A solid lexeme stays. -/
theorem withoutLayout_solid (found : read c rest = .ok lexeme) (other : lexeme.kind ≠ .comment)
    (solid : Solid (lexeme.kind, lexeme.value)) (behind : Text) :
    (lexeme.raw ++ behind).withoutLayout = lexeme.value ++ behind.withoutLayout := by
  have spelled : lexeme.value = lexeme.raw := (read_spells found).2.eq other solid.unquoted
  rw [← spelled]
  exact Text.withoutLayout_solid solid.dense behind

end Lexeme

/-! ## Stretches of a text -/

/-- Tokens that are no comments, one token at a time. -/
theorem meaningful_cons (token : Token) (tokens : List Token) :
    meaningful (token :: tokens) =
      if token.kind = .comment then meaningful tokens else token :: meaningful tokens := by
  unfold meaningful
  split
  · next comment => exact List.filter_cons_of_neg (by simpa using comment)
  · next other => exact List.filter_cons_of_pos (by simpa using other)

/-- A text begins with a stretch that stops at an offset and says so much without its layout. -/
def Stretch (place : Position) (text : Text) (stop : Nat) (said : Text) : Prop :=
  ∃ front rest, text = front ++ rest ∧ stop = (place.through front).offset ∧
    front.withoutLayout = said

namespace Stretch

variable {place : Position} {c : CodePoint} {rest said : Text} {stop : Nat} {lexeme : Lexeme}

/-- The end of input says nothing. -/
theorem finish (place : Position) : Stretch place [] place.offset [] := by
  refine ⟨[], [], rfl, rfl, ?_⟩
  rw [Text.withoutLayout]

/-- An ignored code point says nothing more. -/
theorem ignored (ignored : c.isIgnored = true) (stretch : Stretch (place.step c) rest stop said) :
    Stretch place (c :: rest) stop said := by
  obtain ⟨front, back, rfl, stops, told⟩ := stretch
  exact ⟨c :: front, back, rfl, stops, (Text.withoutLayout_ignored ignored).trans told⟩

/-- Nor does a comment. The stretch halts it, as it is what the text goes on with. -/
theorem comment (found : Lexeme.read c rest = .ok lexeme) (kind : lexeme.kind = .comment)
    (stretch : Stretch (place.through lexeme.raw) lexeme.rest stop said) :
    Stretch place (c :: rest) stop said := by
  obtain ⟨front, back, behind, stops, told⟩ := stretch
  rw [← Position.through_append] at stops
  have halts : Halts lexeme.goesOn front := (behind ▸ Lexeme.read_halts found).front
  have removed := Lexeme.withoutLayout_comment found kind halts
  exact ⟨lexeme.raw ++ front, back, Lexeme.cons_eq_front found behind, stops, removed.trans told⟩

/-- The last lexeme of a stretch says itself. -/
theorem last (found : Lexeme.read c rest = .ok lexeme) (other : lexeme.kind ≠ .comment)
    (solid : Solid (lexeme.kind, lexeme.value)) :
    Stretch place (c :: rest) (place.offset + lexeme.raw.length) lexeme.value := by
  have whole := Lexeme.withoutLayout_solid found other solid []
  rw [List.append_nil, Text.withoutLayout, List.append_nil] at whole
  exact ⟨lexeme.raw, lexeme.rest, (Lexeme.raw_append_rest found).symm,
    (place.through_offset_line lexeme.raw).1.symm, whole⟩

/-- Any other lexeme says itself in front of what the others say. -/
theorem more (found : Lexeme.read c rest = .ok lexeme) (other : lexeme.kind ≠ .comment)
    (solid : Solid (lexeme.kind, lexeme.value))
    (stretch : Stretch (place.through lexeme.raw) lexeme.rest stop said) :
    Stretch place (c :: rest) stop (lexeme.value ++ said) := by
  obtain ⟨front, back, behind, stops, told⟩ := stretch
  rw [← Position.through_append] at stops
  refine ⟨lexeme.raw ++ front, back, Lexeme.cons_eq_front found behind, stops, ?_⟩
  rw [Lexeme.withoutLayout_solid found other solid, told]

end Stretch

section Scanned

variable {place : Position} {text : Text} {tokens part before after : List Token}
  {first last : Token}

/-- A scan comes to where a token begins. By induction along the scan. -/
theorem scan_reaches (scanned : scan place text = .ok tokens)
    (split : meaningful tokens = before ++ first :: after) :
    ∃ front rest later, text = front ++ rest ∧ scan (place.through front) rest = .ok later ∧
      meaningful later = first :: after ∧ first.start = (place.through front).offset := by
  fun_induction scan place text generalizing tokens before with
  | case1 place =>
    cases scanned
    have single : [Token.finish place] = before ++ first :: after := split
    obtain ⟨rfl, same⟩ : before = [] ∧ first :: after = [Token.finish place] := by
      simpa using (List.append_eq_singleton_iff.mp single.symm)
    exact ⟨[], [], _, rfl, scan.eq_1 place, same.symm, congrArg Token.start (List.cons.inj same).1⟩
  | case2 place c rest ignored inductionHypothesis =>
    obtain ⟨front, back, later, rfl, ahead, same, start⟩ := inductionHypothesis scanned split
    exact ⟨c :: front, back, later, rfl, ahead, same, start⟩
  | case3 => cases scanned
  | case4 => cases scanned
  | case5 place c rest significant lexeme found _ others read inductionHypothesis =>
    cases scanned
    have further {front : List Token} (split : meaningful others = front ++ first :: after) :
        ∃ front behind later, c :: rest = front ++ behind ∧
          scan (place.through front) behind = .ok later ∧ meaningful later = first :: after ∧
          first.start = (place.through front).offset := by
      obtain ⟨front, back, later, behind, ahead, same, start⟩ := inductionHypothesis read split
      rw [← Position.through_append] at ahead start
      have whole := Lexeme.cons_eq_front found behind
      exact ⟨lexeme.raw ++ front, back, later, whole, ahead, same, start⟩
    rw [meaningful_cons] at split
    split at split
    · exact further split
    · cases before with
      | cons token before => exact further (List.cons.inj split).2
      | nil =>
        obtain ⟨rfl, rfl⟩ := List.cons.inj split
        refine ⟨[], c :: rest, Token.ofLexeme place lexeme :: others, rfl, ?_, ?_, rfl⟩
        · rw [show place.through [] = place from rfl, scan_lexeme place significant found, read]
          rfl
        · next other => rw [meaningful_cons, if_neg other]

/-- Up to the end of a token, a text without layout is what the tokens say. By induction along
the scan: the steps are those of a stretch. -/
theorem scan_stretch (scanned : scan place text = .ok tokens)
    (split : meaningful tokens = part ++ after) (ends : part.getLast? = some last)
    (solid : ∀ token ∈ part, Solid token.reading) :
    Stretch place text last.stop (part.flatMap Token.value) := by
  fun_induction scan place text generalizing tokens part with
  | case1 place =>
    cases scanned
    have single : [Token.finish place] = part ++ after := split
    cases part with
    | nil => cases ends
    | cons token part =>
      obtain ⟨rfl, none⟩ := List.cons.inj single
      obtain ⟨rfl, rfl⟩ := List.append_eq_nil_iff.mp none.symm
      obtain rfl := Option.some.inj ends
      exact .finish place
  | case2 place c rest ignored inductionHypothesis =>
    exact .ignored ignored (inductionHypothesis scanned split ends solid)
  | case3 => cases scanned
  | case4 => cases scanned
  | case5 place c rest significant lexeme found _ others read inductionHypothesis =>
    cases scanned
    rw [meaningful_cons] at split
    split at split
    · next comment => exact .comment found comment (inductionHypothesis read split ends solid)
    · next other =>
      cases part with
      | nil => cases ends
      | cons token part =>
        obtain ⟨rfl, remains⟩ := List.cons.inj split
        obtain ⟨here, further⟩ := List.forall_mem_cons.mp solid
        cases part with
        | nil =>
          obtain rfl := Option.some.inj ends
          rw [List.flatMap_singleton]
          exact .last found other here
        | cons next part =>
          rw [List.getLast?_cons_cons] at ends
          exact .more found other here (inductionHypothesis read remains ends further)

end Scanned

/-- From the beginning of one token to the end of another, a text without layout is what the
tokens say. -/
theorem slice_withoutLayout {text : Text} {tokens part : List Token} {first last : Token}
    (scanned : tokenize text = .ok tokens) (run : part <:+: meaningful tokens)
    (begins : part.head? = some first) (ends : part.getLast? = some last)
    (solid : ∀ token ∈ part, Solid token.reading) :
    (text.slice first.start last.stop).withoutLayout = part.flatMap Token.value := by
  obtain ⟨before, after, split⟩ := run
  obtain ⟨others, rfl⟩ := List.head?_eq_some_iff.mp begins
  rw [List.append_assoc, List.cons_append] at split
  obtain ⟨front, rest, later, rfl, ahead, same, start⟩ := scan_reaches scanned split.symm
  obtain ⟨stretch, back, rfl, stop, said⟩ := scan_stretch ahead same ends solid
  rw [Position.through_origin] at start
  rw [← Position.through_append, Position.through_origin] at stop
  rw [start, stop, Text.slice_append]
  exact said

end SchemaForge
