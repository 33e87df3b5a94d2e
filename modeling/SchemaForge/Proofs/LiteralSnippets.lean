import SchemaForge.Proofs.AnnotationLayers
import SchemaForge.Proofs.CodeSnippets
import SchemaForge.Proofs.DocstringLiterals

/-!
# Literals and annotations as snippets

Texts of a schema get into generated code in three ways: quoted on one line, as the numbers and
names of values and types, and between triple quotes. This module shows for each that the reader
of lines is behind it where the text ends.

A quoted text holds nothing but printable code points and escapes, so no code point of the text
is lost on the way. A literal between triple quotes is asked for its end by the reader of
literals, which looks ahead for three quotes; the reader of lines counts them instead, so it
lags behind by the quotes it has counted. Their agreement is by induction on the text with this
number.
-/

namespace SchemaForge

namespace LogicalLine

variable {reader : Reader} {text : Text} {c mark : CodePoint}

/-! ## Quoted texts -/

/-- What is printable may stand in a source text. -/
theorem isSource_of_isPrintable (printable : c.isPrintable = true) : isSource c = true := by
  unfold CodePoint.isPrintable at printable
  have lone : c.isSurrogate = false := by
    rw [Bool.eq_false_iff]
    intro surrogate
    simp only [CodePoint.isSurrogate, Bool.and_eq_true, decide_eq_true_eq] at surrogate
    have listed : c.inRanges CodePoint.unprintableRanges = true := by
      refine List.any_eq_true.mpr ⟨(0xD7FC, 0xF8FF), by decide +kernel, ?_⟩
      simp only [Bool.and_eq_true, decide_eq_true_eq]
      omega
    rw [if_neg (by omega), listed] at printable
    cases printable
  have visible : 0x20 ≤ c.val := by
    split at printable
    · exact of_decide_eq_true printable
    · omega
  simp only [isSource, lone, Bool.not_false, Bool.and_true, Bool.and_eq_true, decide_eq_true_eq]
  constructor
  · omega
  · rintro rfl
    exact absurd visible (by decide)

/-- A code point that neither ends a literal nor its line belongs to the literal. -/
theorem step_within (source : isSource c = true) (feed : c ≠ .lineFeed) (escape : c ≠ .backslash)
    (other : c ≠ mark) (reader : Reader) (started : Bool) :
    (reader.turn (.short mark started)).step c =
      some ((reader.put [c]).turn (.short mark true), []) := by
  rw [step_short source, if_neg feed, if_neg escape, if_neg other]

/-- An escape belongs to the literal. -/
theorem takes_escape (source : isSource c = true) (reader : Reader) (started : Bool) :
    Takes (reader.turn (.short mark started)) [.backslash, c]
      ((reader.put [.backslash, c]).turn (.short mark true)) [] := by
  have opens : (reader.turn (.short mark started)).step .backslash =
      some ((reader.put [.backslash]).turn (.shortEscape mark), []) :=
    step_short (by decide) reader started
  have takes : ((reader.put [.backslash]).turn (.shortEscape mark)).step c =
      some (((reader.put [.backslash]).put [c]).turn (.short mark true), []) :=
    step_shortEscape source (reader.put [.backslash])
  rw [put_put] at takes
  exact .cons opens (.cons takes (takes_nil _))

/-- Names and numbers belong to the literal. -/
theorem takes_within (quotes : Quoted.isMark mark = true)
    (named : ∀ c ∈ text, c.isNameRest = true) (reader : Reader) :
    Takes (reader.turn (.short mark true)) text ((reader.put text).turn (.short mark true)) [] := by
  induction text generalizing reader with
  | nil =>
    rw [put_nil]
    exact takes_nil _
  | cons c rest inductionHypothesis =>
    obtain ⟨first, others⟩ := List.forall_mem_cons.mp named
    have plain := isPlain_of_isNameRest first
    have feed : c ≠ .lineFeed := by
      rintro rfl
      exact absurd first (by decide)
    have escape : c ≠ .backslash := by
      rintro rfl
      exact absurd first (by decide)
    have other : c ≠ mark := by
      rintro rfl
      obtain rfl | rfl := Quoted.eq_of_isMark quotes <;> exact absurd first (by decide)
    have further := inductionHypothesis others (reader.put [c])
    rw [put_put] at further
    exact .cons (step_within (Bool.and_eq_true_iff.mp plain).1 feed escape other reader true)
      further

/-- A code point by its number belongs to the literal. -/
theorem takes_numberEscape (quotes : Quoted.isMark mark = true) (c : CodePoint) (reader : Reader)
    (started : Bool) :
    Takes (reader.turn (.short mark started)) (Text.numberEscape c)
      ((reader.put (Text.numberEscape c)).turn (.short mark true)) [] := by
  have numbered (letter : CodePoint) (source : isSource letter = true) (width : Nat) :
      Takes (reader.turn (.short mark started))
        ([.backslash, letter] ++ Text.padded 16 width c.val)
        ((reader.put ([.backslash, letter] ++ Text.padded 16 width c.val)).turn
          (.short mark true)) [] := by
    have digits : ∀ digit ∈ Text.padded 16 width c.val, digit.isNameRest = true :=
      CodePoint.forall_mem_padded (by decide) width c.val
    have behind := takes_within quotes digits (reader.put [.backslash, letter])
    rw [put_put] at behind
    exact (takes_escape source reader started).append behind
  unfold Text.numberEscape
  split
  · exact numbered 'x' (by decide) 2
  · split
    · exact numbered 'u' (by decide) 4
    · exact numbered 'U' (by decide) 8

/-- What is written for a code point between quotes belongs to the literal. -/
theorem takes_quotedUnit (quotes : Quoted.isMark mark = true) (c : CodePoint) (reader : Reader)
    (started : Bool) :
    Takes (reader.turn (.short mark started)) (Text.quotedUnit mark c)
      ((reader.put (Text.quotedUnit mark c)).turn (.short mark true)) [] := by
  unfold Text.quotedUnit
  split
  · next doubled =>
    refine takes_escape ?_ reader started
    obtain rfl | rfl : c = mark ∨ c = .backslash := by simpa using doubled
    · obtain rfl | rfl := Quoted.eq_of_isMark quotes <;> decide
    · decide
  · next single =>
    obtain ⟨other, escape⟩ : c ≠ mark ∧ c ≠ .backslash := by simpa using single
    split
    · exact takes_escape (by decide) reader started
    · next feed =>
      split
      · exact takes_escape (by decide) reader started
      · split
        · exact takes_escape (by decide) reader started
        · split
          · next printable =>
            have source := isSource_of_isPrintable printable
            exact .cons (step_within source feed escape other reader started) (takes_nil _)
          · exact takes_numberEscape quotes c reader started

/-- A quoted text is a snippet. -/
theorem snippet_quoted (text : Text) : Snippet (Text.quoted text) := by
  have quotes := Quoted.isMark_quoteMark text
  have source : isSource (Text.quoteMark text) = true := by
    obtain marked | marked := Quoted.eq_of_isMark quotes <;> rw [marked] <;> decide
  have other : Text.quoteMark text ≠ .lineFeed ∧ Text.quoteMark text ≠ .backslash := by
    obtain marked | marked := Quoted.eq_of_isMark quotes <;> rw [marked] <;> decide
  unfold Text.quoted
  dsimp only
  generalize Text.quoteMark text = mark at quotes source other
  have units : ∀ (text : Text) (reader : Reader) (started : Bool), ∃ last,
      Takes (reader.turn (.short mark started)) (text.flatMap (Text.quotedUnit mark))
        ((reader.put (text.flatMap (Text.quotedUnit mark))).turn (.short mark last)) [] := by
    intro text
    induction text with
    | nil =>
      intro reader started
      rw [List.flatMap_nil, put_nil]
      exact ⟨started, takes_nil _⟩
    | cons c text inductionHypothesis =>
      intro reader started
      obtain ⟨last, behind⟩ := inductionHypothesis (reader.put (Text.quotedUnit mark c)) true
      rw [put_put] at behind
      exact ⟨last, (takes_quotedUnit quotes c reader started).append behind⟩
  intro reader
  have opening : (reader.turn (.code none)).step mark =
      some ((reader.put [mark]).turn (.short mark false), []) := by
    rw [step_code source, Reader.stepCode, if_pos quotes]
    rfl
  obtain ⟨last, inside⟩ := units text (reader.put [mark]) false
  rw [put_put] at inside
  have closing (reader : Reader) : (reader.turn (.short mark last)).step mark =
      some ((reader.put [mark]).turn (.code (if last then none else some mark)), []) := by
    rw [step_short source, if_neg other.1, if_neg other.2, if_pos rfl]
  have closed := Takes.cons (closing (reader.put ([mark] ++ text.flatMap (Text.quotedUnit mark))))
    (takes_nil _)
  rw [put_put] at closed
  exact ⟨_, .cons opening (inside.append closed)⟩

/-! ## Values -/

/-- A pair of brackets around a text. -/
theorem Snippet.between {opener closer : CodePoint} (pair : closer? opener = some closer)
    (inside : Snippet text) : Snippet (Text.concat [[opener], text, [closer]]) := by
  simpa [Text.concat] using Snippet.bracketed pair inside

/-- A text in square brackets. -/
theorem Snippet.subscripted (inside : Snippet text) : Snippet (Text.concat ["[", text, "]"]) :=
  .between rfl inside

/-- A text in parentheses. -/
theorem Snippet.parenthesized (inside : Snippet text) : Snippet (Text.concat ["(", text, ")"]) :=
  .between rfl inside

/-- A truth value is a snippet. -/
theorem snippet_boolean (yes : Bool) : Snippet (if yes then "True" else "False") := by
  cases yes <;> exact .plain (by decide)

/-- Nothing is a snippet as well. -/
theorem snippet_none : Snippet "None" := .plain (by decide)

mutual

/-- The literal of a value is a snippet. -/
theorem snippet_literal : ∀ value : Value, value.Numeric → Snippet value.literal
  | .string said _ _, _ => snippet_quoted said
  | .int digits span, numeric => .plain (fun c member => isPlain_of_isWordUnit
      (Constant.isWordUnit_of_number (numeric digits span (.inl .itself)) c member))
  | .float digits span, numeric => .plain (fun c member => isPlain_of_isWordUnit
      (Constant.isWordUnit_of_number (numeric digits span (.inr .itself)) c member))
  | .boolean yes _, _ => snippet_boolean yes
  | .null _, _ => snippet_none
  | .enum symbol _, _ => snippet_quoted symbol
  | .list values span, numeric => .between rfl (.join (by decide) (by decide)
      (snippet_literals values (fun _ member => numeric.inside (Value.inside_list member span))))
  | .object fields span, numeric => .between rfl (.join (by decide) (by decide)
      (snippet_entries fields (fun _ member => numeric.inside (Value.inside_object member span))))

/-- So are the literals of the values of a list. -/
theorem snippet_literals : ∀ values : List Value, (∀ value ∈ values, value.Numeric) →
    ∀ part ∈ Value.literals values, Snippet part
  | [], _ => by simp [Value.literals]
  | value :: values, numeric => List.forall_mem_cons.mpr
    ⟨snippet_literal value (numeric value List.mem_cons_self),
      snippet_literals values (fun other member => numeric other (List.mem_cons_of_mem _ member))⟩

/-- So are the literals of the fields of an object. -/
theorem snippet_entries : ∀ fields : List ObjectField, (∀ field ∈ fields, field.value.Numeric) →
    ∀ part ∈ ObjectField.literals fields, Snippet part
  | [], _ => by simp [ObjectField.literals]
  | field :: fields, numeric => List.forall_mem_cons.mpr
    ⟨snippet_entry field (numeric field List.mem_cons_self),
      snippet_entries fields (fun other member => numeric other (List.mem_cons_of_mem _ member))⟩

/-- So is the literal of one field. -/
theorem snippet_entry : ∀ field : ObjectField, field.value.Numeric →
    Snippet (ObjectField.literal field)
  | .mk name value span, numeric => by
    have entered : Snippet (": " ++ value.literal) :=
      .behind (by decide) (snippet_literal value numeric)
    have whole : ObjectField.literal (.mk name value span) =
        Text.quoted name ++ (": " ++ value.literal) := by
      simp [ObjectField.literal, Text.concat]
    rw [whole]
    exact (snippet_quoted name).append entered (.cons (by decide))

end

/-! ## Annotations -/

/-- The mark of a layer is plain. -/
theorem isPlain_nullMark (nullable : Bool) : ∀ c ∈ nullMark nullable, isPlain c = true := by
  cases nullable <;> decide

/-- An annotation of a type with a proper name is a snippet. -/
theorem snippet_annotation {type : TypeReference} (named : type.innermost.name.isName = true)
    (nullable : Bool) : Snippet (type.annotationWhen nullable) := by
  have unmarked (nullable : Bool) : Halts Quoted.isMark (nullMark nullable) := by
    cases nullable with
    | false => exact .nil
    | true => exact .cons (by decide)
  induction type generalizing nullable with
  | named type =>
    have all := (annotationName_isNameRest named).2
    have name : Snippet (annotationName type.name) :=
      .plain (fun c member => isPlain_of_isNameRest (all c member))
    simpa [TypeReference.annotationWhen, Text.concat] using
      name.append (.plain (isPlain_nullMark nullable)) (unmarked nullable)
  | list element span inductionHypothesis =>
    have elements : Snippet ("list" ++ ([CodePoint.ofChar '['] ++
        (element.annotationWhen true ++ [CodePoint.ofChar ']']))) :=
      .behind (by decide) (.bracketed rfl (inductionHypothesis named true))
    have whole := elements.append (.plain (isPlain_nullMark nullable)) (unmarked nullable)
    simpa [TypeReference.annotationWhen, Text.concat, Text.ofString] using whole
  | nonNull inner span inductionHypothesis => exact inductionHypothesis named false

/-! ## Literals between triple quotes -/

/-- In front of another code point, quotes that have been counted say themselves. -/
theorem readLiteralBody_counted {rest said behind : Text} (other : c ≠ .quote) {marks : Nat}
    (few : marks < 3)
    (read : readLiteralBody (List.replicate marks .quote ++ c :: rest) = some (said, behind)) :
    ∃ more, readLiteralBody (c :: rest) = some (more, behind) := by
  have passes {front : Text} (open_ : Text.after? (.quote :: front) tripleQuote = none)
      {said : Text} (read : readLiteralBody (.quote :: front) = some (said, behind)) :
      ∃ more, readLiteralBody front = some (more, behind) := by
    rw [readLiteralBody_plain (by decide) open_] at read
    obtain ⟨⟨more, _⟩, found, same⟩ := Option.map_eq_some_iff.mp read
    cases same
    exact ⟨more, found⟩
  have first : Text.after? (.quote :: c :: rest) tripleQuote = none := by
    simp [Text.after?, tripleQuote, other]
  have second : Text.after? (.quote :: .quote :: c :: rest) tripleQuote = none := by
    simp [Text.after?, tripleQuote, other]
  obtain rfl | rfl | rfl : marks = 0 ∨ marks = 1 ∨ marks = 2 := by omega
  · exact ⟨said, read⟩
  · exact passes first read
  · obtain ⟨more, found⟩ := passes second read
    exact passes first found

/-- A literal between triple quotes ends for the reader of lines where it ends for the reader of
literals. The reader of lines may have counted some of the quotes already. -/
theorem takes_literalBody (text : Text) (source : ∀ c ∈ text, isSource c = true) {marks : Nat}
    (few : marks < 3) {said behind : Text}
    (read : readLiteralBody (List.replicate marks .quote ++ text) = some (said, behind)) :
    ∃ body, text = body ++ behind ∧ ∀ reader : Reader,
      Takes (reader.turn (.long .quote marks)) body ((reader.put body).turn (.code none)) [] := by
  induction size : text.length using Nat.strongRecOn generalizing text marks said with
  | ind bound inductionHypothesis =>
    cases text with
    | nil =>
      obtain rfl | rfl | rfl : marks = 0 ∨ marks = 1 ∨ marks = 2 := by omega
      all_goals simp [readLiteralBody, Text.after?, tripleQuote, List.replicate] at read
    | cons c rest =>
      obtain ⟨first, others⟩ := List.forall_mem_cons.mp source
      have shorter : rest.length < bound := by
        rw [← size]
        exact Nat.lt_succ_self _
      by_cases quoted : c = .quote
      · subst quoted
        by_cases last : marks = 2
        · subst last
          have closed : List.replicate 2 CodePoint.quote ++ .quote :: rest =
              tripleQuote ++ rest := rfl
          rw [closed, readLiteralBody_closed] at read
          cases read
          exact ⟨[.quote], rfl, fun reader => .cons (step_long first reader 2) (takes_nil _)⟩
        · have counted : List.replicate marks CodePoint.quote ++ .quote :: rest =
              List.replicate (marks + 1) .quote ++ rest := by
            rw [List.replicate_succ', List.append_assoc]
            rfl
          rw [counted] at read
          obtain ⟨body, split, reads⟩ :=
            inductionHypothesis _ shorter rest others (by omega) read rfl
          have taken (reader : Reader) : (reader.turn (.long .quote marks)).step .quote =
              some ((reader.put [.quote]).turn (.long .quote (marks + 1)), []) := by
            rw [step_long first, if_neg (by decide), if_pos rfl, if_neg last]
          refine ⟨.quote :: body, by rw [split]; rfl, fun reader => ?_⟩
          have further := reads (reader.put [.quote])
          rw [put_put] at further
          exact .cons (taken reader) further
      · obtain ⟨more, found⟩ := readLiteralBody_counted quoted few read
        by_cases escapes : c = .backslash
        · subst escapes
          cases rest with
          | nil => cases found
          | cons d rest =>
            obtain ⟨second, others⟩ := List.forall_mem_cons.mp others
            rw [readLiteralBody_escape] at found
            obtain ⟨⟨further, _⟩, found, same⟩ := Option.map_eq_some_iff.mp found
            cases same
            obtain ⟨body, split, reads⟩ := inductionHypothesis rest.length
              (by rw [List.length_cons] at shorter; omega) rest others (show 0 < 3 by decide)
              found rfl
            have opens (reader : Reader) : (reader.turn (.long .quote marks)).step .backslash =
                some ((reader.put [.backslash]).turn (.longEscape .quote), []) :=
              step_long first reader marks
            refine ⟨.backslash :: d :: body, by rw [split]; rfl, fun reader => ?_⟩
            have behind := reads ((reader.put [.backslash]).put [d])
            have escaped := Takes.cons
              (step_longEscape second (reader.put [.backslash])) behind
            rw [put_put, put_put] at escaped
            exact .cons (opens reader) escaped
        · have unclosed : Text.after? (c :: rest) tripleQuote = none := by
            simp [Text.after?, tripleQuote, quoted]
          rw [readLiteralBody_plain escapes unclosed] at found
          obtain ⟨⟨further, _⟩, found, same⟩ := Option.map_eq_some_iff.mp found
          cases same
          obtain ⟨body, split, reads⟩ := inductionHypothesis rest.length shorter rest others
            (show 0 < 3 by decide) found rfl
          have taken (reader : Reader) : (reader.turn (.long .quote marks)).step c =
              some ((reader.put [c]).turn (.long .quote 0), []) := by
            rw [step_long first, if_neg escapes, if_neg quoted]
          refine ⟨c :: body, by rw [split]; rfl, fun reader => ?_⟩
          have behind := reads (reader.put [c])
          rw [put_put] at behind
          exact .cons (taken reader) behind

end LogicalLine

end SchemaForge
