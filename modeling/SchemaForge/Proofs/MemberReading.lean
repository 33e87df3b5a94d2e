import SchemaForge.Proofs.ConstantReading

/-!
# Reading directives and members

Arguments, applied directives, fields, input values and enum values. Each production
reads its parts one behind the other, so each proof follows the production: what is
accepted is taken apart from front to back, and a phrase is read from front to back.
The only obligation of a part is that the words behind it do not begin with what would
still belong to it; those words are the next part that is there, or the words behind
the whole.
-/

namespace SchemaForge

open Production Grammar

/-! ## Lists in brackets -/

section Bracketed

variable {α β : Type} {item : Production α} {view : α → β} {phrase : Phrase β}
  {stops kinds : List TokenKind}

/-- Items in parentheses, of which there is at least one, or nothing at all. -/
theorem parenthesized_reads (fault : GrammarFault)
    (reads : Reads item view phrase Anywhere (NextNot stops)) (begins : BeginsWith kinds phrase)
    (tells : ∀ kind ∈ kinds, kind ≠ .rightParen ∧ kind ∉ stops) (closes : .rightParen ∉ stops) :
    Reads (do
        if ← accept .leftParen then
          let given ← manyUntil .rightParen item
          if given.isEmpty then reject fault else pure given
        else pure [])
      (List.map view) (ParenthesizedPhrase phrase) Anywhere (NextNot [.leftParen]) :=
  (introduced_reads []
    (nonEmpty_reads fault (manyUntil_reads reads begins tells closes (by decide)))
    (by decide)).ending
    (fun ended => ⟨nextNot_nil _, fun same => ended (List.mem_singleton.mpr same)⟩)

/-- Items in braces, possibly none, or nothing at all. -/
theorem braced_reads (reads : Reads item view phrase Anywhere (NextNot stops))
    (begins : BeginsWith kinds phrase)
    (tells : ∀ kind ∈ kinds, kind ≠ .rightBrace ∧ kind ∉ stops) (closes : .rightBrace ∉ stops) :
    Reads (braced item) (List.map view) (BracedPhrase phrase) Anywhere (NextNot [.leftBrace]) :=
  (introduced_reads [] (manyUntil_reads reads begins tells closes (by decide)) (by decide)).ending
    (fun ended => ⟨nextNot_nil _, fun same => ended (List.mem_singleton.mpr same)⟩)

end Bracketed

/-! ## Directives -/

/-- An argument is a name, a colon and a constant. -/
theorem argument_reads :
    Reads argument Argument.withoutSpans ArgumentPhrase Anywhere (NextNot []) where
  sound := by
    intro cursor last ahead value sees _ accepted
    simp only [argument, bind_accepted, spanFrom_accepted, pure_accepted] at accepted
    obtain ⟨name, _, naming, _, _, dividing, value, _, valuing, _, _, ⟨rfl, rfl⟩, rfl, rfl⟩ :=
      accepted
    obtain ⟨_, _, rfl, seen, named⟩ := (expectName_reads _).sound sees trivial naming
    obtain ⟨_, _, rfl, seen, divided⟩ := expect_sound seen dividing (by decide)
    obtain ⟨_, rest, rfl, seen, given⟩ := constant_reads.sound seen trivial valuing
    exact ⟨_, rest, by simp, seen, .intro named divided given⟩
  complete := by
    intro cursor words rest tree sees derived _
    obtain ⟨named, divided, given⟩ := derived
    simp only [List.append_assoc] at sees
    obtain ⟨name, _, naming, seen, rfl⟩ :=
      (expectName_reads .argument).complete sees named (nextNot_nil _)
    obtain ⟨_, _, dividing, seen⟩ :=
      expect_complete (.expectedArgumentColon name.value) seen divided
    obtain ⟨value, last, valuing, seen, rfl⟩ := constant_reads.complete seen given (nextNot_nil _)
    exact ⟨_, last, accepted_bind naming <| accepted_bind dividing <| accepted_bind valuing <|
      accepted_bind rfl rfl, seen, rfl⟩

/-- An argument begins with its name. -/
theorem argument_begins : BeginsWith [.name] ArgumentPhrase := by
  rintro words tree ⟨⟨name⟩, divided, given⟩
  exact ⟨_, _, rfl, List.mem_singleton_self _⟩

/-- The arguments of a directive are in parentheses. -/
theorem arguments_reads :
    Reads arguments (List.map Argument.withoutSpans) (ParenthesizedPhrase ArgumentPhrase)
      Anywhere (NextNot [.leftParen]) :=
  parenthesized_reads .emptyDirectiveArguments argument_reads argument_begins (by decide)
    (by decide)

/-- A directive is read from its sign on, which has been seen. -/
theorem directive_reads :
    Reads directive Directive.withoutSpans DirectivePhrase
      (fun ahead => decide (nextKind ahead = TokenKind.at) = true) (NextNot [.leftParen]) where
  sound := by
    intro cursor last ahead value sees starts accepted
    obtain ⟨spelling, rest, rfl⟩ := exists_of_nextKind (of_decide_eq_true starts) (by decide)
    simp only [directive, bind_accepted, advance_accepted, spanFrom_accepted,
      pure_accepted] at accepted
    obtain ⟨_, _, ⟨rfl, rfl⟩, name, _, naming, given, _, listing, _, _, ⟨rfl, rfl⟩, rfl, rfl⟩ :=
      accepted
    obtain ⟨_, _, rfl, seen, named⟩ := (expectName_reads _).sound sees.advance trivial naming
    obtain ⟨_, rest, rfl, seen, listed⟩ := arguments_reads.sound seen trivial listing
    exact ⟨_ :: _, rest, by simp, seen, .intro (.intro spelling) named listed⟩
  complete := by
    intro cursor words rest tree sees derived ended
    obtain ⟨marked, named, listed⟩ := derived
    simp only [List.append_assoc] at sees
    obtain ⟨name, _, naming, seen, rfl⟩ :=
      (expectName_reads .directive).complete (marked.pass sees) named (nextNot_nil _)
    obtain ⟨given, last, listing, seen, rfl⟩ := arguments_reads.complete seen listed ended
    exact ⟨_, last, accepted_bind rfl <| accepted_bind naming <| accepted_bind listing <|
      accepted_bind rfl rfl, seen, rfl⟩

/-- A directive begins with its sign. -/
theorem directive_begins : BeginsWith [TokenKind.at] DirectivePhrase := by
  rintro words tree ⟨⟨spelling⟩, named, listed⟩
  exact ⟨_, _, rfl, List.mem_singleton_self _⟩

/-- Directives are read for as long as there is a sign. -/
theorem directives_reads :
    Reads directives (List.map Directive.withoutSpans) DirectivesPhrase Anywhere
      (NextNot [TokenKind.at, .leftParen]) where
  sound := by
    intro cursor last ahead values sees _ accepted
    obtain ⟨words, rest, rfl, seen, derived, -⟩ :=
      many_sound (fun kind => decide (kind = TokenKind.at)) directive_reads directive_begins sees
        accepted
    exact ⟨words, rest, rfl, seen, derived⟩
  complete := by
    intro cursor words rest trees sees derived ended
    exact many_complete (fun kind => decide (kind = TokenKind.at)) directive_reads
      directive_begins (by decide) sees derived (ended.of_subset (by simp))
      (decide_eq_false (fun same => ended (by simp [same])))

/-- Directives rule out whatever the words behind them do, apart from their own sign. -/
theorem directives_nextNot {words rest : List Reading} {trees : List Directive}
    {kinds : List TokenKind} (derived : DirectivesPhrase words trees)
    (different : TokenKind.at ∉ kinds) (ended : NextNot kinds rest) :
    NextNot kinds (words ++ rest) :=
  derived.nextNot directive_begins (by simpa using different) ended

/-! ## Members -/

/-- The kinds of word that a member begins with: those of its description and its name. -/
def memberKinds : List TokenKind := [.string, .blockString, .name]

/-- The kinds of word that would belong to the last part of a member. -/
def memberStops : List TokenKind := [.bang, .equals, TokenKind.at, .leftParen]

/-- A description and a name begin with a string or with the name. -/
theorem described_begins {lead naming rest : List Reading} {description : Option Text}
    {name : Text} (described : DescriptionPhrase lead description)
    (named : NamePhrase naming name) :
    ∃ word others, lead ++ (naming ++ rest) = word :: others ∧ word.1 ∈ memberKinds := by
  cases described with
  | missing =>
    obtain ⟨name⟩ := named
    exact ⟨_, _, rfl, by simp [memberKinds]⟩
  | @given kind quoted value =>
    refine ⟨_, _, rfl, ?_⟩
    cases kind <;> first | (simp [memberKinds]; done) | cases quoted

/-- A default value is introduced by an equals sign. -/
theorem defaultValue_reads :
    Reads defaultValue (Option.map Value.withoutSpans)
      (Introduced .equals (Present ConstantPhrase) none) Anywhere (NextNot [.equals]) := by
  have present : Reads (do let value ← constant; pure (some value))
      (Option.map Value.withoutSpans) (Present ConstantPhrase) Anywhere (NextNot []) := by
    constructor
    · intro cursor last ahead value sees _ accepted
      simp only [bind_accepted, pure_accepted] at accepted
      obtain ⟨value, _, valuing, rfl, rfl⟩ := accepted
      obtain ⟨words, rest, rfl, seen, given⟩ := constant_reads.sound sees trivial valuing
      exact ⟨words, rest, rfl, seen, .intro given⟩
    · intro cursor words rest tree sees derived ended
      obtain ⟨given⟩ := derived
      obtain ⟨value, last, valuing, seen, rfl⟩ := constant_reads.complete sees given ended
      exact ⟨some value, last, accepted_bind valuing rfl, seen, rfl⟩
  exact (introduced_reads none present (by decide)).ending
    (fun ended => ⟨nextNot_nil _, fun same => ended (List.mem_singleton.mpr same)⟩)

/-- An input value: description, name, type, default value and directives. -/
theorem inputValue_reads :
    Reads inputValue InputValue.withoutSpans InputValuePhrase Anywhere (NextNot memberStops) where
  sound := by
    intro cursor last ahead value sees _ accepted
    simp only [inputValue, bind_accepted, peek_accepted, spanFrom_accepted,
      pure_accepted] at accepted
    obtain ⟨_, _, ⟨rfl, rfl⟩, description, _, describing, name, _, naming, _, _, dividing, type, _,
      typing, fallback, _, defaulting, applied, _, directing, _, _, ⟨rfl, rfl⟩, rfl, rfl⟩ :=
      accepted
    obtain ⟨_, _, rfl, seen, described⟩ := description_reads.sound sees trivial describing
    obtain ⟨_, _, rfl, seen, named⟩ := (expectName_reads _).sound seen trivial naming
    obtain ⟨_, _, rfl, seen, divided⟩ := expect_sound seen dividing (by decide)
    obtain ⟨_, _, rfl, seen, typed⟩ := typeReference_reads.sound seen trivial typing
    obtain ⟨_, _, rfl, seen, defaulted⟩ := defaultValue_reads.sound seen trivial defaulting
    obtain ⟨_, rest, rfl, seen, directed⟩ := directives_reads.sound seen trivial directing
    exact ⟨_, rest, by simp, seen, .intro described named divided typed defaulted directed⟩
  complete := by
    intro cursor words rest tree sees derived ended
    obtain ⟨described, named, divided, typed, defaulted, directed⟩ := derived
    simp only [List.append_assoc] at sees
    obtain ⟨_, _, describing, seen, rfl⟩ :=
      description_reads.complete sees described (name_begins.nextNot named (by decide) _)
    obtain ⟨name, _, naming, seen, rfl⟩ :=
      (expectName_reads .argument).complete seen named (nextNot_nil _)
    obtain ⟨_, _, dividing, seen⟩ :=
      expect_complete (.expectedColonAfter name.value) seen divided
    obtain ⟨_, _, typing, seen, rfl⟩ := typeReference_reads.complete seen typed
      (defaulted.nextNot (by decide)
        (directives_nextNot directed (by decide) (ended.of_subset (by decide))))
    obtain ⟨_, _, defaulting, seen, rfl⟩ := defaultValue_reads.complete seen defaulted
      (directives_nextNot directed (by decide) (ended.of_subset (by decide)))
    obtain ⟨_, last, directing, seen, rfl⟩ :=
      directives_reads.complete seen directed (ended.of_subset (by decide))
    exact ⟨_, last, accepted_bind rfl <| accepted_bind describing <| accepted_bind naming <|
      accepted_bind dividing <| accepted_bind typing <| accepted_bind defaulting <|
      accepted_bind directing <| accepted_bind rfl rfl, seen, rfl⟩

/-- An input value begins with its description or its name. -/
theorem inputValue_begins : BeginsWith memberKinds InputValuePhrase := by
  rintro words tree ⟨described, named, divided, typed, defaulted, directed⟩
  exact described_begins described named

/-- Declared arguments are in parentheses. -/
theorem argumentDeclarations_reads :
    Reads argumentDeclarations (List.map InputValue.withoutSpans)
      (ParenthesizedPhrase InputValuePhrase) Anywhere (NextNot [.leftParen]) :=
  parenthesized_reads .emptyArguments inputValue_reads inputValue_begins (by decide) (by decide)

/-- A field: description, name, declared arguments, type and directives. -/
theorem field_reads :
    Reads field Field.withoutSpans FieldPhrase Anywhere (NextNot memberStops) where
  sound := by
    intro cursor last ahead value sees _ accepted
    simp only [field, bind_accepted, peek_accepted, spanFrom_accepted, pure_accepted] at accepted
    obtain ⟨_, _, ⟨rfl, rfl⟩, description, _, describing, name, _, naming, declared, _, listing,
      _, _, dividing, type, _, typing, applied, _, directing, _, _, ⟨rfl, rfl⟩, rfl, rfl⟩ :=
      accepted
    obtain ⟨_, _, rfl, seen, described⟩ := description_reads.sound sees trivial describing
    obtain ⟨_, _, rfl, seen, named⟩ := (expectName_reads _).sound seen trivial naming
    obtain ⟨_, _, rfl, seen, listed⟩ := argumentDeclarations_reads.sound seen trivial listing
    obtain ⟨_, _, rfl, seen, divided⟩ := expect_sound seen dividing (by decide)
    obtain ⟨_, _, rfl, seen, typed⟩ := typeReference_reads.sound seen trivial typing
    obtain ⟨_, rest, rfl, seen, directed⟩ := directives_reads.sound seen trivial directing
    exact ⟨_, rest, by simp, seen, .intro described named listed divided typed directed⟩
  complete := by
    intro cursor words rest tree sees derived ended
    obtain ⟨described, named, listed, divided, typed, directed⟩ := derived
    simp only [List.append_assoc] at sees
    obtain ⟨_, _, describing, seen, rfl⟩ :=
      description_reads.complete sees described (name_begins.nextNot named (by decide) _)
    obtain ⟨name, _, naming, seen, rfl⟩ :=
      (expectName_reads .field).complete seen named (nextNot_nil _)
    obtain ⟨_, _, listing, seen, rfl⟩ :=
      argumentDeclarations_reads.complete seen listed (divided.nextNot (by decide) _)
    obtain ⟨_, _, dividing, seen⟩ :=
      expect_complete (.expectedFieldColon name.value) seen divided
    obtain ⟨_, _, typing, seen, rfl⟩ := typeReference_reads.complete seen typed
      (directives_nextNot directed (by decide) (ended.of_subset (by decide)))
    obtain ⟨_, last, directing, seen, rfl⟩ :=
      directives_reads.complete seen directed (ended.of_subset (by decide))
    exact ⟨_, last, accepted_bind rfl <| accepted_bind describing <| accepted_bind naming <|
      accepted_bind listing <| accepted_bind dividing <| accepted_bind typing <|
      accepted_bind directing <| accepted_bind rfl rfl, seen, rfl⟩

/-- A field begins with its description or its name. -/
theorem field_begins : BeginsWith memberKinds FieldPhrase := by
  rintro words tree ⟨described, named, listed, divided, typed, directed⟩
  exact described_begins described named

/-- An enum value: description, a name that is no literal, and directives. -/
theorem enumMember_reads :
    Reads enumMember EnumMember.withoutSpans EnumMemberPhrase Anywhere
      (NextNot memberStops) where
  sound := by
    intro cursor last ahead value sees _ accepted
    simp only [enumMember, bind_accepted, peek_accepted] at accepted
    obtain ⟨_, _, ⟨rfl, rfl⟩, description, _, describing, name, _, naming, checked⟩ := accepted
    obtain ⟨_, _, rfl, seen, described⟩ := description_reads.sound sees trivial describing
    obtain ⟨_, _, rfl, seen, named⟩ := (expectName_reads _).sound seen trivial naming
    split at checked
    · cases checked
    · next free =>
      simp only [bind_accepted, spanFrom_accepted, pure_accepted] at checked
      obtain ⟨applied, _, directing, _, _, ⟨rfl, rfl⟩, rfl, rfl⟩ := checked
      obtain ⟨_, rest, rfl, seen, directed⟩ := directives_reads.sound seen trivial directing
      have unreserved : name.value ∉ literalNames := by
        simpa [reservedEnumValues, literalNames] using free
      exact ⟨_, rest, by simp, seen, .intro described named unreserved directed⟩
  complete := by
    intro cursor words rest tree sees derived ended
    obtain ⟨described, named, free, directed⟩ := derived
    simp only [List.append_assoc] at sees
    obtain ⟨description, _, describing, seen, rfl⟩ :=
      description_reads.complete sees described (name_begins.nextNot named (by decide) _)
    obtain ⟨name, _, naming, seen, rfl⟩ :=
      (expectName_reads .enumValue).complete seen named (nextNot_nil _)
    obtain ⟨applied, last, directing, seen, rfl⟩ :=
      directives_reads.complete seen directed (ended.of_subset (by decide))
    have unreserved : reservedEnumValues.contains name.value = false := by
      simpa [reservedEnumValues, literalNames] using free
    refine ⟨⟨name.value, applied, description, last.spanFrom cursor.current⟩, last,
      accepted_bind rfl <| accepted_bind describing <| accepted_bind naming ?_, seen, rfl⟩
    simp only [unreserved, Bool.false_eq_true, ↓reduceIte]
    exact accepted_bind directing <| accepted_bind rfl rfl

/-- An enum value begins with its description or its name. -/
theorem enumMember_begins : BeginsWith memberKinds EnumMemberPhrase := by
  rintro words tree ⟨described, named, free, directed⟩
  exact described_begins described named

end SchemaForge
