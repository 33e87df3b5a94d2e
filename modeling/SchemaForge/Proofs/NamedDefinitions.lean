import SchemaForge.Proofs.DefinitionReading
import SchemaForge.Proofs.LexemeBoundary
import SchemaForge.Proofs.ModuleFiles

/-!
# Definitions have names

A registry passes over a definition without a type name. No type is lost that way: a
name that is scanned is one of the schema language, which has at least one code point, and
a type is defined by a name. The second half is read off the grammar and not off the
parser, so it needs no word about cursors or errors.
-/

namespace SchemaForge

/-! ## Scanned names -/

/-- A name is not empty. -/
theorem Text.ne_nil_of_isName {text : Text} (named : text.isName = true) : text ≠ [] := by
  rintro rfl
  cases named

/-- No punctuator is a name. -/
theorem Lexeme.punctuator_ne_name {c : CodePoint} {kind : TokenKind}
    (mark : TokenKind.ofPunctuator? c = some kind) : kind ≠ .name := by
  have marks : ∀ entry ∈ punctuators, entry.2 ≠ .name := by decide
  exact marks _ (punctuator_mem mark)

/-- The value of a name is one of the schema language. -/
theorem Lexeme.read_name {c : CodePoint} {rest : Text} {lexeme : Lexeme}
    (accepted : Lexeme.read c rest = .ok lexeme) (named : lexeme.kind = .name) :
    lexeme.value.isName = true := by
  cases read_iff.mp accepted with
  | comment sign => cases named
  | block quoted opened closed => cases named
  | string quoted single closed => cases named
  | number begins found =>
    obtain ⟨kind | kind, -⟩ := number_kind found <;> rw [kind] at named <;> cases named
  | name begins =>
    have goesOn : c.isNameRest = true := by simp [CodePoint.isNameRest, begins]
    simp only [Lexeme.name, Text.isName, List.takeWhile_cons, goesOn, ↓reduceIte, List.head?_cons,
      Option.any_some, begins, Bool.true_and, List.all_cons]
    exact List.all_takeWhile
  | spread point further => cases named
  | punctuator mark => exact absurd named (punctuator_ne_name mark)

/-- Scanned tokens end with that of the end of input, and the names before it are such. -/
theorem scan_names {place : Position} {text : Text} {tokens : List Token}
    (scanned : scan place text = .ok tokens) :
    ∃ body finish, tokens = body ++ [finish] ∧ finish.kind = .endOfInput ∧
      ∀ token ∈ body, token.kind = .name → token.value.isName = true := by
  fun_induction scan place text generalizing tokens with
  | case1 place =>
    cases scanned
    exact ⟨[], _, rfl, rfl, by simp⟩
  | case2 place c rest ignored inductionHypothesis => exact inductionHypothesis scanned
  | case3 => cases scanned
  | case4 => cases scanned
  | case5 place c rest ignored lexeme found fewer others scannedRest inductionHypothesis =>
    cases scanned
    obtain ⟨body, finish, rfl, ended, named⟩ := inductionHypothesis scannedRest
    refine ⟨Token.ofLexeme place lexeme :: body, finish, rfl, ended, ?_⟩
    intro token member kind
    obtain rfl | member := List.mem_cons.mp member
    · exact Lexeme.read_name found kind
    · exact named token member kind

/-! ## Names of types -/

/-- The names among the words are such. -/
def NamesSpelled (words : List Reading) : Prop :=
  ∀ name : Text, (TokenKind.name, name) ∈ words → name.isName = true

/-- A name inside a phrase is spelled. -/
theorem NamePhrase.spelled {naming words : List Reading} {name : Text}
    (named : NamePhrase naming name) (inside : naming ⊆ words) (spelled : NamesSpelled words) :
    name.isName = true := by
  obtain ⟨name⟩ := named
  exact spelled name (inside (List.mem_singleton_self _))

/-- A definition of a type has a name. -/
theorem DefinitionPhrase.named {words : List Reading} {tree : Definition}
    (derived : DefinitionPhrase words tree) (spelled : NamesSpelled words)
    (defines : tree.DefinesType) : tree.typeName.isName = true := by
  obtain @⟨lead, rest, _, _, -, body⟩ := derived
  have inner : NamesSpelled rest := fun name member =>
    spelled name (List.mem_append_right lead member)
  cases body with
  | schema given => exact absurd (by simp [Definition.kind]) defines
  | directive given => exact absurd (by simp [Definition.kind]) defines
  | scalar given =>
    obtain ⟨introduced, named, directed⟩ := given
    exact named.spelled (by simp) inner
  | object given =>
    obtain ⟨introduced, named, implementing, directed, braced⟩ := given
    exact named.spelled (by simp) inner
  | interface given =>
    obtain ⟨introduced, named, implementing, directed, braced⟩ := given
    exact named.spelled (by simp) inner
  | union given =>
    obtain ⟨introduced, named, directed, listed⟩ := given
    exact named.spelled (by simp) inner
  | enum given =>
    obtain ⟨introduced, named, directed, braced⟩ := given
    exact named.spelled (by simp) inner
  | inputObject given =>
    obtain ⟨introduced, named, directed, braced⟩ := given
    exact named.spelled (by simp) inner

/-- So have all definitions of a document. -/
theorem DocumentPhrase.named {words : List Reading} {trees : List Definition}
    (derived : DocumentPhrase words trees) (spelled : NamesSpelled words) :
    ∀ tree ∈ trees, tree.DefinesType → tree.typeName.isName = true := by
  induction derived with
  | none => simp
  | @more words others first trees derived further inductionHypothesis =>
    intro tree member defines
    obtain rfl | member := List.mem_cons.mp member
    · exact derived.named (fun name inside => spelled name (List.mem_append_left others inside))
        defines
    · exact inductionHypothesis
        (fun name inside => spelled name (List.mem_append_right words inside)) tree member defines

/-- Every type that a schema text defines has a name of the schema language. -/
theorem parseDocument_isName {text : Text} {definitions : List Definition}
    (parsed : parseDocument text = .ok definitions) {definition : Definition}
    (member : definition ∈ definitions) (defines : definition.DefinesType) :
    definition.typeName.isName = true := by
  unfold parseDocument at parsed
  cases scanned : tokenize text with
  | error error => simp [scanned] at parsed
  | ok tokens =>
    simp only [scanned] at parsed
    obtain ⟨body, finish, rfl, ended, named⟩ := scan_names scanned
    obtain ⟨fine, rfl⟩ := definitionsOfTokens_eq_ok.mp parsed
    have derived := DocumentReading.ofCursor_sound (Cursor.sees_ofTokens ended body) fine
    have spelled : NamesSpelled (wordsOf body) := by
      intro name inside
      obtain ⟨token, kept, same⟩ := List.mem_map.mp inside
      obtain ⟨kind, rfl⟩ := Prod.mk.inj same
      exact named token (List.mem_filter.mp kept).1 kind
    have erased := derived.named spelled definition.withoutSpans
      (List.mem_map.mpr ⟨definition, member, rfl⟩)
      (definition.definesType_withoutSpans.mpr defines)
    rwa [definition.typeName_withoutSpans] at erased

/-- So it has a name that is not empty. -/
theorem parseDocument_named {text : Text} {definitions : List Definition}
    (parsed : parseDocument text = .ok definitions) {definition : Definition}
    (member : definition ∈ definitions) (defines : definition.DefinesType) :
    definition.typeName ≠ [] :=
  Text.ne_nil_of_isName (parseDocument_isName parsed member defines)

end SchemaForge
