import SchemaForge.File.SchemaFile
import SchemaForge.Proofs.ModuleFiles

/-!
# The places of modules

A module is written to a file whose name ends as modules do, below directories whose names hold
no full stop: a package is cut at its full stops, and so is the name of the bindings module. So no
double dot is on the way but those of the root, and no module takes the name of a schema.

Two things might bring a full stop in. A name is written in small letters; but no letter has a
small form with a full stop. And names with the same bytes are the same name, so what is written is
the one spelling that reading the bytes gives; but bytes of ASCII are read one by one.
-/

namespace SchemaForge

/-! ## Small letters -/

/-- The code point of a number is the full stop only if the number is its number. -/
theorem CodePoint.ofNat_ne_dot {n : Nat} (other : n ≠ 0x2E) :
    CodePoint.ofNat n ≠ ('.' : Char) := by
  unfold CodePoint.ofNat
  split
  · intro same
    exact other (congrArg CodePoint.val same)
  · decide

/-- No small form has a full stop. -/
theorem CodePoint.toLower_dotless {c : CodePoint} (other : c ≠ ('.' : Char)) :
    CodePoint.ofChar '.' ∉ c.toLower := by
  have expansions : ∀ row ∈ lowerExpansions, ∀ n ∈ row.2, n ≠ 0x2E := by decide
  have runs : ∀ run ∈ lowerRuns, 0x2E < (run.first : Int) + run.shift := by decide +kernel
  unfold toLower
  split
  · split
    · next upper =>
      simp only [isUpper, between, Bool.and_eq_true, decide_eq_true_eq] at upper
      have first : 65 ≤ c.val := upper.1
      rw [List.mem_singleton]
      exact fun same => ofNat_ne_dot (by omega) same.symm
    · rw [List.mem_singleton]
      exact fun same => other same.symm
  · unfold mapCase
    split
    · next expansion found =>
      intro member
      obtain ⟨n, listed, same⟩ := List.mem_map.mp member
      exact ofNat_ne_dot (expansions expansion (List.mem_of_find?_eq_some found) n listed) same
    · split
      · next run found =>
        have holds := List.find?_some found
        simp only [CaseRun.holds, Bool.and_eq_true, decide_eq_true_eq] at holds
        have above := runs run (List.mem_of_find?_eq_some found)
        have first : run.first ≤ c.val := holds.1.1
        rw [List.mem_singleton]
        exact fun same => ofNat_ne_dot (by omega) same.symm
      · rw [List.mem_singleton]
        exact fun same => other same.symm

/-- A text without full stops has none in small letters. -/
theorem Text.lower_dotless {text : Text} (dotless : CodePoint.ofChar '.' ∉ text) :
    CodePoint.ofChar '.' ∉ Text.lower text := by
  have behind (before : Text) : CodePoint.ofChar '.' ∉ Text.lowerAfter before text := by
    induction text generalizing before with
    | nil => exact dotless
    | cons c rest inductionHypothesis =>
      rw [List.mem_cons, not_or] at dotless
      rw [Text.lowerAfter, List.mem_append, not_or]
      refine ⟨?_, inductionHypothesis dotless.2 (c :: before)⟩
      split
      · split <;> decide
      · exact CodePoint.toLower_dotless fun same => dotless.1 same.symm
  exact behind []

/-- The module of a name without full stops has none in its name. -/
theorem ModuleName.ofType_dotless {typeName : Text} (dotless : CodePoint.ofChar '.' ∉ typeName) :
    CodePoint.ofChar '.' ∉ ofType typeName := by
  have given : ∀ c ∈ typeName, c ≠ ('.' : Char) := by
    rintro c member rfl
    exact dotless member
  have underscore : CodePoint.ofChar '_' ≠ ('.' : Char) := by decide
  have words : ∀ c ∈ cutWords none (cutAcronyms none typeName), c ≠ ('.' : Char) :=
    cutWords_all underscore none (cutAcronyms_all underscore none given)
  have snake : CodePoint.ofChar '.' ∉ snake typeName :=
    Text.lower_dotless fun member => words _ member rfl
  unfold ofType identifier
  split
  · rw [List.mem_append, not_or]
    exact ⟨snake, by decide⟩
  · exact snake

/-! ## Parts of a file -/

namespace Text

variable {separator : CodePoint} {tail : Text}

/-- Where the separator is not in the rest of a text, the rest belongs to the last part. -/
theorem splitOn_append_of_not_mem (absent : separator ∉ tail) (text : Text) :
    ∃ front last, splitOn separator text = front ++ [last] ∧
      splitOn separator (text ++ tail) = front ++ [last ++ tail] := by
  induction text with
  | nil => exact ⟨[], [], rfl, splitOn_of_not_mem separator absent⟩
  | cons c rest inductionHypothesis =>
    obtain ⟨front, last, split, splitMore⟩ := inductionHypothesis
    by_cases here : c = separator
    · refine ⟨[] :: front, last, ?_, ?_⟩
      · rw [splitOn, if_pos here, split]
        rfl
      · rw [List.cons_append, splitOn, if_pos here, splitMore]
        rfl
    · cases front with
      | nil =>
        refine ⟨[], c :: last, ?_, ?_⟩
        · simp [splitOn, here, split]
        · simp [splitOn, here, splitMore]
      | cons first front =>
        refine ⟨(c :: first) :: front, last, ?_, ?_⟩
        · simp [splitOn, here, split]
        · simp [splitOn, here, splitMore]

/-- What is in a part is in the text. -/
theorem mem_of_mem_splitOn {c : CodePoint} {text part : Text}
    (member : part ∈ splitOn separator text) (inside : c ∈ part) : c ∈ text := by
  induction text generalizing part with
  | nil =>
    rw [List.mem_singleton.mp member] at inside
    exact inside
  | cons d rest inductionHypothesis =>
    obtain ⟨first, parts, split⟩ := List.exists_cons_of_ne_nil (splitOn_ne_nil separator rest)
    simp only [splitOn, split] at member inductionHypothesis
    split at member
    · obtain rfl | member := List.mem_cons.mp member
      · cases inside
      · exact List.mem_cons_of_mem _ (inductionHypothesis member inside)
    · obtain rfl | member := List.mem_cons.mp member
      · obtain rfl | inside := List.mem_cons.mp inside
        · exact List.mem_cons_self
        · exact List.mem_cons_of_mem _ (inductionHypothesis List.mem_cons_self inside)
      · exact List.mem_cons_of_mem _
          (inductionHypothesis (List.mem_cons_of_mem first member) inside)

end Text

namespace Path

/-- A part that comes from a text without full stops has none. -/
theorem partsOf_dotless {text : Text} (dotless : CodePoint.ofChar '.' ∉ text) :
    ∀ part ∈ partsOf text, CodePoint.ofChar '.' ∉ part := by
  intro part member inside
  exact dotless (Text.mem_of_mem_splitOn (List.mem_filter.mp member).1 inside)

/-- The parts of a path below a base: those of the text are last. -/
theorem parts_join (base : Path) (text : Text) :
    ∃ above, (base.join text).parts = above ++ partsOf text ∧ above ⊆ base.parts := by
  unfold join under
  split
  · exact ⟨[], rfl, by simp⟩
  · exact ⟨base.parts, rfl, List.Subset.refl _⟩

/-- Joining texts without full stops adds parts without. -/
theorem parts_foldl_dotless {texts : List Text}
    (dotless : ∀ text ∈ texts, CodePoint.ofChar '.' ∉ text) (base : Path) :
    ∀ part ∈ (texts.foldl join base).parts, part ∈ base.parts ∨ CodePoint.ofChar '.' ∉ part := by
  induction texts generalizing base with
  | nil => exact fun part member => .inl member
  | cons text texts inductionHypothesis =>
    rw [List.forall_mem_cons] at dotless
    intro part member
    obtain joined | free := inductionHypothesis dotless.2 (base.join text) part member
    · obtain ⟨above, parts, inside⟩ := parts_join base text
      rw [parts, List.mem_append] at joined
      obtain former | new := joined
      · exact .inl (inside former)
      · exact .inr (partsOf_dotless dotless.1 part new)
    · exact .inr free

end Path

namespace FileStore

/-- The file of a module: its name ends as modules do, and the directories above it are those of
the root or have no full stop. -/
theorem pathFor_parts (root : Path) (package : Text) {typeName : Text}
    (dotless : CodePoint.ofChar '.' ∉ typeName) :
    ∃ above last, (pathFor root package typeName).parts = above ++ [last ++ (".py" : Text)] ∧
      ∀ part ∈ above, part ∈ root.parts ∨ CodePoint.ofChar '.' ∉ part := by
  have name := ModuleName.ofType_dotless dotless
  have apart : CodePoint.ofChar '/' ∉ (".py" : Text) := by decide
  obtain ⟨front, last, split, splitFile⟩ :=
    Text.splitOn_append_of_not_mem apart (ModuleName.ofType typeName)
  have file : Path.partsOf (ModuleName.ofType typeName ++ ".py") =
      front.filter (fun part => !part.isEmpty && part ≠ ("." : Text)) ++ [last ++ (".py" : Text)] := by
    have speaks : last ++ (".py" : Text) ≠ ("." : Text) := by
      intro same
      have longer := congrArg List.length same
      simp [show (".py" : Text).length = 3 from rfl, show ("." : Text).length = 1 from rfl] at longer
    have given : last ++ (".py" : Text) ≠ [] := by simp [show (".py" : Text) ≠ [] by decide]
    unfold Path.partsOf
    rw [splitFile, List.filter_append]
    simp [speaks, given]
  obtain ⟨base, parts, inside⟩ :=
    Path.parts_join ((Text.splitOn ('.' : Char) package).foldl Path.join root)
      (ModuleName.ofType typeName ++ ".py")
  refine ⟨base ++ front.filter (fun part => !part.isEmpty && part ≠ ("." : Text)), last, ?_, ?_⟩
  · rw [List.append_assoc, ← file]
    exact parts
  · intro part member
    rw [List.mem_append] at member
    obtain above | listed := member
    · refine Path.parts_foldl_dotless ?_ root part (inside above)
      intro text piece
      exact Text.not_mem_of_mem_splitOn _ piece
    · have piece : part ∈ Text.splitOn ('/' : Char) (ModuleName.ofType typeName) := by
        rw [split]
        exact List.mem_append_left _ (List.mem_filter.mp listed).1
      exact .inr fun dot => name (Text.mem_of_mem_splitOn piece dot)

/-- The file of a module has no double dots but those of the root. -/
theorem pathFor_dotless {root : Path} (package : Text) {typeName : Text}
    (dotless : CodePoint.ofChar '.' ∉ typeName) (rootDotless : (".." : Text) ∉ root.parts) :
    (".." : Text) ∉ (pathFor root package typeName).parts := by
  obtain ⟨above, last, parts, free⟩ := pathFor_parts root package dotless
  rw [parts, List.mem_append, List.mem_singleton]
  rintro (member | same)
  · obtain given | dotless := free _ member
    · exact rootDotless given
    · exact dotless (by decide)
  · have ends := congrArg List.getLast? same
    rw [List.getLast?_append] at ends
    have ends : some (CodePoint.ofChar '.') = some (CodePoint.ofChar 'y') := ends
    exact absurd ends (by decide)

end FileStore

/-! ## Names of files -/

namespace Utf8

/-- A byte of ASCII goes on with no sequence. -/
theorem isSecond_ascii {byte : UInt8} (ascii : byte < 0x80) (first : UInt8) :
    isSecond first byte = false ∧ isContinuation byte = false := by
  have low : byte.toNat < 0x80 := ascii
  refine ⟨?_, ?_⟩
  · have above : 0x80 ≤ (secondRange first).1 := by
      unfold secondRange
      repeat' split
      all_goals decide
    have short : ¬ (secondRange first).1 ≤ byte.toNat := by omega
    simp [isSecond, short]
  · have short : ¬ (0x80 : UInt8) ≤ byte := by
      intro long
      have long : 0x80 ≤ byte.toNat := long
      omega
    simp [isContinuation, short]

/-- So a sequence in front of one is read as it is without. -/
theorem decodeOne_append {byte : UInt8} (ascii : byte < 0x80) (first : UInt8)
    (rest : List UInt8) :
    (∃ c width, decodeOne first rest = .ok (c, width) ∧ width - 1 ≤ rest.length ∧
        decodeOne first (rest ++ [byte]) = .ok (c, width)) ∨
      ∃ fault other, decodeOne first rest = .error fault ∧
        decodeOne first (rest ++ [byte]) = .error other := by
  obtain ⟨second, continuation⟩ := isSecond_ascii ascii first
  unfold decodeOne
  by_cases single : first < 0x80
  · rw [if_pos single, if_pos single]
    exact .inl ⟨_, _, rfl, Nat.zero_le _, rfl⟩
  rw [if_neg single, if_neg single]
  by_cases wrong : (first < 0xC2 || 0xF4 < first) = true
  · rw [if_pos wrong, if_pos wrong]
    exact .inr ⟨_, _, rfl, rfl⟩
  rw [if_neg wrong, if_neg wrong]
  rcases rest with _ | ⟨next, rest⟩
  · simp only [List.nil_append, second, Bool.not_false, ↓reduceIte]
    exact .inr ⟨_, _, rfl, rfl⟩
  dsimp only [List.cons_append]
  by_cases unfit : (!isSecond first next) = true
  · rw [if_pos unfit, if_pos unfit]
    exact .inr ⟨_, _, rfl, rfl⟩
  rw [if_neg unfit, if_neg unfit]
  by_cases double : first < 0xE0
  · rw [if_pos double, if_pos double]
    exact .inl ⟨_, _, rfl, by simp, rfl⟩
  rw [if_neg double, if_neg double]
  rcases rest with _ | ⟨third, rest⟩
  · simp only [List.nil_append, continuation, Bool.not_false, ↓reduceIte]
    exact .inr ⟨_, _, rfl, rfl⟩
  dsimp only [List.cons_append]
  by_cases unfitThird : (!isContinuation third) = true
  · rw [if_pos unfitThird, if_pos unfitThird]
    exact .inr ⟨_, _, rfl, rfl⟩
  rw [if_neg unfitThird, if_neg unfitThird]
  by_cases triple : first < 0xF0
  · rw [if_pos triple, if_pos triple]
    exact .inl ⟨_, _, rfl, by simp, rfl⟩
  rw [if_neg triple, if_neg triple]
  rcases rest with _ | ⟨fourth, rest⟩
  · simp only [List.nil_append, continuation, Bool.not_false, ↓reduceIte]
    exact .inr ⟨_, _, rfl, rfl⟩
  dsimp only [List.cons_append]
  by_cases unfitFourth : (!isContinuation fourth) = true
  · rw [if_pos unfitFourth]
    exact .inr ⟨_, _, rfl, rfl⟩
  rw [if_neg unfitFourth]
  exact .inl ⟨_, _, rfl, by simp, rfl⟩

/-- A byte of ASCII behind others is read by itself. -/
theorem decodeName_concat {byte : UInt8} (ascii : byte < 0x80) (bytes : List UInt8) :
    decodeName (bytes ++ [byte]) = decodeName bytes ++ [CodePoint.ofNat byte.toNat] := by
  fun_induction decodeName bytes with
  | case1 =>
    rw [List.nil_append, decodeName, decodeOne, if_pos ascii]
    simp [decodeName]
  | case2 first rest c width found inductionHypothesis =>
    obtain ⟨c', width', found', within, more⟩ | ⟨fault, other, failed, -⟩ :=
      decodeOne_append ascii first rest
    · rw [found] at found'
      cases found'
      rw [List.cons_append, decodeName, more]
      dsimp only
      rw [List.drop_append_of_le_length within, inductionHypothesis]
      rfl
    · rw [found] at failed
      cases failed
  | case3 first rest fault found inductionHypothesis =>
    obtain ⟨c, width, found', -⟩ | ⟨fault, other, failed, more⟩ :=
      decodeOne_append ascii first rest
    · rw [found] at found'
      cases found'
    · rw [List.cons_append, decodeName, more]
      dsimp only
      rw [inductionHypothesis]
      rfl

/-- The bytes of a name and one more code point of ASCII. -/
theorem encodeNameFrom_concat {c : CodePoint} (ascii : c.val < 0x80) {start : Nat} {name : Text}
    {bytes : List UInt8} (encoded : encodeNameFrom start (name ++ [c]) = .ok bytes) :
    ∃ front, bytes = front ++ [UInt8.ofNat c.val] := by
  induction name generalizing start bytes with
  | nil =>
    have plain : isEscapedByte c = false := by
      have low : ¬ 0xDC80 ≤ c.val := by omega
      simp [isEscapedByte, low]
    have whole : c.isSurrogate = false := by
      have low : ¬ 0xD800 ≤ c.val := by omega
      simp [CodePoint.isSurrogate, low]
    rw [List.nil_append, encodeNameFrom, plain, whole, encodeOne] at encoded
    simp only [ascii, ↓reduceIte, encodeNameFrom, Except.map] at encoded
    exact ⟨[], (Except.ok.inj encoded).symm⟩
  | cons d rest inductionHypothesis =>
    rw [List.cons_append, encodeNameFrom] at encoded
    cases behind : encodeNameFrom (start + 1) (rest ++ [c]) with
    | error fault =>
      rw [behind] at encoded
      split at encoded
      · cases encoded
      · split at encoded <;> cases encoded
    | ok others =>
      obtain ⟨front, rfl⟩ := inductionHypothesis behind
      rw [behind] at encoded
      split at encoded
      · cases encoded
        exact ⟨_ :: front, rfl⟩
      · split at encoded
        · cases encoded
        · cases encoded
          exact ⟨encodeOne d ++ front, (List.append_assoc _ _ _).symm⟩

/-- The one spelling of a name ends with the code point of ASCII that the name ends with. -/
theorem canonicalName_concat {c : CodePoint} (ascii : c.val < 0x80) (name : Text) :
    ∃ front, canonicalName (name ++ [c]) = front ++ [c] := by
  unfold canonicalName
  split
  · cases encoded : encodeName (name ++ [c]) with
    | error fault => exact ⟨name, rfl⟩
    | ok bytes =>
      obtain ⟨front, rfl⟩ := encodeNameFrom_concat ascii encoded
      have low : (UInt8.ofNat c.val).toNat = c.val := by
        rw [UInt8.toNat_ofNat', Nat.mod_eq_of_lt (by omega)]
      have same : CodePoint.ofNat c.val = c := by
        simp [CodePoint.ofNat, c.valid]
      refine ⟨decodeName front, ?_⟩
      change decodeName (front ++ [_]) = _
      rw [decodeName_concat (show (UInt8.ofNat c.val).toNat < 0x80 by omega), low, same]
  · exact ⟨name, rfl⟩

end Utf8

namespace SchemaFile

/-- A schema has a name that ends with one of two letters. -/
theorem getLast?_of_isSchemaPath {path : Path} (schema : isSchemaPath path = true) :
    path.name.getLast? = some (CodePoint.ofChar 'l') ∨
      path.name.getLast? = some (CodePoint.ofChar 's') := by
  have ends : path.suffix ≠ [] → path.name.getLast? = path.suffix.getLast? := by
    unfold Path.suffix
    rw [← List.head?_reverse]
    cases path.name.reverse with
    | nil => simp
    | cons c rest =>
      by_cases dot : c = ('.' : Char)
      · simp [dot]
      · intro given
        have tail : (c :: rest).takeWhile (fun (c : CodePoint) => decide (c ≠ '.')) =
            c :: rest.takeWhile (fun (c : CodePoint) => decide (c ≠ '.')) := by simp [dot]
        dsimp only at given ⊢
        rw [tail, List.reverse_cons] at given ⊢
        split at given
        · next long =>
          rw [if_pos long, ← List.cons_append, List.getLast?_concat]
          rfl
        · exact absurd rfl given
  have suffix : path.suffix = (".graphql" : Text) ∨ path.suffix = (".graphqls" : Text) := by
    simpa [isSchemaPath, suffixes] using schema
  obtain same | same := suffix
  · rw [ends (by rw [same]; decide), same]
    exact .inl rfl
  · rw [ends (by rw [same]; decide), same]
    exact .inr rfl

/-- A file whose name is one of a module is no schema. -/
theorem isSchemaPath_module (location : Location) (name : Text) :
    isSchemaPath ⟨[], location ++ [Utf8.canonicalName (name ++ (".py" : Text))]⟩ = false := by
  rw [Bool.eq_false_iff]
  intro schema
  have split : name ++ (".py" : Text) = (name ++ (".p" : Text)) ++ [CodePoint.ofChar 'y'] := by
    rw [List.append_assoc]
    rfl
  obtain ⟨front, spelled⟩ :=
    Utf8.canonicalName_concat (c := CodePoint.ofChar 'y') (by decide) (name ++ (".p" : Text))
  rw [split, spelled] at schema
  have ends := getLast?_of_isSchemaPath schema
  simp only [Path.name, List.getLastD_concat, List.getLast?_concat] at ends
  revert ends
  decide

end SchemaFile

end SchemaForge
