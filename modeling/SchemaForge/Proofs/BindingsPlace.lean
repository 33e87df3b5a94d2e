import SchemaForge.Proofs.BindingsListing
import SchemaForge.Proofs.ModulePlaces
import SchemaForge.Proofs.WordStarts

/-!
# Where the bindings module lands

The bindings module is asked for by a dotted name. The part behind the last dot is treated like
the name of a type: it is written in snake case, and a reserved word gets an underscore. So the
module lands under the name that was asked for exactly if these leave the last part as it is. That
is the case if the part is in small letters already and is no reserved word. Whatever the last
part is, the package in front of it is the one that was asked for.
-/

namespace SchemaForge

/-! ## Small letters -/

namespace CodePoint

/-- A code point behind the last capital of ASCII is none. -/
theorem isUpper_ofNat {n : Nat} (above : 0x5A < n) : (ofNat n).isUpper = false := by
  unfold ofNat
  split
  · have beyond : ¬ n ≤ 0x5A := by omega
    simp only [isUpper, between, Bool.and_eq_false_iff, decide_eq_false_iff_not]
    exact .inr beyond
  · decide

/-- No small form has a capital of ASCII. -/
theorem isUpper_toLower (c : CodePoint) : ∀ d ∈ c.toLower, d.isUpper = false := by
  have expansions : ∀ row ∈ lowerExpansions, ∀ n ∈ row.2, 0x5A < n := by decide
  have runs : ∀ run ∈ lowerRuns, 0x5A < (run.first : Int) + run.shift := by decide +kernel
  unfold toLower
  split
  · split
    · next upper =>
      simp only [isUpper, between, Bool.and_eq_true, decide_eq_true_eq] at upper
      have first : 65 ≤ c.val := upper.1
      exact List.forall_mem_singleton.mpr (isUpper_ofNat (by omega))
    · next small => exact List.forall_mem_singleton.mpr (by simpa using small)
  · next wide =>
    have plain : c.isUpper = false := by
      have beyond : ¬ c.val ≤ 0x5A := by omega
      simp only [isUpper, between, Bool.and_eq_false_iff, decide_eq_false_iff_not]
      exact .inr beyond
    unfold mapCase
    split
    · next expansion found =>
      rw [List.forall_mem_map]
      intro n listed
      exact isUpper_ofNat (expansions expansion (List.mem_of_find?_eq_some found) n listed)
    · split
      · next run found =>
        have holds := List.find?_some found
        simp only [CaseRun.holds, Bool.and_eq_true, decide_eq_true_eq] at holds
        have above := runs run (List.mem_of_find?_eq_some found)
        have first : run.first ≤ c.val := holds.1.1
        exact List.forall_mem_singleton.mpr (isUpper_ofNat (by omega))
      · exact List.forall_mem_singleton.mpr plain

end CodePoint

/-- A text in small letters has no capitals of ASCII. By induction on the text. -/
theorem Text.isUpper_lower (text : Text) : ∀ c ∈ Text.lower text, c.isUpper = false := by
  have behind (before : Text) : ∀ c ∈ Text.lowerAfter before text, c.isUpper = false := by
    induction text generalizing before with
    | nil => simp [Text.lowerAfter]
    | cons c rest inductionHypothesis =>
      rw [Text.lowerAfter, List.forall_mem_append]
      refine ⟨?_, inductionHypothesis (c :: before)⟩
      split
      · split <;> decide
      · exact c.isUpper_toLower
  exact behind []

namespace ModuleName

/-- Without capitals of ASCII the snake case of a name is the name in small letters. -/
theorem snake_of_small {name : Text} (small : ∀ c ∈ name, c.isUpper = false) :
    snake name = Text.lower name := by
  rw [snake, cutWords_cutAcronyms, cutAll_eq_self none small]

/-- A name is its own in snake case exactly if it is in small letters. -/
theorem snake_eq_self_iff {name : Text} : snake name = name ↔ Text.lower name = name := by
  -- Either form of a name has no capitals, so a name that is its own form has none.
  have small {other : Text} (same : Text.lower other = name) : snake name = Text.lower name :=
    snake_of_small fun c member => Text.isUpper_lower other c (same ▸ member)
  constructor
  · intro same
    rw [← small same, same]
  · intro same
    rw [small same, same]

/-- A name is that of its own module exactly if it is in small letters and not reserved. -/
theorem ofType_eq_self_iff {name : Text} :
    ofType name = name ↔ Text.lower name = name ∧ name ∉ keywords := by
  have shifted : ∀ word ∈ keywords, snake (word ++ ("_" : Text)) ≠ word := by decide +kernel
  unfold ofType identifier
  constructor
  · intro same
    split at same
    · next reserved =>
      have reserved : snake name ∈ keywords := List.contains_iff_mem.mp reserved
      exact absurd (congrArg snake same) (shifted _ reserved)
    · next free =>
      have free : snake name ∉ keywords := fun member => free (List.contains_iff_mem.mpr member)
      rw [same] at free
      exact ⟨snake_eq_self_iff.mp same, free⟩
  · rintro ⟨small, free⟩
    rw [snake_eq_self_iff.mpr small, if_neg fun held => free (List.contains_iff_mem.mp held)]

end ModuleName

/-! ## Names that are asked for -/

/-- The dotted name that is asked for. The default package stands in front of a name without
dots. -/
def requestedModule (defaultPackage qualified : Text) : Text :=
  if CodePoint.ofChar '.' ∈ qualified then qualified
  else Text.concat [defaultPackage, ".", qualified]

/-- A text with slashes in the place of dots. -/
def Text.slashed (dotted : Text) : Text :=
  dotted.map (fun (c : CodePoint) => if c = ('.' : Char) then CodePoint.ofChar '/' else c)

/-- The file of a dotted name: dots become slashes. -/
def moduleFile (dotted : Text) : Text := Text.slashed dotted ++ ".py"

/-- The part of a dotted name behind the last dot. -/
def lastPart (qualified : Text) : Text := (Text.splitOn ('.' : Char) qualified).getLastD []

/-- Parts between dots are joined by slashes where the dots were. By induction on the text. -/
theorem Text.join_splitOn_slashed (dotted : Text) :
    Text.join "/" (Text.splitOn ('.' : Char) dotted) = Text.slashed dotted := by
  induction dotted with
  | nil => rfl
  | cons c rest inductionHypothesis =>
    obtain ⟨part, parts, split⟩ :=
      List.exists_cons_of_ne_nil (Text.splitOn_ne_nil ('.' : Char) rest)
    rw [split] at inductionHypothesis
    rw [Text.splitOn, split, Text.slashed, List.map_cons, ← Text.slashed, ← inductionHypothesis]
    by_cases dot : c = ('.' : Char)
    · rw [if_pos dot, if_pos dot, Text.join_cons _ _ (List.cons_ne_nil part parts)]
      rfl
    · rw [if_neg dot, if_neg dot]
      cases parts with
      | nil => rfl
      | cons next parts => rfl

/-- A text without dots has nothing to replace. -/
theorem Text.slashed_of_dotless {text : Text} (dotless : CodePoint.ofChar '.' ∉ text) :
    Text.slashed text = text := by
  refine (List.map_congr_left ?_).trans (List.map_id text)
  intro c member
  rw [if_neg (fun same : c = ('.' : Char) => dotless (same ▸ member))]
  rfl

/-- The file of a name without dots in a package. -/
theorem moduleFile_concat (package : Text) {name : Text} (dotless : CodePoint.ofChar '.' ∉ name) :
    moduleFile (Text.concat [package, ".", name]) =
      Text.slashed package ++ ("/" : Text) ++ name ++ (".py" : Text) := by
  have pieces : Text.concat [package, ".", name] = package ++ (("." : Text) ++ name) := by
    simp [Text.concat]
  have behind : Text.slashed (("." : Text) ++ name) = ("/" : Text) ++ Text.slashed name := rfl
  rw [moduleFile, pieces, Text.slashed, List.map_append, ← Text.slashed, ← Text.slashed, behind,
    Text.slashed_of_dotless dotless]
  simp only [List.append_assoc]

/-- The last part of a dotted name has no dots. -/
theorem lastPart_dotless (qualified : Text) : CodePoint.ofChar '.' ∉ lastPart qualified := by
  have some := Text.splitOn_ne_nil ('.' : Char) qualified
  rw [lastPart, List.getLastD_eq_getLast?, List.getLast?_eq_some_getLast some]
  exact Text.not_mem_of_mem_splitOn _ (List.getLast_mem some)

/-- A dotted name is its package, a dot and its last part; without dots it is its last part. -/
theorem splitQualified_cases {qualified : Text}
    (named : ∀ part ∈ Text.splitOn ('.' : Char) qualified, part ≠ []) :
    (CodePoint.ofChar '.' ∉ qualified ∧
        Generation.splitQualified qualified = ([], qualified) ∧ lastPart qualified = qualified) ∨
      ∃ package, package ≠ [] ∧
        Generation.splitQualified qualified = (package, lastPart qualified) ∧
        qualified = Text.concat [package, ".", lastPart qualified] ∧
        CodePoint.ofChar '.' ∈ qualified := by
  have whole := Text.join_splitOn ('.' : Char) qualified
  obtain nothing | ⟨front, last, split⟩ :=
    List.eq_nil_or_concat' (Text.splitOn ('.' : Char) qualified)
  · exact absurd nothing (Text.splitOn_ne_nil _ _)
  have ends : lastPart qualified = last := by
    rw [lastPart, split, List.getLastD_concat]
  cases front with
  | nil =>
    rw [split] at whole
    have whole : last = qualified := whole
    have same : lastPart qualified = qualified := ends.trans whole
    refine .inl ⟨same ▸ lastPart_dotless qualified, ?_, same⟩
    rw [Generation.splitQualified, split, whole]
    rfl
  | cons first front =>
    have some : Text.join "." (first :: front) ≠ [] :=
      Text.join_ne_nil _ List.mem_cons_self (named first (by simp [split]))
    have parted : qualified = Text.concat [Text.join "." (first :: front), ".", last] := by
      rw [split, Text.join_concat _ _ (List.cons_ne_nil first front)] at whole
      rw [← whole, Text.concat, List.flatten_cons, List.flatten_cons, List.flatten_singleton,
        List.append_assoc]
      rfl
    refine .inr ⟨Text.join "." (first :: front), some, ?_, by rw [ends]; exact parted, ?_⟩
    · rw [Generation.splitQualified, ends, split, List.dropLast_concat, List.getLastD_concat]
    · rw [parted]
      simp [Text.concat, Text.ofString]

namespace Generation

variable {defaultPackage qualified : Text} {artifacts : List Artifact} {artifact : Artifact}

/-- The bindings module is in the package that is asked for, and is named after the last part. -/
theorem bindingsArtifact?_named
    (named : ∀ part ∈ Text.splitOn ('.' : Char) qualified, part ≠ [])
    (wanted : bindingsArtifact? defaultPackage (some qualified) artifacts = some artifact) :
    artifact.typeName = lastPart qualified ∧
      requestedModule defaultPackage qualified =
        Text.concat [artifact.package, ".", lastPart qualified] := by
  unfold bindingsArtifact? at wanted
  split at wanted
  · cases wanted
  · cases wanted
  · next given same =>
    obtain rfl := Option.some.inj same
    dsimp only at wanted
    split at wanted
    · cases wanted
    · obtain rfl := Option.some.inj wanted
      obtain ⟨dotless, split, ends⟩ | ⟨package, some, split, whole, dotted⟩ :=
        splitQualified_cases named
      · refine ⟨by rw [split, ends], ?_⟩
        rw [requestedModule, if_neg dotless, split, ends]
        rfl
      · have given : package.isEmpty = false := by simpa using some
        refine ⟨by rw [split], ?_⟩
        rw [requestedModule, if_pos dotted, split, given]
        exact whole

/-- The bindings module has the name and the file that are asked for exactly if the last part is
in small letters and is no reserved word. -/
theorem bindingsArtifact?_lands
    (named : ∀ part ∈ Text.splitOn ('.' : Char) qualified, part ≠ [])
    (wanted : bindingsArtifact? defaultPackage (some qualified) artifacts = some artifact) :
    (artifact.qualifiedName = requestedModule defaultPackage qualified ↔
      Text.lower (lastPart qualified) = lastPart qualified ∧
        lastPart qualified ∉ ModuleName.keywords) ∧
    (artifact.relativePath = moduleFile (requestedModule defaultPackage qualified) ↔
      Text.lower (lastPart qualified) = lastPart qualified ∧
        lastPart qualified ∉ ModuleName.keywords) := by
  obtain ⟨name, requested⟩ := bindingsArtifact?_named named wanted
  rw [← ModuleName.ofType_eq_self_iff, requested]
  have file (last : Text) : Text.join "/"
      (Text.splitOn ('.' : Char) artifact.package ++ [last ++ (".py" : Text)]) =
        Text.slashed artifact.package ++ ("/" : Text) ++ last ++ (".py" : Text) := by
    rw [Text.join_concat _ _ (Text.splitOn_ne_nil _ _), Text.join_splitOn_slashed,
      ← List.append_assoc]
  constructor
  · rw [Artifact.qualifiedName, Artifact.moduleName, name]
    simp [Text.concat]
  · rw [Artifact.relativePath, Artifact.moduleName, name, file,
      moduleFile_concat _ (lastPart_dotless qualified)]
    simp

/-- What the bindings module adds to the artifacts of a run is the artifact that is wanted. -/
theorem BindingsOutcome.wanted_of_mem {σ : Type} {registry : Registry}
    {injectionModule : Option Text} {sink : Option (Sink σ)} {entries : List Entry}
    {before after : σ} {outcome : GenerationResult}
    (settled : BindingsOutcome registry injectionModule sink entries artifacts before outcome
      after) (member : artifact ∈ outcome.artifacts) :
    bindingsArtifact? registry.defaultPackage injectionModule artifacts = some artifact := by
  cases settled with
  | unwanted absent => cases member
  | emission wanted emitted =>
    rw [wanted]
    cases emitted with
    | clash | refused => cases member
    | stored | listed => rw [List.mem_singleton.mp member]

end Generation

open Generation

/-- Where the bindings module of a generation lands. It is asked for by a dotted name, without
empty parts. If it is among the artifacts, its qualified name is the one that was asked for, and
its file that name with slashes in the place of dots, exactly if the last part of the name is in
small letters and is no reserved word. A name without dots is asked for in the default package. -/
theorem generate_placesBindings {σ : Type} {registry : Registry} {qualified : Text}
    {sink : Option (Sink σ)} {start : σ} {result : GenerationResult}
    (named : ∀ part ∈ Text.splitOn ('.' : Char) qualified, part ≠ [])
    (generated : (registry.generate (some qualified) sink start).outcome = .ok result) :
    ∃ outcomes middle extra,
      GenerationRun registry sink [] (registry.entriesOf .generation) start outcomes middle ∧
      BindingsOutcome registry (some qualified) sink (registry.entriesOf .generation)
        (resultOf outcomes).artifacts middle extra
        (registry.generate (some qualified) sink start).sinkState ∧
      result = resultBehind (resultOf outcomes) extra ∧
      ∀ artifact ∈ extra.artifacts,
        (artifact.qualifiedName = requestedModule registry.defaultPackage qualified ↔
          Text.lower (lastPart qualified) = lastPart qualified ∧
            lastPart qualified ∉ ModuleName.keywords) ∧
        (artifact.relativePath = moduleFile (requestedModule registry.defaultPackage qualified) ↔
          Text.lower (lastPart qualified) = lastPart qualified ∧
            lastPart qualified ∉ ModuleName.keywords) := by
  obtain ⟨frozen, proceeds⟩ := proceeds_of_generate generated
  obtain ⟨outcomes, middle, extra, run, bindings, same⟩ := generate_run_of frozen proceeds
  refine ⟨outcomes, middle, extra, run, bindings, Except.ok.inj (generated.symm.trans same), ?_⟩
  intro artifact member
  exact bindingsArtifact?_lands named (bindings.wanted_of_mem member)

/-- What comes of generating the bindings of one type under a dotted name: the qualified names of
the artifacts and their files. -/
def userPlaces (qualified : Text) : Option (List (Text × Text)) :=
  (userRegistry.generate (some qualified) (none : Option (Sink Unit)) ()).outcome.toOption.map
    (fun result => result.artifacts.map
      (fun artifact => (artifact.qualifiedName, artifact.relativePath)))

/-- A bindings module that lands where it was asked for. -/
theorem generate_placesBindings_user :
    userPlaces "app.bindings" = some
        [(("ns.user" : Text), ("ns/user.py" : Text)), ("app.bindings", "app/bindings.py")] ∧
      ∃ result outcomes extra,
        (userRegistry.generate (some "app.bindings") (none : Option (Sink Unit)) ()).outcome =
          .ok result ∧
        result = resultBehind (resultOf outcomes) extra ∧
        ∀ artifact ∈ extra.artifacts, artifact.qualifiedName = ("app.bindings" : Text) ∧
          artifact.relativePath = ("app/bindings.py" : Text) := by
  have places : userPlaces "app.bindings" = some
      [(("ns.user" : Text), ("ns/user.py" : Text)), ("app.bindings", "app/bindings.py")] := by
    unfold userPlaces Registry.generate generateAll
    rw [Registry.entriesOf_eq_entries _ _ (by decide +kernel) (by decide +kernel)]
    decide +kernel
  refine ⟨places, ?_⟩
  cases generated : (userRegistry.generate (some "app.bindings")
      (none : Option (Sink Unit)) ()).outcome with
  | error failure =>
    rw [userPlaces, generated] at places
    cases places
  | ok result =>
    obtain ⟨outcomes, -, extra, -, -, same, lands⟩ :=
      generate_placesBindings (by decide) generated
    refine ⟨result, outcomes, extra, rfl, same, fun artifact member => ?_⟩
    obtain ⟨name, file⟩ := lands artifact member
    exact ⟨name.mpr (by decide +kernel), file.mpr (by decide +kernel)⟩

/-- Capitals in the last part are lost: the module does not land where it was asked for. -/
theorem capitalBindings_landElsewhere :
    requestedModule "ns" "app.Bindings" = ("app.Bindings" : Text) ∧
      userPlaces "app.Bindings" = some
        [(("ns.user" : Text), ("ns/user.py" : Text)), ("app.bindings", "app/bindings.py")] := by
  refine ⟨by decide, ?_⟩
  unfold userPlaces Registry.generate generateAll
  rw [Registry.entriesOf_eq_entries _ _ (by decide +kernel) (by decide +kernel)]
  decide +kernel

end SchemaForge
