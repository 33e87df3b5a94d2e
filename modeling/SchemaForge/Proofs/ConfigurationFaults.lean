import SchemaForge.Config

/-!
# What is wrong with a configuration

A configuration file is usable if it is text, its document is nothing or a mapping whose keys are
settings, and each setting has a value of its kind or none. Any other file is refused, and the
refusal is a configuration problem with few exceptions. They are named by `Escape`: the fault is
found before the file system is asked or in the bytes of the file, the document has a value that
does not exist, unknown keys have no common order, or a number in the message is too long to be
written.

The settings of one text are looked at in a fixed order, and the first fault counts. So an
exception about a value asks that all settings before it are in order.
-/

namespace SchemaForge

/-! ## Steps one behind the other -/

section Traversal

variable {ε α β : Type} {step : α → Except ε β}

/-- Steps that are all taken, or the first one that is refused. By induction on the steps. -/
theorem mapM_cases (step : α → Except ε β) (items : List α) :
    (∃ values, items.mapM step = .ok values ∧ values.length = items.length ∧
        ∀ item ∈ items, ∃ value, step item = .ok value) ∨
      ∃ front item back fault, items = front ++ item :: back ∧
        (∀ earlier ∈ front, ∃ value, step earlier = .ok value) ∧ step item = .error fault ∧
        items.mapM step = .error fault := by
  induction items with
  | nil => exact .inl ⟨[], rfl, rfl, by simp⟩
  | cons item items inductionHypothesis =>
    rw [List.mapM_cons]
    cases taken : step item with
    | error fault => exact .inr ⟨[], item, items, fault, rfl, by simp, taken, rfl⟩
    | ok value =>
      obtain ⟨values, all, length, each⟩ | ⟨front, refused, back, fault, split, fine, failed, all⟩ :=
        inductionHypothesis
      · refine .inl ⟨value :: values, by rw [all]; rfl, by simp [length], ?_⟩
        exact List.forall_mem_cons.mpr ⟨⟨value, taken⟩, each⟩
      · refine .inr ⟨item :: front, refused, back, fault, by rw [split]; rfl, ?_, failed, ?_⟩
        · exact List.forall_mem_cons.mpr ⟨⟨value, taken⟩, fine⟩
        · rw [all]
          rfl

/-- The first step that is refused decides. By induction on the steps before it. -/
theorem mapM_refused {front back : List α} {item : α} {fault : ε}
    (fine : ∀ earlier ∈ front, ∃ value, step earlier = .ok value)
    (failed : step item = .error fault) : (front ++ item :: back).mapM step = .error fault := by
  induction front with
  | nil =>
    rw [List.nil_append, List.mapM_cons, failed]
    rfl
  | cons earlier front inductionHypothesis =>
    obtain ⟨⟨value, taken⟩, others⟩ := List.forall_mem_cons.mp fine
    rw [List.cons_append, List.mapM_cons, taken, inductionHypothesis others]
    rfl

end Traversal

/-! ## Unknown keys -/

namespace Data

/-- Places are given to residues one by one. -/
theorem placesOf_length (places : Nat) (residues : List Nat) :
    (placesOf places residues).length = residues.length := by
  have behind (taken : List Nat) : (residues.foldl (fun taken residue =>
      freePlace places taken (places + 13) (residue % places) residue :: taken) taken).length =
        taken.length + residues.length := by
    induction residues generalizing taken with
    | nil => rfl
    | cons residue residues inductionHypothesis =>
      rw [List.foldl_cons, inductionHypothesis, List.length_cons, List.length_cons]
      omega
  exact (behind []).trans (Nat.zero_add _)

/-- Members that all have a residue have as many. By induction on the members. -/
theorem residues_length {members : List Data} {residues : List Nat}
    (found : members.mapM residue? = some residues) : residues.length = members.length := by
  induction members generalizing residues with
  | nil =>
    obtain rfl := Option.some.inj found
    rfl
  | cons member members inductionHypothesis =>
    rw [List.mapM_cons] at found
    obtain ⟨residue, -, found⟩ := Option.bind_eq_some_iff.mp found
    obtain ⟨others, those, found⟩ := Option.bind_eq_some_iff.mp found
    obtain rfl := Option.some.inj found
    rw [List.length_cons, List.length_cons, inductionHypothesis those]

/-- A set lists as many members as it has. -/
theorem listedMembers_length (members : List Data) :
    (listedMembers members).length = members.length := by
  unfold listedMembers
  split
  · rfl
  · next residues found =>
    have counted : residues.length = members.length := residues_length found
    rw [List.length_map, List.length_mergeSort, List.length_zip, List.length_reverse,
      placesOf_length, counted, Nat.min_self]

/-- What comes of one computation and then another came of the first. -/
theorem ok_of_bind {ε α β : Type} {first : Except ε α} {second : α → Except ε β} {result : β}
    (given : first >>= second = .ok result) :
    ∃ value, first = .ok value ∧ second value = .ok result := by
  cases first with
  | error fault => cases given
  | ok value => exact ⟨value, rfl, given⟩

/-- A run and what is behind it are all the keys. -/
theorem runBehind_length {descending : Bool} {last : Data} {keys run rest : List Data}
    (given : runBehind descending last keys = .ok (run, rest)) :
    run.length + rest.length = keys.length := by
  induction keys generalizing last run rest with
  | nil =>
    cases given
    rfl
  | cons key others inductionHypothesis =>
    obtain ⟨before, -, given⟩ := ok_of_bind given
    dsimp only at given
    split at given
    · obtain ⟨⟨more, behind⟩, found, given⟩ := ok_of_bind given
      cases given
      have counted := inductionHypothesis found
      simp only [List.length_cons]
      omega
    · cases given
      simp

/-- The leading run and what is behind it are all the keys. -/
theorem leadingRun_length {keys run rest : List Data} (given : leadingRun keys = .ok (run, rest)) :
    run.length + rest.length = keys.length := by
  obtain _ | ⟨first, _ | ⟨second, others⟩⟩ := keys
  · cases given
    rfl
  · cases given
    rfl
  · obtain ⟨descending, -, given⟩ := ok_of_bind given
    obtain ⟨⟨more, behind⟩, found, given⟩ := ok_of_bind given
    cases given
    have counted := runBehind_length found
    split <;> simp only [List.length_reverse, List.length_cons] <;> omega

/-- A key that is inserted is one more. -/
theorem insertKey_length {sorted longer : List Data} {key : Data}
    (given : insertKey sorted key = .ok longer) : longer.length = sorted.length + 1 := by
  obtain ⟨place, -, given⟩ := ok_of_bind given
  cases given
  simp only [List.length_append, List.length_take, List.length_cons, List.length_drop]
  omega

/-- Keys that are sorted are as many as before. -/
theorem sortKeys_length {keys sorted : List Data} (given : sortKeys keys = .ok sorted) :
    sorted.length = keys.length := by
  obtain ⟨⟨run, rest⟩, found, given⟩ := ok_of_bind given
  rw [← leadingRun_length found]
  clear found
  induction rest generalizing run with
  | nil =>
    cases given
    rfl
  | cons key rest inductionHypothesis =>
    obtain ⟨longer, inserted, given⟩ := ok_of_bind given
    rw [inductionHypothesis longer given, insertKey_length inserted, List.length_cons]
    omega

end Data

namespace Config

/-- The keys of a mapping that are no settings. -/
def foreignKeys (pairs : List (Data × Data)) : List Data :=
  (pairs.map Prod.fst).filter (fun key => !isSetting key)

variable {pairs : List (Data × Data)} {setting : Text} {value : Data} {base path : Path}
  {failure : Failure}

/-- A key is a setting exactly if it is the text of one. -/
theorem isSetting_iff {key : Data} :
    isSetting key = true ↔ ∃ name ∈ settingNames, key = .text name := by
  cases key with
  | text name => simp [isSetting]
  | _ => simp [isSetting]

/-- There are no unknown keys exactly if every key is a setting. -/
theorem foreignKeys_eq_nil :
    foreignKeys pairs = [] ↔ ∀ pair ∈ pairs, ∃ name ∈ settingNames, pair.1 = .text name := by
  simp only [foreignKeys, List.filter_eq_nil_iff, List.forall_mem_map, Bool.not_eq_true',
    Bool.not_eq_false, isSetting_iff]

/-- The unknown keys are sorted, and then they are written. -/
theorem unknownKeys_eq (pairs : List (Data × Data)) : unknownKeys pairs =
    ((Data.sortKeys (Data.listedMembers (foreignKeys pairs))).mapError Failure.order >>=
      fun sorted => (sorted.mapM Data.plain).mapError Failure.numeral) := rfl

/-- Unknown keys without a common order are not listed. -/
theorem unknownKeys_unordered {fault : OrderFault}
    (failed : Data.sortKeys (Data.listedMembers (foreignKeys pairs)) = .error fault) :
    unknownKeys pairs = .error (.order fault) := by
  rw [unknownKeys_eq, failed]
  rfl

/-- Unknown keys with an order are written. -/
theorem unknownKeys_ordered {sorted : List Data}
    (order : Data.sortKeys (Data.listedMembers (foreignKeys pairs)) = .ok sorted) :
    unknownKeys pairs = (sorted.mapM Data.plain).mapError Failure.numeral := by
  rw [unknownKeys_eq, order]
  rfl

/-- Unknown keys of which one cannot be written are not listed. -/
theorem unknownKeys_unwritable {sorted : List Data} {fault : NumeralFault}
    (order : Data.sortKeys (Data.listedMembers (foreignKeys pairs)) = .ok sorted)
    (failed : sorted.mapM Data.plain = .error fault) :
    unknownKeys pairs = .error (.numeral fault) := by
  rw [unknownKeys_ordered order, failed]
  rfl

/-- If every key is a setting, there are no unknown keys to list. -/
theorem unknownKeys_known (known : foreignKeys pairs = []) : unknownKeys pairs = .ok [] := by
  have none : Data.listedMembers (foreignKeys pairs) = [] := by
    rw [← List.length_eq_zero_iff, Data.listedMembers_length, known, List.length_nil]
  have order : Data.sortKeys (Data.listedMembers (foreignKeys pairs)) = .ok [] := by
    rw [none]
    rfl
  rw [unknownKeys_ordered order]
  rfl

/-- Unknown keys are listed, or they have no order, or one cannot be written. -/
theorem unknownKeys_cases (unknown : foreignKeys pairs ≠ []) :
    (∃ keys, unknownKeys pairs = .ok keys ∧ keys ≠ []) ∨
      (∃ fault, Data.sortKeys (Data.listedMembers (foreignKeys pairs)) = .error fault) ∨
      ∃ sorted fault, Data.sortKeys (Data.listedMembers (foreignKeys pairs)) = .ok sorted ∧
        sorted.mapM Data.plain = .error fault := by
  cases order : Data.sortKeys (Data.listedMembers (foreignKeys pairs)) with
  | error fault => exact .inr (.inl ⟨fault, rfl⟩)
  | ok sorted =>
    obtain ⟨keys, all, length, -⟩ | ⟨_, _, _, fault, -, -, -, failed⟩ :=
      mapM_cases Data.plain sorted
    · refine .inl ⟨keys, by rw [unknownKeys_ordered order, all]; rfl, ?_⟩
      rw [← List.length_pos_iff, length, Data.sortKeys_length order, Data.listedMembers_length]
      exact List.length_pos_iff.mpr unknown
    · exact .inr (.inr ⟨sorted, fault, rfl, failed⟩)

/-! ## Values -/

/-- The settings of one text, in the order in which they are looked at. -/
def textSettings : List Text :=
  ["source_directory", "output_directory", "publish_directory", "default_namespace",
    "injection_module"]

/-- The values of a setting of one text: nothing, or a text that is not empty. -/
inductive TextValue : Data → Prop where
  | null : TextValue .null
  | text {value : Text} (some : value ≠ []) : TextValue (.text value)

/-- The values of the setting of reference paths: nothing, or a list of texts. -/
inductive PathsValue : Data → Prop where
  | null : PathsValue .null
  | list (texts : List Text) : PathsValue (.list (texts.map .text))

/-- A setting of one text has a value of its kind, if it is given. -/
def TakesText (pairs : List (Data × Data)) (setting : Text) : Prop :=
  ∀ value, Data.lookup? pairs setting = some value → TextValue value

/-- The reference paths have a value of their kind, if they are given. -/
def TakesPaths (pairs : List (Data × Data)) : Prop :=
  ∀ value, Data.lookup? pairs "reference_paths" = some value → PathsValue value

/-- A setting with a value of its kind is read. -/
theorem textSetting_taken (takes : TakesText pairs setting) :
    ∃ text, textSetting pairs setting = .ok text := by
  unfold textSetting
  cases found : Data.lookup? pairs setting with
  | none => exact ⟨none, rfl⟩
  | some value =>
    cases takes value found with
    | null => exact ⟨none, rfl⟩
    | @text text some =>
      obtain ⟨c, rest, rfl⟩ := List.exists_cons_of_ne_nil some
      exact ⟨_, rfl⟩

/-- Any other value is refused with its wording, if it has one. -/
theorem textSetting_refused (found : Data.lookup? pairs setting = some value)
    (refused : ¬ TextValue value) :
    textSetting pairs setting = (value.written.mapError Failure.numeral >>= fun got =>
      .error (Fault.notText setting got).failure) := by
  unfold textSetting
  rw [found]
  cases value with
  | null => exact absurd .null refused
  | text text =>
    cases text with
    | nil => rfl
    | cons c rest => exact absurd (.text (List.cons_ne_nil c rest)) refused
  | _ => rfl

/-- The texts of a list are found exactly if it holds nothing else. -/
theorem texts?_eq_some {items : List Data} {texts : List Text} :
    texts? items = some texts ↔ items = texts.map .text := by
  induction items generalizing texts with
  | nil => cases texts <;> simp [texts?]
  | cons item items inductionHypothesis =>
    cases item with
    | text value =>
      cases texts with
      | nil => simp [texts?]
      | cons first others =>
        rw [texts?, List.map_cons, List.cons.injEq, Data.text.injEq, ← inductionHypothesis]
        cases texts? items with
        | none => simp
        | some others => simp
    | _ => cases texts <;> simp [texts?]

/-- Reference paths of their kind are read, and any others are a configuration problem. -/
theorem referenceSetting_cases (base : Path) (pairs : List (Data × Data)) :
    (TakesPaths pairs ∧ ∃ paths, referenceSetting base pairs = .ok paths) ∨
      (¬ TakesPaths pairs ∧ referenceSetting base pairs = .error Fault.notPaths.failure) := by
  unfold TakesPaths referenceSetting
  cases found : Data.lookup? pairs "reference_paths" with
  | none => exact .inl ⟨by simp, none, rfl⟩
  | some value =>
    simp only [Option.some.injEq, forall_eq']
    cases value with
    | null => exact .inl ⟨.null, none, rfl⟩
    | list items =>
      cases given : texts? items with
      | some texts =>
        obtain rfl := texts?_eq_some.mp given
        exact .inl ⟨.list texts, some (texts.map base.join), by simp only [given]⟩
      | none =>
        refine .inr ⟨fun kind => ?_, by simp only [given]⟩
        cases kind with
        | list texts =>
          rw [texts?_eq_some.mpr rfl] at given
          cases given
    | _ => exact .inr ⟨fun kind => (nomatch kind), rfl⟩

/-- The settings of one text are looked at in their order, and then the reference paths. -/
theorem ofPairs_outline (pairs : List (Data × Data)) (base : Path) :
    (ofPairs pairs base).map (fun _ => ()) =
      (textSettings.mapM (textSetting pairs) >>= fun _ =>
        (referenceSetting base pairs).map (fun _ => ())) := by
  unfold ofPairs pathSetting textSettings
  simp only [List.mapM_cons, List.mapM_nil]
  generalize textSetting pairs "source_directory" = source
  generalize textSetting pairs "output_directory" = output
  generalize textSetting pairs "publish_directory" = publish
  generalize textSetting pairs "default_namespace" = package
  generalize textSetting pairs "injection_module" = injection
  generalize referenceSetting base pairs = references
  -- Both sides stop at the first setting that is refused, so the settings are split in their order.
  cases source with
  | error fault => rfl
  | ok source =>
    cases output with
    | error fault => rfl
    | ok output =>
      cases publish with
      | error fault => rfl
      | ok publish =>
        cases package with
        | error fault => rfl
        | ok package =>
          cases injection with
          | error fault => rfl
          | ok injection =>
            cases references with
            | error fault => rfl
            | ok references => rfl

/-- A setting is read exactly if its value is of its kind. -/
theorem textSetting_ok_iff :
    (∃ text, textSetting pairs setting = .ok text) ↔ TakesText pairs setting := by
  refine ⟨fun ⟨text, taken⟩ value found => Classical.byContradiction fun refused => ?_,
    textSetting_taken⟩
  rw [textSetting_refused found refused] at taken
  cases written : value.written with
  | error fault =>
    rw [written] at taken
    cases taken
  | ok got =>
    rw [written] at taken
    cases taken

/-- A setting that is not read has a value of another kind, and the value is named in the problem
or cannot be written. -/
theorem textSetting_error (failed : textSetting pairs setting = .error failure) :
    ∃ value, Data.lookup? pairs setting = some value ∧ ¬ TextValue value ∧
      ((∃ detail, failure = .problem (.configuration detail)) ∨
        ∃ fault, value.written = .error fault ∧ failure = .numeral fault) := by
  have other : ¬ TakesText pairs setting := fun takes => by
    obtain ⟨text, taken⟩ := textSetting_taken takes
    rw [taken] at failed
    cases failed
  simp only [TakesText, Classical.not_forall] at other
  obtain ⟨value, found, refused⟩ := other
  refine ⟨value, found, refused, ?_⟩
  rw [textSetting_refused found refused] at failed
  cases written : value.written with
  | error fault =>
    rw [written] at failed
    exact .inr ⟨fault, rfl, (Except.error.inj failed).symm⟩
  | ok got =>
    rw [written] at failed
    exact .inl ⟨_, (Except.error.inj failed).symm⟩

/-! ## Mappings -/

/-- A mapping can be used: its keys are settings, and the settings have values of their kinds. -/
structure Acceptable (pairs : List (Data × Data)) : Prop where
  /-- Every key is the name of a setting. -/
  keys : ∀ pair ∈ pairs, ∃ name ∈ settingNames, pair.1 = .text name
  /-- Every setting of one text has a value of its kind, if it is given. -/
  texts : ∀ setting ∈ textSettings, TakesText pairs setting
  /-- The reference paths have a value of their kind, if they are given. -/
  paths : TakesPaths pairs

/-- The failures of a mapping that are no configuration problems. -/
inductive MappingEscape (pairs : List (Data × Data)) : Failure → Prop where
  /-- The unknown keys have no common order. -/
  | unordered {fault : OrderFault}
      (failed : Data.sortKeys (Data.listedMembers (foreignKeys pairs)) = .error fault) :
      MappingEscape pairs (.order fault)
  /-- An unknown key cannot be written. -/
  | unwritableKey {sorted : List Data} {fault : NumeralFault}
      (order : Data.sortKeys (Data.listedMembers (foreignKeys pairs)) = .ok sorted)
      (failed : sorted.mapM Data.plain = .error fault) : MappingEscape pairs (.numeral fault)
  /-- All keys are settings, and the first value of another kind cannot be written. -/
  | unwritableValue {front back : List Text} {setting : Text} {value : Data} {fault : NumeralFault}
      (known : foreignKeys pairs = []) (split : textSettings = front ++ setting :: back)
      (earlier : ∀ other ∈ front, TakesText pairs other)
      (found : Data.lookup? pairs setting = some value) (refused : ¬ TextValue value)
      (failed : value.written = .error fault) : MappingEscape pairs (.numeral fault)

/-- A failure that is left after its result is dropped was there before. -/
theorem map_eq_error {ε α β : Type} {result : Except ε α} {change : α → β} {fault : ε}
    (failed : result.map change = .error fault) : result = .error fault := by
  cases result with
  | error other => rw [Except.error.inj failed]
  | ok value => cases failed

/-- A mapping of settings is read, or it is a configuration problem, or the first value of another
kind cannot be written. -/
theorem ofPairs_cases (known : foreignKeys pairs = []) (base : Path) :
    (Acceptable pairs ∧ ∃ config, ofPairs pairs base = .ok config) ∨
      ¬ Acceptable pairs ∧ ∃ failure, ofPairs pairs base = .error failure ∧
        ((∃ detail, failure = .problem (.configuration detail)) ∨ MappingEscape pairs failure) := by
  have outline := ofPairs_outline pairs base
  obtain ⟨values, all, -, each⟩ | ⟨front, setting, back, failure, split, fine, failed, all⟩ :=
    mapM_cases (textSetting pairs) textSettings
  · rw [all] at outline
    have texts : ∀ setting ∈ textSettings, TakesText pairs setting :=
      fun setting member => textSetting_ok_iff.mp (each setting member)
    obtain ⟨takes, paths, read⟩ | ⟨other, read⟩ := referenceSetting_cases base pairs
    · refine .inl ⟨⟨foreignKeys_eq_nil.mp known, texts, takes⟩, ?_⟩
      rw [read] at outline
      cases given : ofPairs pairs base with
      | ok config => exact ⟨config, rfl⟩
      | error failure =>
        rw [given] at outline
        cases outline
    · rw [read] at outline
      exact .inr ⟨fun acceptable => other acceptable.paths, _, map_eq_error outline, .inl ⟨_, rfl⟩⟩
  · rw [all] at outline
    obtain ⟨value, found, refused, kind⟩ := textSetting_error failed
    refine .inr ⟨fun acceptable => refused (acceptable.texts setting ?_ value found), failure,
      map_eq_error outline, ?_⟩
    · rw [split]
      exact List.mem_append_right front List.mem_cons_self
    · obtain problem | ⟨fault, written, rfl⟩ := kind
      · exact .inl problem
      · exact .inr (.unwritableValue known split
          (fun other member => textSetting_ok_iff.mp (fine other member)) found refused written)

/-- The first value of another kind decides, if it cannot be written. -/
theorem ofPairs_unwritable {front back : List Text} {fault : NumeralFault}
    (split : textSettings = front ++ setting :: back)
    (earlier : ∀ other ∈ front, TakesText pairs other)
    (found : Data.lookup? pairs setting = some value) (refused : ¬ TextValue value)
    (failed : value.written = .error fault) (base : Path) :
    ofPairs pairs base = .error (.numeral fault) := by
  have first : textSetting pairs setting = .error (.numeral fault) := by
    rw [textSetting_refused found refused, failed]
    rfl
  have outline := ofPairs_outline pairs base
  rw [split, mapM_refused (fun other member => textSetting_taken (earlier other member)) first]
    at outline
  exact map_eq_error outline

/-! ## Documents -/

/-- The settings that a document gives: none if it is empty, else those of its mapping. -/
inductive Settings : Data → List (Data × Data) → Prop where
  | empty : Settings .null []
  | mapping (pairs : List (Data × Data)) : Settings (.mapping pairs) pairs

variable {document : Data}

/-- An empty document is read like a mapping without pairs. -/
theorem ofDocument_settings (settings : Settings document pairs) :
    ofDocument path document = ofDocument path (.mapping pairs) := by
  cases settings with
  | empty => rfl
  | mapping pairs => rfl

/-- A document without unknown keys is read by its pairs. -/
theorem ofDocument_known (settings : Settings document pairs) (known : foreignKeys pairs = []) :
    ofDocument path document = ofPairs pairs path.parent := by
  rw [ofDocument_settings settings]
  unfold ofDocument
  simp only [unknownKeys_known known]
  rfl

/-- Unknown keys that can be listed are a configuration problem. -/
theorem ofDocument_unknown (settings : Settings document pairs) {keys : List Text}
    (unknown : unknownKeys pairs = .ok keys) (some : keys ≠ []) :
    ofDocument path document = .error (Fault.unknownKeys path.display keys).failure := by
  obtain ⟨key, others, rfl⟩ := List.exists_cons_of_ne_nil some
  rw [ofDocument_settings settings]
  unfold ofDocument
  simp only [unknown]
  rfl

/-- Unknown keys that cannot be listed decide the outcome. -/
theorem ofDocument_unlisted (settings : Settings document pairs)
    (failed : unknownKeys pairs = .error failure) : ofDocument path document = .error failure := by
  rw [ofDocument_settings settings]
  unfold ofDocument
  simp only [failed]
  rfl

/-- A document that gives no settings is a configuration problem. -/
theorem ofDocument_other (other : ∀ pairs, ¬ Settings document pairs) :
    ofDocument path document = .error (Fault.notMapping path.display).failure := by
  cases document with
  | null => exact absurd .empty (other [])
  | mapping pairs => exact absurd (.mapping pairs) (other pairs)
  | _ => rfl

/-- A document is read if its mapping can be used. Else it is refused by a configuration problem
or by one of the other failures of its mapping. -/
theorem ofDocument_cases (settings : Settings document pairs) (path : Path) :
    (Acceptable pairs ∧ ∃ config, ofDocument path document = .ok config) ∨
      ¬ Acceptable pairs ∧ ∃ failure, ofDocument path document = .error failure ∧
        ((∃ detail, failure = .problem (.configuration detail)) ∨ MappingEscape pairs failure) := by
  by_cases known : foreignKeys pairs = []
  · rw [ofDocument_known settings known]
    exact ofPairs_cases known path.parent
  · refine .inr ⟨fun acceptable => known (foreignKeys_eq_nil.mpr acceptable.keys), ?_⟩
    obtain ⟨keys, listed, some⟩ | ⟨fault, failed⟩ | ⟨sorted, fault, order, failed⟩ :=
      unknownKeys_cases known
    · exact ⟨_, ofDocument_unknown settings listed some, .inl ⟨_, rfl⟩⟩
    · exact ⟨_, ofDocument_unlisted settings (unknownKeys_unordered failed),
        .inr (.unordered failed)⟩
    · exact ⟨_, ofDocument_unlisted settings (unknownKeys_unwritable order failed),
        .inr (.unwritableKey order failed)⟩

/-- The other failures of a mapping are failures of its document. -/
theorem ofDocument_escape (settings : Settings document pairs)
    (escape : MappingEscape pairs failure) : ofDocument path document = .error failure := by
  cases escape with
  | unordered failed => exact ofDocument_unlisted settings (unknownKeys_unordered failed)
  | unwritableKey order failed =>
    exact ofDocument_unlisted settings (unknownKeys_unwritable order failed)
  | unwritableValue known split earlier found refused failed =>
    rw [ofDocument_known settings known]
    exact ofPairs_unwritable split earlier found refused failed path.parent

/-! ## Files

What reads the document of a text is not looked into: any reader will do. -/

variable {reader : Text → Except Yaml.Fault Data}

/-- The file at a path is text, and its document gives some settings. -/
def Given (reader : Text → Except Yaml.Fault Data) (tree : FileTree) (path : Path)
    (pairs : List (Data × Data)) : Prop :=
  ∃ text document, tree.readText path = .ok text ∧ reader text = .ok document ∧
    Settings document pairs

/-- The failures of a configuration file that are no configuration problems. -/
inductive Escape (reader : Text → Except Yaml.Fault Data) (tree : FileTree) (path : Path) :
    Failure → Prop where
  /-- The path is none that the file system could be asked for. -/
  | unasked {reason : FileFault} (failed : tree.read path = .error reason)
      (unrefused : reason.isRefusal = false) : Escape reader tree path (.file reason)
  /-- The bytes of the file are no text. -/
  | undecoded {bytes : List UInt8} {fault : Utf8.DecodeFault} (read : tree.read path = .ok bytes)
      (failed : Utf8.decode bytes = .error fault) : Escape reader tree path (.file (.undecodable fault))
  /-- The text is a document with a value that does not exist. -/
  | unbuilt {text : Text} {fault : Yaml.Fault} (read : tree.readText path = .ok text)
      (failed : reader text = .error fault) (formed : ∀ flaw, fault ≠ .malformed flaw) :
      Escape reader tree path (.yaml fault)
  /-- The mapping of the document fails otherwise. -/
  | mapping {pairs : List (Data × Data)} {failure : Failure} (given : Given reader tree path pairs)
      (escape : MappingEscape pairs failure) : Escape reader tree path failure

variable {tree : FileTree}

/-- A file that cannot be read as text is a configuration problem if the file system refused, and
else another failure. -/
theorem load_unread {reason : FileFault} (failed : tree.readText path = .error reason) :
    ∃ failure, load reader tree path = .error failure ∧
      ((∃ detail, failure = .problem (.configuration detail)) ∨ Escape reader tree path failure) := by
  cases kind : reason.isRefusal with
  | true =>
    refine ⟨(Fault.unreadable path.display reason.message).failure, ?_, .inl ⟨_, rfl⟩⟩
    simp only [load, failed, kind, if_true]
  | false =>
    refine ⟨.file reason, by simp only [load, failed, kind, Bool.false_eq_true, if_false], .inr ?_⟩
    unfold FileTree.readText at failed
    split at failed
    · next read =>
      obtain rfl := Except.error.inj failed
      exact .unasked read kind
    · next bytes read =>
      split at failed
      · next fault decoded =>
        obtain rfl := Except.error.inj failed
        exact .undecoded read decoded
      · cases failed

/-- A text that is no document is a configuration problem, unless a value of it does not exist. -/
theorem load_unbuilt {text : Text} {fault : Yaml.Fault} (read : tree.readText path = .ok text)
    (failed : reader text = .error fault) : ∃ failure, load reader tree path = .error failure ∧
      ((∃ detail, failure = .problem (.configuration detail)) ∨ Escape reader tree path failure) := by
  by_cases formed : ∀ flaw, fault ≠ .malformed flaw
  · refine ⟨.yaml fault, ?_, .inr (.unbuilt read failed formed)⟩
    simp only [load, read, failed]
  · simp only [Classical.not_forall, Classical.not_not] at formed
    obtain ⟨flaw, rfl⟩ := formed
    refine ⟨(Fault.notYaml path.display (flaw.describe text)).failure, ?_, .inl ⟨_, rfl⟩⟩
    simp only [load, read, failed]

/-- A document that is read decides the outcome. -/
theorem load_read {text : Text} (read : tree.readText path = .ok text)
    (built : reader text = .ok document) : load reader tree path = ofDocument path document := by
  simp only [load, read, built]

/-- The settings of a file are fixed by it. -/
theorem Given.unique {others : List (Data × Data)} (given : Given reader tree path pairs)
    (again : Given reader tree path others) : pairs = others := by
  obtain ⟨text, document, read, built, settings⟩ := given
  obtain ⟨text', document', read', built', settings'⟩ := again
  obtain rfl := Except.ok.inj (read.symm.trans read')
  obtain rfl := Except.ok.inj (built.symm.trans built')
  cases settings with
  | empty => cases settings'; rfl
  | mapping pairs => cases settings'; rfl

/-- A file gives acceptable settings and is read, or it does not and is refused, by a configuration
problem or one of the other failures. -/
theorem load_cases (reader : Text → Except Yaml.Fault Data) (tree : FileTree) (path : Path) :
    ((∃ pairs, Given reader tree path pairs ∧ Acceptable pairs) ∧
        ∃ config, load reader tree path = .ok config) ∨
      (¬ ∃ pairs, Given reader tree path pairs ∧ Acceptable pairs) ∧
        ∃ failure, load reader tree path = .error failure ∧
          ((∃ detail, failure = .problem (.configuration detail)) ∨ Escape reader tree path failure) := by
  cases read : tree.readText path with
  | error reason =>
    refine .inr ⟨fun ⟨pairs, ⟨text, _, found, _⟩, _⟩ => ?_, load_unread read⟩
    cases read.symm.trans found
  | ok text =>
    cases built : reader text with
    | error fault =>
      refine .inr ⟨fun ⟨pairs, ⟨_, document, found, made, _⟩, _⟩ => ?_, load_unbuilt read built⟩
      obtain rfl := Except.ok.inj (read.symm.trans found)
      cases built.symm.trans made
    | ok document =>
      rw [load_read read built]
      by_cases mapping : ∃ pairs, Settings document pairs
      · obtain ⟨pairs, settings⟩ := mapping
        have given : Given reader tree path pairs := ⟨text, document, read, built, settings⟩
        obtain ⟨acceptable, loaded⟩ | ⟨refused, failure, failed, kind⟩ :=
          ofDocument_cases settings path
        · exact .inl ⟨⟨pairs, given, acceptable⟩, loaded⟩
        · refine .inr ⟨fun ⟨others, again, acceptable⟩ => ?_, failure, failed,
            kind.imp_right (.mapping given)⟩
          rw [given.unique again] at refused
          exact refused acceptable
      · rw [not_exists] at mapping
        refine .inr ⟨fun ⟨pairs, ⟨_, _, found, made, settings⟩, _⟩ => ?_, _,
          ofDocument_other mapping, .inl ⟨_, rfl⟩⟩
        obtain rfl := Except.ok.inj (read.symm.trans found)
        obtain rfl := Except.ok.inj (built.symm.trans made)
        exact mapping pairs settings

/-- The other failures are what a file is refused with. -/
theorem load_escape (escape : Escape reader tree path failure) :
    load reader tree path = .error failure := by
  cases escape with
  | @unasked reason failed unrefused =>
    have unread : tree.readText path = .error reason := by simp only [FileTree.readText, failed]
    simp only [load, unread, unrefused, Bool.false_eq_true, if_false]
  | @undecoded bytes fault read failed =>
    have unread : tree.readText path = .error (.undecodable fault) := by
      simp only [FileTree.readText, read, failed]
    simp only [load, unread, FileFault.isRefusal, Bool.false_eq_true, if_false]
  | unbuilt read failed formed => simp only [load, read, failed]
  | mapping given escape =>
    obtain ⟨text, document, read, built, settings⟩ := given
    rw [load_read read built]
    exact ofDocument_escape settings escape

/-- The other failures are no configuration problems. -/
theorem Escape.ne_configuration (escape : Escape reader tree path failure) (detail : Text) :
    failure ≠ .problem (.configuration detail) := by
  intro same
  subst same
  cases escape with
  | mapping given escape => cases escape

/-- A configuration file is read exactly if it is text, its document is empty or a mapping of
settings, and every setting has a value of its kind or none. Any other file is refused, and the
failures that are no configuration problems are those of `Escape`. -/
theorem load_verdict (reader : Text → Except Yaml.Fault Data) (tree : FileTree) (path : Path) :
    ((∃ config, load reader tree path = .ok config) ↔
        ∃ pairs, Given reader tree path pairs ∧ Acceptable pairs) ∧
      ∀ failure, Escape reader tree path failure ↔ load reader tree path = .error failure ∧
        ∀ detail, failure ≠ .problem (.configuration detail) := by
  obtain ⟨usable, config, loaded⟩ | ⟨unusable, actual, failed, kind⟩ := load_cases reader tree path
  · refine ⟨⟨fun _ => usable, fun _ => ⟨config, loaded⟩⟩, fun failure => ⟨fun escape => ?_, ?_⟩⟩
    · cases loaded.symm.trans (load_escape escape)
    · rintro ⟨failed, -⟩
      cases loaded.symm.trans failed
  · refine ⟨⟨?_, fun usable => absurd usable unusable⟩, fun failure => ⟨fun escape => ?_, ?_⟩⟩
    · rintro ⟨config, loaded⟩
      cases failed.symm.trans loaded
    · exact ⟨load_escape escape, escape.ne_configuration⟩
    · rintro ⟨again, other⟩
      obtain rfl := Except.error.inj (failed.symm.trans again)
      obtain ⟨detail, same⟩ | escape := kind
      · exact absurd same (other detail)
      · exact escape

/-- A file of two bytes that are no text. -/
def undecodableTree : FileTree := ⟨[(["c.yaml"], .file [0xff, 0xfe])], []⟩

/-- A file of bytes that are no text fails otherwise than by a configuration problem. -/
theorem load_undecodable : load Yaml.load undecodableTree (Path.ofText "c.yaml") =
    .error (.file (.undecodable ⟨0, 1, 0xff, .invalidStart⟩)) := by
  have read : undecodableTree.read (Path.ofText "c.yaml") = .ok [0xff, 0xfe] := by rfl
  have failed : Utf8.decode [0xff, 0xfe] = .error ⟨0, 1, 0xff, .invalidStart⟩ := by cbv
  exact load_escape (.undecoded read failed)

/-- A number and a text as unknown keys have no common order. -/
example : MappingEscape [(.int 1, .text "x"), (.text "a", .text "y")]
    (.order (.kinds "str" "int")) :=
  .unordered rfl

end Config

end SchemaForge
