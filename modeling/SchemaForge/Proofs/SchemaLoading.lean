import SchemaForge.Proofs.PublishedSchemas
import SchemaForge.Proofs.RegistryLoading
import SchemaForge.Proofs.RepeatedWrites

/-!
# Loading from files

Loading changes no file. What comes of it is a question about the tree: which schemas are found
below the source directory and in the exchange directories of the references, and what is read of
each. So a change of the tree that keeps the schemas in these places as they are keeps what is
loaded.

A reference may lead nowhere at first and to a directory later. This makes no difference as long as
the directory has no schemas, and as long as the question whether it is there can be answered.
-/

namespace SchemaForge

/-! ## Questions -/

/-- What gives a value in two steps gives one in each. -/
theorem Except.bind_eq_ok {ε α β : Type} {first : Except ε α} {next : α → Except ε β} {value : β} :
    (first >>= next) = .ok value ↔ ∃ given, first = .ok given ∧ next given = .ok value := by
  cases first <;> simp [bind, Except.bind]

/-- A failure that is seen as another is one. -/
theorem Except.mapError_eq_ok {ε ε' α : Type} {answer : Except ε α} {seen : ε → ε'} {value : α} :
    answer.mapError seen = .ok value ↔ answer = .ok value := by
  cases answer <;> simp [Except.mapError]

/-- A value that is made from another is made from one. -/
theorem Except.map_eq_ok {ε α β : Type} {answer : Except ε α} {make : α → β} {value : β} :
    answer.map make = .ok value ↔ ∃ given, answer = .ok given ∧ make given = value := by
  cases answer <;> simp [Except.map]

/-- An action that asks something about the files and changes none. -/
def Action.Asks {α : Type} (action : Action α) (question : FileTree → Except Failure α) : Prop :=
  ∀ workspace, action.Gives workspace (question workspace.tree) workspace.tree

namespace Action

variable {α β : Type}

/-- A value asks nothing. -/
theorem asks_pure (value : α) : (pure value : Action α).Asks (fun _ => .ok value) :=
  gives_pure value

/-- One question behind another. -/
theorem asks_bind {first : Action α} {next : α → Action β}
    {question : FileTree → Except Failure α} {behind : α → FileTree → Except Failure β}
    (lead : first.Asks question) (rest : ∀ value, (next value).Asks (behind value)) :
    (first >>= next).Asks (fun tree => question tree >>= fun value => behind value tree) := by
  intro workspace
  have asked := lead workspace
  dsimp only
  cases answer : question workspace.tree with
  | error failure =>
    rw [answer] at asked
    exact gives_bind_error asked
  | ok value =>
    rw [answer] at asked
    exact gives_bind asked fun log => rest value ⟨workspace.tree, log⟩

/-- Telling asks nothing. -/
theorem asks_tell (event : LogEvent) : (tell event).Asks (fun _ => .ok ()) :=
  tell_gives event

end Action

namespace Session

open SchemaFile

/-- Adding a text asks nothing. -/
theorem addText_asks (session : Session) (origin : Origin) (source text : Text) :
    (session.addText origin source text).Asks
      (fun _ => (session.add origin source text).value.mapError Failure.problem) := by
  intro workspace
  refine ⟨workspace.log ++ (session.add origin source text).log, ?_⟩
  unfold addText
  rw [AddCall.run_logged]
  cases (session.add origin source text).value <;> rfl

/-- The session with what is read of a schema file. -/
def withRead (origin : Origin) (session : Session) (file : SchemaFile) :
    Except FileFault Text → Except Failure (Session × Bool)
  | .ok text => (session.add origin file.locator text).value.mapError Failure.problem
  | .error fault =>
    if fault.isRefusal then
      .ok ({ session with
        diagnostics := session.diagnostics ++ [unreadable file.locator fault.message] }, false)
    else .error (.file fault)

/-- Adding a schema file asks what is read of it. -/
theorem addFile_asks (session : Session) (origin : Origin) (file : SchemaFile) :
    (session.addFile origin file).Asks
      (fun tree => session.withRead origin file (file.read tree)) := by
  intro workspace
  refine Action.gives_bind (Action.tree_gives workspace) fun log => ?_
  dsimp only
  cases file.read workspace.tree with
  | ok text => exact session.addText_asks origin file.locator text ⟨workspace.tree, log⟩
  | error fault =>
    refine ⟨log, ?_⟩
    dsimp only [withRead]
    cases fault.isRefusal <;> rfl

/-- The session with what is read of schema files one behind the other. -/
def withFiles (origin : Origin) (session : Session) (files : List SchemaFile) (tree : FileTree) :
    Except Failure Session :=
  files.foldlM (fun session file =>
    session.withRead origin file (file.read tree) >>= fun added => .ok added.1) session

/-- Adding schema files asks what is read of each. -/
theorem addFiles_asks (session : Session) (origin : Origin) (files : List SchemaFile) :
    (session.addFiles origin files).Asks (session.withFiles origin files) := by
  unfold addFiles withFiles
  induction files generalizing session with
  | nil => exact Action.asks_pure session
  | cons file files inductionHypothesis =>
    refine Action.asks_bind ?_ inductionHypothesis
    exact Action.asks_bind (session.addFile_asks origin file) fun added => Action.asks_pure added.1

/-- What comes of loading. -/
def loaded (session : Session) (config : Config) (tree : FileTree) :
    Except Failure (Session × Bool) :=
  (tree.isDirectory config.sourceDirectory).mapError Failure.file >>= fun isDirectory =>
    if isDirectory then
      ((foundPublishedAll (config.referencePaths.map Path.display) tree).map
          List.flatten).mapError Failure.file >>= fun references =>
        session.withFiles .reference references tree >>= fun known =>
          (found config.sourceDirectory tree).mapError Failure.file >>= fun sources =>
            known.withFiles .generation sources tree >>= fun all => .ok (all, true)
    else .ok (session, false)

/-- Loading asks what is found and read. -/
theorem load_asks (session : Session) (config : Config) :
    (session.load config).Asks (session.loaded config) := by
  refine Action.asks_bind (Action.asks_gives _) fun isDirectory => ?_
  cases isDirectory with
  | false =>
    exact Action.asks_bind (Action.asks_tell _) fun _ => Action.asks_pure _
  | true =>
    refine Action.asks_bind (findPublished_gives _) fun references => ?_
    refine Action.asks_bind (session.addFiles_asks .reference references) fun known => ?_
    refine Action.asks_bind (find_gives _) fun sources => ?_
    exact Action.asks_bind (known.addFiles_asks .generation sources) fun _ => Action.asks_pure _

end Session

/-! ## Names -/

/-- The entries of a registry have names of the schema language. -/
def Registry.Spelled (registry : Registry) : Prop :=
  ∀ entry ∈ registry.entries, entry.name.isName = true

/-- A name of the schema language has no dots. -/
theorem Text.dotless_of_isName {text : Text} (named : text.isName = true) :
    CodePoint.ofChar '.' ∉ text := by
  simp only [isName, Bool.and_eq_true, List.all_eq_true] at named
  intro dot
  exact absurd (named.2 _ dot) (by decide)

/-- An entry with such a name can be added. -/
theorem Registry.insert_spelled {registry next : Registry} {entry : Entry}
    (spelled : registry.Spelled) (isName : entry.name.isName = true)
    (given : (registry.insert entry).value = .ok next) : next.Spelled := by
  unfold insert at given
  split at given
  · cases given
  · split at given
    · obtain rfl := Except.ok.inj given
      exact List.forall_mem_append.mpr ⟨spelled, List.forall_mem_singleton.mpr isName⟩
    · cases given

/-- A definition of a batch adds the entry of a type that it defines, if it adds any. -/
theorem Registry.Batch.add_spelled {batch : Registry.Batch} {definition : Definition}
    (source : Text) (origin : Origin) (spelled : batch.registry.Spelled)
    (named : definition.DefinesType → definition.typeName.isName = true) :
    (batch.add source origin definition).registry.Spelled := by
  unfold add
  cases built : Entry.build definition source batch.registry.defaultPackage origin with
  | error problem => exact spelled
  | ok entry =>
    dsimp only
    split
    · exact spelled
    · next some =>
      have same : entry.definition = definition := (Entry.build_eq_ok.mp built).2.1
      have isName : entry.name.isName = true := by
        unfold Entry.name at some ⊢
        rw [same] at some ⊢
        exact named (Definition.definesType_of_typeName (by simpa using some))
      cases inserted : (batch.registry.insert entry).value with
      | error problem => exact spelled
      | ok registry => exact insert_spelled spelled isName inserted

/-- So do the definitions of a batch. -/
theorem Registry.Batch.foldl_spelled (batch : Registry.Batch) {definitions : List Definition}
    (source : Text) (origin : Origin) (spelled : batch.registry.Spelled)
    (named : ∀ definition ∈ definitions, definition.DefinesType →
      definition.typeName.isName = true) :
    (definitions.foldl (add source origin) batch).registry.Spelled := by
  induction definitions generalizing batch with
  | nil => exact spelled
  | cons definition definitions inductionHypothesis =>
    rw [List.forall_mem_cons] at named
    exact inductionHypothesis _ (add_spelled source origin spelled named.1) named.2

namespace Session

variable {session next : Session} {origin : Origin} {added : Bool}

/-- A text adds entries with such names. -/
theorem add_spelled {source text : Text} (spelled : session.registry.Spelled)
    (given : (session.add origin source text).value = .ok (next, added)) :
    next.registry.Spelled := by
  cases parsed : parseDocument text with
  | error error =>
    rw [AddCall.add_error parsed] at given
    obtain ⟨rfl, -⟩ := Prod.mk.inj (Except.ok.inj given)
    exact spelled
  | ok definitions =>
    have whole := Registry.Batch.foldl_spelled ⟨session.registry, [], []⟩
      source origin spelled fun definition member => parseDocument_isName parsed member
    unfold add Registry.addBatch at given
    rw [parsed] at given
    dsimp only at given
    cases frozen : session.registry.frozen with
    | true =>
      simp only [frozen, ↓reduceIte] at given
      cases given
    | false =>
      simp only [frozen, Bool.false_eq_true, ↓reduceIte] at given
      obtain ⟨rfl, -⟩ := Prod.mk.inj (Except.ok.inj given)
      exact whole

/-- So does a schema file. -/
theorem withRead_spelled {file : SchemaFile} {content : Except FileFault Text}
    (spelled : session.registry.Spelled)
    (given : session.withRead origin file content = .ok (next, added)) :
    next.registry.Spelled := by
  cases content with
  | ok text =>
    dsimp only [withRead] at given
    cases outcome : (session.add origin file.locator text).value with
    | error problem =>
      rw [outcome] at given
      cases given
    | ok answer =>
      rw [outcome] at given
      obtain rfl := Except.ok.inj given
      exact add_spelled spelled outcome
  | error fault =>
    dsimp only [withRead] at given
    split at given
    · obtain ⟨rfl, -⟩ := Prod.mk.inj (Except.ok.inj given)
      exact spelled
    · cases given

/-- So do schema files one behind the other. -/
theorem withFiles_spelled {files : List SchemaFile} {tree : FileTree}
    (spelled : session.registry.Spelled)
    (given : session.withFiles origin files tree = .ok next) : next.registry.Spelled := by
  unfold withFiles at given
  induction files generalizing session with
  | nil =>
    obtain rfl := Except.ok.inj given
    exact spelled
  | cons file files inductionHypothesis =>
    rw [List.foldlM_cons] at given
    obtain ⟨middle, first, rest⟩ := Except.bind_eq_ok.mp given
    obtain ⟨answer, read, same⟩ := Except.bind_eq_ok.mp first
    obtain rfl := Except.ok.inj same
    exact inductionHypothesis (withRead_spelled spelled read) rest

/-- So does a whole configuration. -/
theorem loaded_spelled {config : Config} {tree : FileTree} (spelled : session.registry.Spelled)
    (given : session.loaded config tree = .ok (next, added)) : next.registry.Spelled := by
  obtain ⟨isDirectory, -, given⟩ := Except.bind_eq_ok.mp given
  cases isDirectory with
  | false =>
    obtain ⟨rfl, -⟩ := Prod.mk.inj (Except.ok.inj given)
    exact spelled
  | true =>
    obtain ⟨references, -, given⟩ := Except.bind_eq_ok.mp given
    obtain ⟨known, first, given⟩ := Except.bind_eq_ok.mp given
    obtain ⟨sources, -, given⟩ := Except.bind_eq_ok.mp given
    obtain ⟨all, second, given⟩ := Except.bind_eq_ok.mp given
    obtain ⟨rfl, -⟩ := Prod.mk.inj (Except.ok.inj given)
    exact withFiles_spelled (withFiles_spelled spelled first) second

end Session

/-! ## Schemas that are kept -/

/-- A walk is stopped by a part that is too long only if it has one. -/
theorem FileTree.reach_ne_tooLong {tree : FileTree} {location : Location} {parts : List Text}
    (short : ∀ part ∈ parts, FileTree.isTooLong part = false) :
    tree.reach location parts ≠ .error .tooLong := by
  induction parts generalizing location with
  | nil => simp [reach]
  | cons part parts inductionHypothesis =>
    rw [List.forall_mem_cons] at short
    rw [reach]
    cases tree.find? location with
    | none => simp
    | some node =>
      cases node with
      | file bytes => simp
      | directory => simpa [short.1] using inductionHypothesis short.2

/-- A file that is where it was with the bytes it had is read as it was. -/
theorem FileTree.Holds.read_eq {before after : FileTree} {path : Path} {location : Location}
    {bytes : List UInt8} (holds : before.Holds path location bytes)
    (still : after.Holds path location bytes) : after.read path = before.read path := by
  by_cases askable : FileTree.Askable path.display
  · rw [holds.read askable, still.read askable]
  · obtain ⟨fault, -, refused⟩ := FileTree.locate_unaskable askable
    rw [FileTree.read, FileTree.read, refused, refused]

namespace SchemaFile

open FileTree (Changes DotsResolved Extends Unlisted)

variable {before after : FileTree} {base : Path} {depth : Option Nat}
  {locator : List Text → Text} {files : List SchemaFile} {writes : Writes}

/-- Whether a question about a directory is answered depends on the length of names alone. -/
theorem isDirectory_ok_iff {tree : FileTree} :
    (∃ answer, tree.isDirectory base = .ok answer) ↔
      ∀ display, tree.locate base ≠ .error (.nameTooLong display) := by
  unfold FileTree.isDirectory
  constructor
  · rintro ⟨answer, asked⟩ display long
    rw [long] at asked
    cases asked
  · intro short
    split
    · next display long => exact absurd long (short display)
    · exact ⟨_, rfl⟩

/-- If it has been answered once, it always is, unless a part of the path is too long. -/
theorem answered_later (after : FileTree)
    (short : ∀ part ∈ base.parts, FileTree.isTooLong part = false)
    (asked : ∃ answer, before.isDirectory base = .ok answer) :
    ∃ answer, after.isDirectory base = .ok answer := by
  rw [isDirectory_ok_iff] at asked ⊢
  intro display long
  by_cases askable : FileTree.Askable base.display
  · have walked : after.reach (after.start base) base.parts ≠ .error .tooLong :=
      FileTree.reach_ne_tooLong short
    rw [FileTree.locate_askable askable] at long
    cases reached : after.reach (after.start base) base.parts with
    | ok location =>
      rw [reached] at long
      cases long
    | error obstacle =>
      rw [reached] at long
      cases obstacle with
      | tooLong => exact walked reached
      | missing | notDirectory => cases long
  · obtain ⟨fault, -, refused⟩ := FileTree.locate_unaskable askable
    rw [refused after] at long
    exact asked display ((refused before).trans long)

/-- The schemas below a directory are what they were, and the tree has grown. -/
structure Kept (directory : Location) (depth : Option Nat) (before after : FileTree) : Prop where
  /-- The tree is one of files that exist. -/
  wellFormed : after.WellFormed
  /-- It has grown. -/
  growth : before.Extends after
  /-- The same schemas are found. -/
  schemas : ∀ parts, parts ≠ [] → isSchemaPath ⟨[], parts⟩ = true →
    depth.all (fun bound => parts.length ≤ bound) = true → ∀ bytes,
    after.find? (directory ++ parts) = some (.file bytes) ↔
      before.find? (directory ++ parts) = some (.file bytes)

/-- What is below a directory has the suffix that it has there. -/
theorem isSchemaPath_below (directory : Location) {parts : List Text} (some : parts ≠ []) :
    isSchemaPath ⟨[], directory ++ parts⟩ = isSchemaPath ⟨[], parts⟩ := by
  obtain ⟨front, last, rfl⟩ : ∃ front last, parts = front ++ [last] :=
    ⟨_, _, (List.dropLast_append_getLast some).symm⟩
  simp [isSchemaPath, Path.suffix, Path.name, ← List.append_assoc]

/-- Schemas are kept, if nothing is written to them and what is new is no schema. -/
theorem Kept.of_changes {directory : Location} (changes : Changes Unlisted writes before after)
    (apart : ∀ write ∈ writes, ∀ parts, parts ≠ [] → isSchemaPath ⟨[], parts⟩ = true →
      depth.all (fun bound => parts.length ≤ bound) = true → write.1 ≠ directory ++ parts) :
    Kept directory depth before after := by
  refine ⟨changes.wellFormed, changes.growth, ?_⟩
  intro parts some schema shallow bytes
  have unwritten : Writes.last? writes (directory ++ parts) = none :=
    Writes.last?_eq_none.mpr fun write member => apart write member parts some schema shallow
  obtain same | ⟨nothing, node, new, isDirectory | unlisted⟩ :=
    changes.elsewhere (directory ++ parts) unwritten
  · rw [same]
  · simp [nothing, new, isDirectory]
  · rw [isSchemaPath_below directory some, schema] at unlisted
    cases unlisted

/-- A directory that was there lists the same schemas. -/
theorem below_kept (wellFormed : before.WellFormed)
    (kept : Kept (before.destination base) depth before after)
    (located : before.locate base = .ok (before.destination base)) :
    after.locate base = .ok (before.destination base) ∧
      below after base depth = below before base depth := by
  have still : after.locate base = .ok (before.destination base) := by
    rw [kept.growth.locate (by simp [located]), located]
  refine ⟨still, below_congr kept.wellFormed wellFormed fun parts => ?_⟩
  rw [mem_below kept.wellFormed still, mem_below wellFormed located]
  constructor
  · rintro ⟨⟨some, bytes, found⟩, schema, shallow⟩
    exact ⟨⟨some, bytes, (kept.schemas parts some schema shallow bytes).mp found⟩, schema, shallow⟩
  · rintro ⟨⟨some, bytes, found⟩, schema, shallow⟩
    exact ⟨⟨some, bytes, (kept.schemas parts some schema shallow bytes).mpr found⟩, schema,
      shallow⟩

/-- A directory that was not there has no schemas. -/
theorem below_new (wellFormed : before.WellFormed) (dots : before.DotsResolved base)
    (kept : Kept (before.destination base) depth before after)
    (asked : before.isDirectory base = .ok false) : below after base depth = [] := by
  cases located : after.locate base with
  | error fault => rw [below, located]
  | ok location =>
    have askable := FileTree.askable_of_locate located
    have walked := FileTree.reach_of_locate located
    have start := kept.growth.start base
    have ends : before.destination base = location := by
      rw [← FileTree.destination_of_locate located, FileTree.destination, FileTree.destination,
        start]
    rw [List.eq_nil_iff_forall_not_mem]
    intro parts member
    obtain ⟨⟨some, bytes, found⟩, schema, shallow⟩ := (mem_below kept.wellFormed located).mp member
    rw [← ends, kept.schemas parts some schema shallow] at found
    -- The directory has been there all along, so the walk to it cannot have been stopped.
    have above := wellFormed.find?_above found some
    cases reached : before.reach (before.start base) base.parts with
    | ok place =>
      have locatedBefore := FileTree.locate_of_reach askable reached
      rw [FileTree.destination_of_locate locatedBefore] at above
      rw [isDirectory_of_locate locatedBefore, above] at asked
      cases asked
    | error obstacle =>
      by_cases missing : obstacle = .missing
      · have none := FileTree.find?_of_missing wellFormed dots
          (by rw [List.take_length, reached, missing])
        rw [FileTree.upTo_length, above] at none
        cases none
      · rw [start, kept.growth.reach (by simp [reached, missing]), reached] at walked
        cases walked

/-- A directory that was there has the listing that it had. -/
theorem listing_there (wellFormed : before.WellFormed)
    (kept : Kept (before.destination base) depth before after)
    (asked : before.isDirectory base = .ok true) :
    after.isDirectory base = .ok true ∧
      listing base depth locator after = listing base depth locator before := by
  obtain ⟨located, found⟩ := directory_of_answer asked
  obtain ⟨still, same⟩ := below_kept wellFormed kept located
  have again : after.isDirectory base = .ok true := by
    rw [isDirectory_of_locate still, kept.growth.directories _ found]
    rfl
  refine ⟨again, ?_⟩
  rw [listing, listing, asked, again, same]

/-- Where schemas are kept, the listing is what it was. -/
theorem listing_kept (wellFormed : before.WellFormed) (dots : before.DotsResolved base)
    (kept : Kept (before.destination base) depth before after)
    (answered : ∃ answer, after.isDirectory base = .ok answer)
    (listed : listing base depth locator before = .ok files) :
    listing base depth locator after = .ok files := by
  obtain ⟨answer, again⟩ := answered
  obtain ⟨isDirectory, asked, made⟩ := Except.map_eq_ok.mp listed
  cases isDirectory with
  | true => rw [(listing_there wellFormed kept asked).2, listed]
  | false =>
    rw [← made, listing, again, below_new wellFormed dots kept asked]
    cases answer <;> rfl

/-- A schema that is listed is where it was with the bytes it had. -/
theorem holds_kept (wellFormed : before.WellFormed) (named : before.Named)
    (kept : Kept (before.destination base) depth before after)
    (listed : listing base depth locator before = .ok files) {file : SchemaFile}
    (member : file ∈ files) :
    ∃ parts bytes, parts ≠ [] ∧ (∀ part ∈ parts, FileName part) ∧
      file = ⟨⟨base.root, base.parts ++ parts⟩, locator parts⟩ ∧
      before.Holds file.path (before.destination base ++ parts) bytes ∧
      after.Holds file.path (before.destination base ++ parts) bytes := by
  obtain ⟨parts, bytes, some, names, same, schema, shallow, holds⟩ :=
    mem_listing wellFormed named listed member
  have found := (kept.schemas parts some schema shallow bytes).mpr holds.found
  exact ⟨parts, bytes, some, names, same, holds, holds.kept kept.growth found⟩

/-- So it is read as it was. -/
theorem read_kept (wellFormed : before.WellFormed) (named : before.Named)
    (kept : Kept (before.destination base) depth before after)
    (listed : listing base depth locator before = .ok files) :
    ∀ file ∈ files, file.read after = file.read before := by
  intro file member
  obtain ⟨parts, bytes, -, -, -, holds, still⟩ := holds_kept wellFormed named kept listed member
  unfold read FileTree.readText
  rw [holds.read_eq still]

/-- What a root hands on is found and read as it was. -/
theorem foundPublished_kept {root : Text} (wellFormed : before.WellFormed) (named : before.Named)
    (dotless : (".." : Text) ∉ (Path.ofText root).parts)
    (short : ∀ part ∈ (Path.ofText root).parts, FileTree.isTooLong part = false)
    (kept : Kept (before.destination (exchange (Path.ofText root))) (some 1) before after)
    (found : foundPublished root before = .ok files) :
    foundPublished root after = .ok files ∧ ∀ file ∈ files, file.read after = file.read before := by
  have shortToo : ∀ part ∈ (exchange (Path.ofText root)).parts,
      FileTree.isTooLong part = false := by
    rw [exchange_eq]
    exact List.forall_mem_append.mpr
      ⟨short, List.forall_mem_singleton.mpr fileName_exchangeDirectory.short⟩
  have dots := dotsResolved_exchange (FileTree.dotsResolved_of_dotless before dotless)
  obtain ⟨answer, asked, -⟩ := Except.map_eq_ok.mp found
  have answered := answered_later after shortToo ⟨answer, asked⟩
  exact ⟨listing_kept wellFormed dots kept answered found, read_kept wellFormed named kept found⟩

/-- What several roots hand on is kept, if it is for each. -/
theorem foundPublishedAll_kept {roots : List Text} {found : List (List SchemaFile)}
    (each : ∀ root ∈ roots, ∀ files, foundPublished root before = .ok files →
      foundPublished root after = .ok files ∧ ∀ file ∈ files, file.read after = file.read before)
    (listed : foundPublishedAll roots before = .ok found) :
    foundPublishedAll roots after = .ok found ∧
      ∀ file ∈ found.flatten, file.read after = file.read before := by
  unfold foundPublishedAll at listed ⊢
  induction roots generalizing found with
  | nil =>
    obtain rfl := Except.ok.inj listed
    exact ⟨rfl, by simp⟩
  | cons root roots inductionHypothesis =>
    rw [List.forall_mem_cons] at each
    rw [List.mapM_cons] at listed ⊢
    obtain ⟨files, first, listed⟩ := Except.bind_eq_ok.mp listed
    obtain ⟨others, rest, listed⟩ := Except.bind_eq_ok.mp listed
    obtain rfl := Except.ok.inj listed
    obtain ⟨firstAgain, same⟩ := each.1 files first
    obtain ⟨restAgain, sameRest⟩ := inductionHypothesis each.2 rest
    refine ⟨?_, List.forall_mem_append.mpr ⟨same, sameRest⟩⟩
    exact Except.bind_eq_ok.mpr ⟨files, firstAgain, Except.bind_eq_ok.mpr ⟨others, restAgain, rfl⟩⟩

end SchemaFile

/-- The references of a configuration, as they are spelled. -/
def Config.references (config : Config) : List Path :=
  config.referencePaths.map (fun path => Path.ofText path.display)

namespace Session

open SchemaFile

variable {session next : Session} {before after : FileTree} {config : Config}

/-- What is read of each file is all that counts. -/
theorem withFiles_kept {origin : Origin} {files : List SchemaFile}
    (same : ∀ file ∈ files, file.read after = file.read before) :
    session.withFiles origin files after = session.withFiles origin files before := by
  unfold withFiles
  induction files generalizing session with
  | nil => rfl
  | cons file files inductionHypothesis =>
    rw [List.forall_mem_cons] at same
    rw [List.foldlM_cons, List.foldlM_cons, same.1]
    congr 1
    funext next
    exact inductionHypothesis same.2

/-- Where the schemas of the source directory and those of the references are kept, the same is
loaded. -/
theorem loaded_kept (wellFormed : before.WellFormed) (named : before.Named)
    (source : Kept (before.destination config.sourceDirectory) none before after)
    (dotless : ∀ path ∈ config.references, (".." : Text) ∉ path.parts)
    (short : ∀ path ∈ config.references, ∀ part ∈ path.parts, FileTree.isTooLong part = false)
    (references : ∀ path ∈ config.references,
      Kept (before.destination (exchange path)) (some 1) before after)
    (given : session.loaded config before = .ok (next, true)) :
    session.loaded config after = .ok (next, true) := by
  obtain ⟨isDirectory, asked, given⟩ := Except.bind_eq_ok.mp given
  cases isDirectory with
  | false => cases given
  | true =>
    obtain ⟨_, answer, given⟩ := Except.bind_eq_ok.mp given
    obtain ⟨handed, searched, rfl⟩ := Except.map_eq_ok.mp (Except.mapError_eq_ok.mp answer)
    obtain ⟨known, first, given⟩ := Except.bind_eq_ok.mp given
    obtain ⟨sources, listed, given⟩ := Except.bind_eq_ok.mp given
    obtain ⟨all, second, given⟩ := Except.bind_eq_ok.mp given
    rw [Except.mapError_eq_ok] at asked listed
    obtain ⟨askedAgain, listedAgain⟩ := listing_there wellFormed source asked
    have readAgain := read_kept wellFormed named source listed
    have each : ∀ root ∈ config.referencePaths.map Path.display, ∀ files,
        foundPublished root before = .ok files → foundPublished root after = .ok files ∧
          ∀ file ∈ files, file.read after = file.read before := by
      intro root member files found
      obtain ⟨path, inside, rfl⟩ := List.mem_map.mp member
      have reference : Path.ofText path.display ∈ config.references :=
        List.mem_map.mpr ⟨path, inside, rfl⟩
      exact foundPublished_kept wellFormed named (dotless _ reference) (short _ reference)
        (references _ reference) found
    obtain ⟨searchedAgain, handedAgain⟩ := foundPublishedAll_kept each searched
    refine Except.bind_eq_ok.mpr ⟨true, Except.mapError_eq_ok.mpr askedAgain, ?_⟩
    refine Except.bind_eq_ok.mpr ⟨handed.flatten, ?_, Except.bind_eq_ok.mpr ⟨known, ?_,
      Except.bind_eq_ok.mpr ⟨sources, ?_, Except.bind_eq_ok.mpr ⟨all, ?_, given⟩⟩⟩⟩
    · rw [searchedAgain]
      rfl
    · rw [withFiles_kept handedAgain, first]
    · exact Except.mapError_eq_ok.mpr (listedAgain.trans listed)
    · rw [withFiles_kept readAgain, second]

end Session

end SchemaForge
