import SchemaForge.Proofs.SchemaListing
import SchemaForge.Proofs.TreeChanges

/-!
# Schemas that are copied

What an action on a workspace does to the files does not depend on what has been told before.
`Gives` says what comes of an action and leaves the log out, so that a search is a question about
the tree and handing schemas on is copying them one by one.

A copy that is made is found at the end of its path, behind new directories on the way there and
nothing else. Making it again writes the same bytes to the same file, as long as the schema it is
made from has not changed.
-/

namespace SchemaForge

/-! ## Actions without their log -/

/-- What comes of an action, and the files afterwards. -/
def Action.Gives {α : Type} (action : Action α) (workspace : Workspace)
    (answer : Except Failure α) (after : FileTree) : Prop :=
  ∃ log, StateT.run action.run workspace = (answer, ⟨after, log⟩)

namespace Action

variable {α β : Type} {workspace : Workspace} {tree middle after : FileTree}

/-- An action has one answer. -/
theorem Gives.unique {action : Action α} {answer other : Except Failure α} {afterOther : FileTree}
    (gives : action.Gives workspace answer after)
    (givesOther : action.Gives workspace other afterOther) :
    other = answer ∧ afterOther = after := by
  obtain ⟨log, ran⟩ := gives
  obtain ⟨logOther, ranOther⟩ := givesOther
  rw [ran] at ranOther
  obtain ⟨rfl, same⟩ := Prod.mk.inj ranOther
  exact ⟨rfl, (congrArg Workspace.tree same).symm⟩

/-- A value is given as it is. -/
theorem gives_pure (value : α) (workspace : Workspace) :
    (pure value : Action α).Gives workspace (.ok value) workspace.tree :=
  ⟨workspace.log, rfl⟩

/-- One action behind another. -/
theorem gives_bind {first : Action α} {next : α → Action β} {value : α}
    {answer : Except Failure β} (lead : first.Gives workspace (.ok value) middle)
    (rest : ∀ log, (next value).Gives ⟨middle, log⟩ answer after) :
    (first >>= next).Gives workspace answer after := by
  obtain ⟨log, ran⟩ := lead
  obtain ⟨last, ranBehind⟩ := rest log
  refine ⟨last, ?_⟩
  rw [run_bind, ran]
  exact ranBehind

/-- An action that fails is the end. -/
theorem gives_bind_error {first : Action α} {next : α → Action β} {failure : Failure}
    (lead : first.Gives workspace (.error failure) middle) :
    (first >>= next).Gives workspace (.error failure) middle := by
  obtain ⟨log, ran⟩ := lead
  refine ⟨log, ?_⟩
  rw [run_bind, ran]

/-- Telling changes no file. -/
theorem tell_gives (event : LogEvent) (workspace : Workspace) :
    (tell event).Gives workspace (.ok ()) workspace.tree :=
  ⟨_, rfl⟩

/-- The files are given as they are. -/
theorem tree_gives (workspace : Workspace) :
    Action.tree.Gives workspace (.ok workspace.tree) workspace.tree :=
  ⟨workspace.log, rfl⟩

/-- A question is answered from the files. -/
theorem asks_gives (question : FileTree → Except FileFault α) (workspace : Workspace) :
    (asks question).Gives workspace ((question workspace.tree).mapError .file) workspace.tree := by
  have looked : StateT.run Action.tree.run workspace = (.ok workspace.tree, workspace) := rfl
  refine ⟨workspace.log, ?_⟩
  unfold asks
  rw [run_bind, looked]
  dsimp only
  cases question workspace.tree <;> rfl

/-- A file operation does what it does to the files. -/
theorem files_gives (action : FileAction α) (workspace : Workspace) :
    (files action).Gives workspace ((action.on workspace.tree).1.mapError .file)
      (action.on workspace.tree).2 := by
  have looked : StateT.run (get : Action Workspace).run workspace = (.ok workspace, workspace) := rfl
  refine ⟨workspace.log, ?_⟩
  unfold files FileAction.on
  rw [run_bind, looked]
  dsimp only
  generalize StateT.run action.run workspace.tree = ran
  obtain ⟨outcome, after⟩ := ran
  cases outcome <;> rfl

end Action

namespace SchemaFile

variable {tree before after later : FileTree} {workspace : Workspace}

/-! ## Searches -/

/-- The schemas below a directory with their locators, if the question whether it is one has an
answer. -/
def listing (base : Path) (depth : Option Nat) (locator : List Text → Text) (tree : FileTree) :
    Except FileFault (List SchemaFile) :=
  (tree.isDirectory base).map (fun isDirectory =>
    if isDirectory then
      (below tree base depth).map (fun parts =>
        ⟨⟨base.root, base.parts ++ parts⟩, locator parts⟩)
    else [])

/-- The schemas anywhere below a directory. -/
def found (base : Path) : FileTree → Except FileFault (List SchemaFile) :=
  listing base none (Text.join "/")

/-- Where a root hands schemas on. -/
def exchange (root : Path) : Path := root.join exchangeDirectory

/-- The schemas that a root hands on. -/
def foundPublished (root : Text) : FileTree → Except FileFault (List SchemaFile) :=
  listing (exchange (Path.ofText root)) (some 1) (fun parts =>
    Text.join "/" (exchangeDirectory :: parts))

/-- A search is a question about the files. -/
theorem search_gives (base : Path) (depth : Option Nat) (locator : List Text → Text)
    (event : LogEvent) (workspace : Workspace) :
    (do
      let tree ← Action.tree
      if ← Action.asks (fun tree => tree.isDirectory base) then
        pure ((below tree base depth).map (fun parts =>
          ⟨⟨base.root, base.parts ++ parts⟩, locator parts⟩))
      else
        Action.tell event
        pure [] : Action (List SchemaFile)).Gives workspace
      ((listing base depth locator workspace.tree).mapError .file) workspace.tree := by
  unfold listing
  refine Action.gives_bind (Action.tree_gives workspace) (fun log => ?_)
  have asked := Action.asks_gives (fun tree => tree.isDirectory base) ⟨workspace.tree, log⟩
  dsimp only at asked
  cases answer : workspace.tree.isDirectory base with
  | error fault =>
    rw [answer] at asked
    exact Action.gives_bind_error asked
  | ok isDirectory =>
    rw [answer] at asked
    refine Action.gives_bind asked (fun log => ?_)
    cases isDirectory with
    | true => exact Action.gives_pure _ _
    | false => exact Action.gives_bind (Action.tell_gives _ _) fun _ => Action.gives_pure _ _

/-- The search below a source directory. -/
theorem find_gives (base : Path) (workspace : Workspace) :
    (find base).Gives workspace ((found base workspace.tree).mapError .file) workspace.tree :=
  search_gives base none (Text.join "/") (.noSchemas base.display) workspace

/-- The search for what a root hands on. -/
theorem findPublishedBy_gives (root : Text) (workspace : Workspace) :
    (findPublishedBy root).Gives workspace ((foundPublished root workspace.tree).mapError .file)
      workspace.tree :=
  search_gives (exchange (Path.ofText root)) (some 1) _ (.noPublished root) workspace

/-- The schemas that each of several roots hands on. -/
def foundPublishedAll (roots : List Text) (tree : FileTree) :
    Except FileFault (List (List SchemaFile)) :=
  roots.mapM (fun root => foundPublished root tree)

/-- The searches for what several roots hand on. -/
theorem mapM_gives (roots : List Text) (workspace : Workspace) :
    (roots.mapM findPublishedBy).Gives workspace
      ((foundPublishedAll roots workspace.tree).mapError .file) workspace.tree := by
  unfold foundPublishedAll
  induction roots generalizing workspace with
  | nil => exact Action.gives_pure [] workspace
  | cons root roots inductionHypothesis =>
    have first := findPublishedBy_gives root workspace
    rw [List.mapM_cons, List.mapM_cons]
    cases listed : foundPublished root workspace.tree with
    | error fault =>
      rw [listed] at first
      exact Action.gives_bind_error first
    | ok files =>
      rw [listed] at first
      refine Action.gives_bind first (fun log => ?_)
      have rest := inductionHypothesis ⟨workspace.tree, log⟩
      dsimp only at rest
      cases listed : roots.mapM (fun root => foundPublished root workspace.tree) with
      | error fault =>
        rw [listed] at rest
        exact Action.gives_bind_error rest
      | ok others =>
        rw [listed] at rest
        exact Action.gives_bind rest fun _ => Action.gives_pure _ _

/-- All that several roots hand on. -/
theorem findPublished_gives (roots : List Text) (workspace : Workspace) :
    (findPublished roots).Gives workspace
      (((foundPublishedAll roots workspace.tree).map List.flatten).mapError .file)
      workspace.tree := by
  have searched := mapM_gives roots workspace
  cases listed : foundPublishedAll roots workspace.tree with
  | error fault =>
    rw [listed] at searched
    exact Action.gives_bind_error searched
  | ok found =>
    rw [listed] at searched
    exact Action.gives_bind searched fun _ => Action.gives_pure _ _

/-! ## Copies -/

/-- Where the copy of a schema is made. -/
def copyOf (destination : Path) (file : SchemaFile) : Path := destination.join file.path.name

/-- Copies one schema into a directory, which is made first. -/
def copyInto (destination : Path) (file : SchemaFile) : FileAction Unit := do
  FileAction.makeDirectories destination
  FileAction.copy file.path (copyOf destination file)

/-- A copy that is noted. -/
theorem copy_noted (destination : Path) (written : List Path) (file : SchemaFile)
    (workspace : Workspace) :
    (do
      Action.files (FileAction.copy file.path (copyOf destination file))
      Action.tell (.published file.locator (copyOf destination file).display)
      pure (written ++ [copyOf destination file]) : Action (List Path)).Gives workspace
      ((((FileAction.copy file.path (copyOf destination file)).on workspace.tree).1.mapError
        Failure.file).map (fun _ => written ++ [copyOf destination file]))
      ((FileAction.copy file.path (copyOf destination file)).on workspace.tree).2 := by
  have copied := Action.files_gives (FileAction.copy file.path (copyOf destination file)) workspace
  unfold FileAction.on at copied ⊢
  generalize StateT.run (FileAction.copy file.path (copyOf destination file)).run workspace.tree =
    ran at copied ⊢
  obtain ⟨outcome, after⟩ := ran
  cases outcome with
  | error fault => exact Action.gives_bind_error copied
  | ok done =>
    refine Action.gives_bind copied (fun log => ?_)
    exact Action.gives_bind (Action.tell_gives _ _) fun _ => Action.gives_pure _ _

/-- Handing a schema on is copying it and noting the copy. -/
theorem publishInto_gives (destination : Path) (written : List Path) (file : SchemaFile)
    (workspace : Workspace) :
    (publishInto destination written file).Gives workspace
      ((((copyInto destination file).on workspace.tree).1.mapError Failure.file).map
        (fun _ => written ++ [copyOf destination file]))
      ((copyInto destination file).on workspace.tree).2 := by
  unfold publishInto copyInto
  have made := Action.files_gives (FileAction.makeDirectories destination) workspace
  rw [FileAction.on, run_bind]
  unfold FileAction.on at made
  generalize StateT.run (FileAction.makeDirectories destination).run workspace.tree = ran at made ⊢
  obtain ⟨outcome, middle⟩ := ran
  cases outcome with
  | error fault => exact Action.gives_bind_error made
  | ok done =>
    have copied (log : List LogEvent) :
        (Action.files (FileAction.copy file.path (copyOf destination file)) >>= fun _ =>
          Action.tell (.published file.locator (copyOf destination file).display) >>= fun _ =>
            pure (written ++ [copyOf destination file])).Gives ⟨middle, log⟩ _ _ :=
      copy_noted destination written file ⟨middle, log⟩
    refine Action.gives_bind made (fun log => ?_)
    dsimp only
    split
    · exact Action.gives_bind (Action.tell_gives _ _) copied
    · exact copied log

/-- Copies schemas one behind the other. -/
def copyAll (destination : Path) (files : List SchemaFile) : FileAction Unit :=
  files.forM (copyInto destination)

/-- Handing schemas on is copying them and noting the copies. -/
theorem publishAll_gives (destination : Path) (written : List Path) (files : List SchemaFile)
    (workspace : Workspace) :
    (files.foldlM (publishInto destination) written).Gives workspace
      ((((copyAll destination files).on workspace.tree).1.mapError Failure.file).map
        (fun _ => written ++ files.map (copyOf destination)))
      ((copyAll destination files).on workspace.tree).2 := by
  induction files generalizing written workspace with
  | nil =>
    simp only [List.map_nil, List.append_nil]
    exact Action.gives_pure written workspace
  | cons file files inductionHypothesis =>
    have first := publishInto_gives destination written file workspace
    have split : (copyAll destination (file :: files)).on workspace.tree =
        StateT.run (copyInto destination file >>= fun _ => copyAll destination files).run
          workspace.tree := rfl
    rw [split, run_bind, List.foldlM_cons]
    unfold FileAction.on at first
    generalize StateT.run (copyInto destination file).run workspace.tree = ran at first ⊢
    obtain ⟨outcome, middle⟩ := ran
    cases outcome with
    | error fault => exact Action.gives_bind_error first
    | ok done =>
      refine Action.gives_bind first (fun log => ?_)
      have rest := inductionHypothesis (written ++ [copyOf destination file]) ⟨middle, log⟩
      rw [List.append_assoc] at rest
      exact rest

/-- What comes of handing on the schemas that are found. -/
theorem publish_gives {source : Path} {files : List SchemaFile} (root : Path)
    (listed : found source workspace.tree = .ok files) :
    (publish source root).Gives workspace
      ((((copyAll (exchange root) files).on workspace.tree).1.mapError Failure.file).map
        (fun _ => files.map (copyOf (exchange root))))
      ((copyAll (exchange root) files).on workspace.tree).2 := by
  have searched := find_gives source workspace
  rw [listed] at searched
  exact Action.gives_bind searched fun log => publishAll_gives (exchange root) [] files _

/-- If all of them can be copied, they are handed on. -/
theorem publish_done {source root : Path} {files : List SchemaFile}
    (listed : found source workspace.tree = .ok files)
    (ran : (copyAll (exchange root) files).on workspace.tree = (.ok (), after)) :
    (publish source root).Gives workspace (.ok (files.map (copyOf (exchange root)))) after := by
  have gives := publish_gives root listed
  rw [ran] at gives
  exact gives

/-- If schemas are handed on, the search for them has an answer, and all are copied. -/
theorem publish_ok {source root : Path} {written : List Path}
    (gives : (publish source root).Gives workspace (.ok written) after) :
    ∃ files, found source workspace.tree = .ok files ∧
      written = files.map (copyOf (exchange root)) ∧
      (copyAll (exchange root) files).on workspace.tree = (.ok (), after) := by
  cases listed : found source workspace.tree with
  | error fault =>
    have searched := find_gives source workspace
    rw [listed] at searched
    obtain ⟨failed, -⟩ := gives.unique (Action.gives_bind_error searched)
    cases failed
  | ok files =>
    obtain ⟨answer, rfl⟩ := gives.unique (publish_gives root listed)
    cases copied : ((copyAll (exchange root) files).on workspace.tree).1 with
    | error fault =>
      rw [copied] at answer
      cases answer
    | ok done =>
      rw [copied] at answer
      exact ⟨files, rfl, (Except.ok.inj answer).symm, Prod.ext copied rfl⟩

end SchemaFile

/-! ## One copy -/

namespace FileTree

variable {tree before after later : FileTree} {path : Path} {location : Location}
  {bytes : List UInt8}

/-- A file at the end of a path. -/
structure Holds (tree : FileTree) (path : Path) (location : Location) (bytes : List UInt8) :
    Prop where
  /-- The path leads to it. -/
  reached : tree.reach (tree.start path) path.parts = .ok location
  /-- It has the bytes. -/
  found : tree.find? location = some (.file bytes)

/-- It is still there in a tree that has grown, unless its bytes have changed. -/
theorem Holds.kept (holds : before.Holds path location bytes) (growth : before.Extends after)
    (found : after.find? location = some (.file bytes)) : after.Holds path location bytes := by
  refine ⟨?_, found⟩
  rw [growth.start, growth.reach (by simp [holds.reached]), holds.reached]

/-- A path that can be asked about and leads somewhere is located. -/
theorem locate_of_reach (askable : Askable path.display)
    (reached : tree.reach (tree.start path) path.parts = .ok location) :
    tree.locate path = .ok location := by
  rw [locate_askable askable, reached]
  rfl

/-- A path that is located can be asked about. -/
theorem askable_of_locate (located : tree.locate path = .ok location) : Askable path.display := by
  by_contra unaskable
  obtain ⟨fault, -, refused⟩ := locate_unaskable unaskable
  rw [refused] at located
  cases located

/-- Its bytes are what is read. -/
theorem Holds.read (holds : tree.Holds path location bytes) (askable : Askable path.display) :
    tree.read path = .ok bytes := by
  rw [FileTree.read, locate_of_reach askable holds.reached]
  dsimp only
  rw [holds.found]

/-- If anything is read, it is its bytes. -/
theorem Holds.of_read {others : List UInt8} (holds : tree.Holds path location bytes)
    (read : tree.read path = .ok others) : Askable path.display ∧ others = bytes := by
  have askable : Askable path.display := by
    by_contra unaskable
    obtain ⟨fault, -, refused⟩ := locate_unaskable unaskable
    rw [FileTree.read, refused] at read
    cases read
  rw [holds.read askable] at read
  exact ⟨askable, (Except.ok.inj read).symm⟩

/-- Double dots that come behind directories do so in a tree that has grown. -/
theorem Extends.dotsResolved (growth : before.Extends after) (dots : before.DotsResolved path) :
    after.DotsResolved path := by
  intro front back split
  have there := dots front back split
  unfold hasDirectory nodeAt? at there ⊢
  cases located : before.locate ⟨path.root, front⟩ with
  | error fault =>
    rw [located] at there
    simp at there
  | ok location =>
    rw [located] at there
    have reached := reach_of_locate located
    have again : after.locate ⟨path.root, front⟩ = .ok location := by
      refine locate_of_reach (askable_of_locate located) ?_
      rw [growth.start, growth.reach (by simp [reached]), reached]
    rw [again]
    exact decide_eq_true (growth.directories _ (of_decide_eq_true there))

end FileTree

namespace FileAction

variable {tree : FileTree} {path : Path}

/-- A directory that is there stays, and so do its parents. -/
theorem makeDirectories_there (askable : FileTree.Askable path.display) {location : Location}
    (reached : tree.reach (tree.start path) path.parts = .ok location)
    (found : tree.find? location = some .directory) :
    (makeDirectories path).on tree = (.ok (), tree) := by
  have located : tree.locate (path.upTo path.parts.length) = .ok location := by
    rw [FileTree.upTo_length, FileTree.locate_of_reach askable reached]
  rw [makeDirectories, makeDirectoriesUpTo_settled (by simp [located]), makeOrKeep, located]
  dsimp only
  rw [found]

/-- What is written to a file. -/
theorem write_on (path : Path) (bytes : List UInt8) (tree : FileTree) :
    (write path bytes).on tree =
      match tree.locate path with
      | .error reason => (.error reason, tree)
      | .ok location =>
        if tree.find? location = some .directory then (.error (.isDirectory path.display), tree)
        else (.ok (), tree.put location (.file bytes)) := by
  unfold write
  rw [on, run_bind]
  change StateT.run (ExceptT.run (match tree.locate path with | .error _ => _ | .ok _ => _)) tree = _
  cases tree.locate path with
  | error reason => rfl
  | ok location =>
    dsimp only
    cases tree.find? location with
    | none => rfl
    | some node => cases node <;> rfl

/-- What is copied. -/
theorem copy_on (source target : Path) (tree : FileTree) :
    (copy source target).on tree =
      if tree.isSameFile source target then
        (.error (.sameFile source.display target.display), tree)
      else
        match tree.read source with
        | .error reason => (.error reason, tree)
        | .ok bytes => (write target bytes).on tree := by
  unfold copy
  rw [on, run_bind]
  change StateT.run (ExceptT.run (if tree.isSameFile source target = true then _ else _)) tree = _
  split
  · rfl
  · cases tree.read source <;> rfl

/-- A copy that is made: the source has been read, and the target is no directory. -/
theorem copy_ok {source target : Path} {after : FileTree}
    (ran : (copy source target).on tree = (.ok (), after)) :
    ∃ bytes location, tree.read source = .ok bytes ∧ tree.locate target = .ok location ∧
      tree.find? location ≠ some .directory ∧ tree.put location (.file bytes) = after := by
  rw [copy_on] at ran
  split at ran
  · cases ran
  · cases read : tree.read source with
    | error fault =>
      rw [read] at ran
      cases ran
    | ok bytes =>
      rw [read] at ran
      dsimp only at ran
      rw [write_on] at ran
      cases located : tree.locate target with
      | error fault =>
        rw [located] at ran
        cases ran
      | ok location =>
        rw [located] at ran
        dsimp only at ran
        split at ran
        · cases ran
        · next free => exact ⟨bytes, location, rfl, rfl, free, (Prod.mk.inj ran).2⟩

end FileAction

namespace SchemaFile

open FileTree (Askable AddsDirectories Changes DotsResolved)

variable {tree before after later : FileTree} {destination : Path} {directory : Location}
  {content : SchemaFile → List UInt8} {file : SchemaFile} {files : List SchemaFile}

/-- A name below a base is one more part. -/
theorem join_name {name : Text} (isName : FileName name) (base : Path) :
    base.join name = ⟨base.root, base.parts ++ [name]⟩ := by
  have relative : (Path.ofText name).isAbsolute = false := by
    rw [Path.isAbsolute_ofText, decide_eq_false_iff_not]
    intro slash
    exact isName.noSlash (List.mem_of_head? slash)
  have parts : (Path.ofText name).parts = [name] :=
    Path.partsOf_of_not_mem isName.noSlash isName.some isName.noDot
  rw [Path.join, Path.under_of_relative relative, parts]

/-- What the copy of a schema into a directory writes there. -/
def copied (directory : Location) (content : SchemaFile → List UInt8) (file : SchemaFile) :
    Location × List UInt8 :=
  (directory ++ [file.path.name], content file)

/-- A schema that can be copied into a directory: it has a name and a content, and lies
elsewhere. -/
structure Sourced (tree : FileTree) (directory : Location) (content : SchemaFile → List UInt8)
    (file : SchemaFile) : Prop where
  /-- It has a name. -/
  name : FileName file.path.name
  /-- It has a content, and lies elsewhere. -/
  held : ∃ location, tree.Holds file.path location (content file) ∧
    ∀ name, location ≠ directory ++ [name]

/-- The schema is as it was in a tree that has grown, if files elsewhere have their bytes. -/
theorem Sourced.grown (sourced : Sourced before directory content file)
    (growth : before.Extends after)
    (same : ∀ location bytes, (∀ name, location ≠ directory ++ [name]) →
      before.find? location = some (.file bytes) → after.find? location = some (.file bytes)) :
    Sourced after directory content file := by
  obtain ⟨location, holds, apart⟩ := sourced.held
  exact ⟨sourced.name, location, holds.kept growth (same location _ apart holds.found), apart⟩

/-- A copy writes nothing elsewhere. -/
theorem last?_copied {location : Location} (apart : ∀ name, location ≠ directory ++ [name]) :
    Writes.last? [copied directory content file] location = none :=
  if_neg fun here => apart file.path.name here.symm

/-- The schema is as it was after another has been copied. -/
theorem Sourced.kept {new : Location → FileNode → Prop} {other : SchemaFile}
    (sourced : Sourced before directory content file)
    (changes : Changes new [copied directory content other] before after) :
    Sourced after directory content file :=
  sourced.grown changes.growth fun _ _ apart found => changes.kept (last?_copied apart) found

/-- So it is after another has been copied once more. -/
theorem Sourced.overwritten {other : SchemaFile} (sourced : Sourced tree directory content file)
    (files : tree.HasFiles [copied directory content other]) :
    Sourced (tree.overwrite [copied directory content other]) directory content file := by
  refine sourced.grown files.growth ?_
  intro location bytes apart found
  rw [files.find?_overwrite, last?_copied apart]
  exact found

/-- Directories on the way to a location. -/
def OnTheWay (target location : Location) (node : FileNode) : Prop :=
  node = .directory ∧ location <+: target

/-- A copy that is made: it is written behind new directories. -/
theorem copyInto_ok (wellFormed : before.WellFormed) (dots : before.DotsResolved destination)
    (sourced : Sourced before (before.destination destination) content file)
    (ran : (copyInto destination file).on before = (.ok (), after)) :
    Askable (copyOf destination file).display ∧ Askable file.path.display ∧
      Changes (OnTheWay (before.destination destination))
        [copied (before.destination destination) content file] before after ∧
      after.reach (before.start destination) destination.parts =
        .ok (before.destination destination) ∧
      after.find? (before.destination destination) = some .directory := by
  obtain ⟨location, holds, -⟩ := sourced.held
  rw [copyInto, FileAction.on, run_bind] at ran
  cases made : StateT.run (FileAction.makeDirectories destination).run before with
  | mk outcome middle =>
    rw [made] at ran
    cases outcome with
    | error fault => cases ran
    | ok done =>
      obtain ⟨-, adds, reached, found⟩ := FileTree.makeDirectories_ok wellFormed dots made
      change (FileAction.copy file.path (copyOf destination file)).on middle = (.ok (), after) at ran
      obtain ⟨bytes, target, read, located, free, rfl⟩ := FileAction.copy_ok ran
      have kept := holds.kept adds.growth (adds.kept holds.found)
      obtain ⟨askableSource, rfl⟩ := kept.of_read read
      have ends : target = before.destination destination ++ [file.path.name] := by
        rw [← FileTree.destination_of_locate located, copyOf, join_name sourced.name,
          FileTree.destination, List.foldl_concat, Location.follow, if_neg sourced.name.noDots,
          sourced.name.canonical]
        unfold FileTree.destination FileTree.start
        rw [adds.working]
        rfl
      subst ends
      have written : Changes (OnTheWay (before.destination destination))
          [copied (before.destination destination) content file] middle _ :=
        Changes.of_put adds.wellFormed (by simp) (by rwa [List.dropLast_concat]) free (content file)
      have whole := (Changes.of_directories adds fun _ way => ⟨rfl, way⟩).trans written
      refine ⟨FileTree.askable_of_locate located, askableSource, whole, ?_, ?_⟩
      · rw [written.growth.reach (by simp [reached]), reached]
      · exact written.growth.directories _ found

/-- Making a copy once more writes the same bytes. -/
theorem copyInto_again (sourced : Sourced later directory content file)
    (askable : Askable (copyOf destination file).display)
    (askableSource : Askable file.path.display)
    (reached : later.reach (later.start destination) destination.parts = .ok directory)
    (found : later.find? directory = some .directory)
    (files : later.HasFiles [copied directory content file]) :
    (copyInto destination file).on later =
      (.ok (), later.overwrite [copied directory content file]) := by
  obtain ⟨location, holds, apart⟩ := sourced.held
  have shorter : Askable destination.display := by
    have beginning := askable.upTo destination.parts.length
    rwa [copyOf, join_name sourced.name, Path.upTo, List.take_left] at beginning
  have located : later.locate (copyOf destination file) =
      .ok (directory ++ [file.path.name]) := by
    refine FileTree.locate_of_reach askable ?_
    rw [copyOf, join_name sourced.name]
    exact FileTree.reach_name sourced.name reached found
  have different : later.isSameFile file.path (copyOf destination file) = false := by
    simp [FileTree.isSameFile, FileTree.locate_of_reach askableSource holds.reached, located,
      apart file.path.name]
  obtain ⟨others, target⟩ := files _ List.mem_cons_self
  have target : later.find? (directory ++ [file.path.name]) = some (.file others) := target
  rw [copyInto, FileAction.on, run_bind, ← FileAction.on,
    FileAction.makeDirectories_there shorter reached found]
  change (FileAction.copy file.path (copyOf destination file)).on later = _
  rw [FileAction.copy_on, different, holds.read askableSource]
  dsimp only
  rw [if_neg Bool.false_ne_true, FileAction.write_on, located]
  dsimp only
  rw [target, if_neg (by simp)]
  rfl

/-! ## Copies one behind the other -/

/-- What the copies of schemas into a directory write there, in order. -/
def copies (directory : Location) (content : SchemaFile → List UInt8) (files : List SchemaFile) :
    Writes :=
  files.map (copied directory content)

/-- The file system can be asked about a schema and about its copy. -/
def Known (destination : Path) (file : SchemaFile) : Prop :=
  Askable (copyOf destination file).display ∧ Askable file.path.display

/-- Copies that are made: each is written, behind new directories. By induction on the schemas;
what a copy leaves to the next ones is that their schemas are as they were. -/
theorem copyAll_ok (wellFormed : before.WellFormed) (dots : before.DotsResolved destination)
    (ends : before.destination destination = directory)
    (sourced : ∀ file ∈ files, Sourced before directory content file)
    (ran : (copyAll destination files).on before = (.ok (), after)) :
    (∀ file ∈ files, Known destination file) ∧
      Changes (OnTheWay directory) (copies directory content files) before after ∧
      (files ≠ [] → after.reach (before.start destination) destination.parts = .ok directory ∧
        after.find? directory = some .directory) := by
  induction files generalizing before with
  | nil =>
    obtain ⟨-, rfl⟩ := Prod.mk.inj ran
    exact ⟨by simp, .refl wellFormed, fun some => absurd rfl some⟩
  | cons file files inductionHypothesis =>
    rw [List.forall_mem_cons] at sourced
    change StateT.run (copyInto destination file >>= fun _ => copyAll destination files).run before =
      _ at ran
    rw [run_bind] at ran
    cases first : StateT.run (copyInto destination file).run before with
    | mk outcome middle =>
      rw [first] at ran
      cases outcome with
      | error fault => cases ran
      | ok done =>
        obtain ⟨askable, askableSource, changes, reached, found⟩ :=
          copyInto_ok wellFormed dots (ends ▸ sourced.1) first
        rw [ends] at changes reached found
        have growth := changes.growth
        have start := growth.start destination
        have ends : middle.destination destination = directory := by
          rw [← ends, FileTree.destination, FileTree.destination, start]
        obtain ⟨known, more, -⟩ := inductionHypothesis changes.wellFormed (growth.dotsResolved dots)
          ends (fun other member => (sourced.2 other member).kept changes) ran
        refine ⟨List.forall_mem_cons.mpr ⟨⟨askable, askableSource⟩, known⟩, changes.trans more, ?_⟩
        intro _
        refine ⟨?_, more.growth.directories _ found⟩
        rw [more.growth.reach (by simp [reached]), reached]

/-- Making copies once more writes the same bytes to the same files. -/
theorem copyAll_again (sourced : ∀ file ∈ files, Sourced later directory content file)
    (known : ∀ file ∈ files, Known destination file)
    (there : files ≠ [] → later.reach (later.start destination) destination.parts =
      .ok directory ∧ later.find? directory = some .directory)
    (written : later.HasFiles (copies directory content files)) :
    (copyAll destination files).on later =
      (.ok (), later.overwrite (copies directory content files)) := by
  induction files generalizing later with
  | nil => rfl
  | cons file files inductionHypothesis =>
    rw [List.forall_mem_cons] at sourced known
    obtain ⟨reached, found⟩ := there (List.cons_ne_nil _ _)
    obtain ⟨target, others⟩ := List.forall_mem_cons.mp written
    have target : later.HasFiles [copied directory content file] :=
      List.forall_mem_singleton.mpr target
    have growth := target.growth
    have first := copyInto_again sourced.1 known.1.1 known.1.2 reached found target
    change StateT.run (copyInto destination file >>= fun _ => copyAll destination files).run later =
      _
    rw [run_bind, ← FileAction.on, first]
    refine inductionHypothesis ?_ known.2 ?_ (FileTree.HasFiles.mono others growth)
    · exact fun other member => (sourced.2 other member).overwritten target
    · intro _
      refine ⟨?_, growth.directories _ found⟩
      rw [growth.start, growth.reach (by simp [reached]), reached]

/-! ## Copies of what is found -/

/-- A directory that a question is answered with is one at the end of its path. -/
theorem directory_of_answer {base : Path} (answer : tree.isDirectory base = .ok true) :
    tree.locate base = .ok (tree.destination base) ∧
      tree.find? (tree.destination base) = some .directory := by
  unfold FileTree.isDirectory at answer
  cases located : tree.locate base with
  | error fault =>
    rw [located] at answer
    have nothing : tree.hasDirectory base = false := by
      simp [FileTree.hasDirectory, FileTree.nodeAt?_of_error located]
    cases fault with
    | nameTooLong => cases answer
    | missing | alreadyExists | notDirectory | isDirectory | sameFile | schemaNotUtf8
      | refused | embeddedNull | undecodable | unencodable =>
      dsimp only at answer
      rw [nothing] at answer
      cases answer
  | ok location =>
    rw [located] at answer
    dsimp only at answer
    have node : tree.nodeAt? base = some .directory := of_decide_eq_true (Except.ok.inj answer)
    rw [FileTree.nodeAt?_of_ok located] at node
    rw [FileTree.destination_of_locate located]
    exact ⟨rfl, node⟩

/-- A schema that is listed is a file below the directory, at the end of its path. -/
theorem mem_listing {base : Path} {depth : Option Nat} {locator : List Text → Text}
    (wellFormed : tree.WellFormed) (named : tree.Named)
    (listed : listing base depth locator tree = .ok files) (member : file ∈ files) :
    ∃ parts bytes, parts ≠ [] ∧ (∀ part ∈ parts, FileName part) ∧
      file = ⟨⟨base.root, base.parts ++ parts⟩, locator parts⟩ ∧
      isSchemaPath ⟨[], parts⟩ = true ∧ depth.all (fun bound => parts.length ≤ bound) = true ∧
      tree.Holds file.path (tree.destination base ++ parts) bytes := by
  unfold listing at listed
  cases answer : tree.isDirectory base with
  | error fault =>
    rw [answer] at listed
    cases listed
  | ok isDirectory =>
    rw [answer] at listed
    obtain rfl := Except.ok.inj listed
    cases isDirectory with
    | false => cases member
    | true =>
      obtain ⟨located, -⟩ := directory_of_answer answer
      obtain ⟨parts, inside, rfl⟩ := List.mem_map.mp member
      obtain ⟨⟨some, bytes, found⟩, schema, shallow⟩ := (mem_below wellFormed located).mp inside
      have names : ∀ part ∈ parts, FileName part := fun part listed =>
        named.of_find? wellFormed found part (List.mem_append_right _ listed)
      refine ⟨parts, bytes, some, names, rfl, schema, shallow, ?_, found⟩
      change tree.reach (tree.start base) (base.parts ++ parts) = _
      rw [FileTree.reach_append, FileTree.reach_of_locate located]
      exact FileTree.reach_below wellFormed names found

/-- The bytes at the end of the path of a schema. -/
def contentIn (tree : FileTree) (file : SchemaFile) : List UInt8 :=
  match tree.find? (tree.destination file.path) with
  | some (.file bytes) => bytes
  | _ => []

/-- A schema has its content. -/
theorem contentIn_of_holds {location : Location} {bytes : List UInt8}
    (holds : tree.Holds file.path location bytes) : contentIn tree file = bytes := by
  have ends : tree.destination file.path = location := FileTree.foldl_of_reach holds.reached
  rw [contentIn, ends, holds.found]

/-- A schema below a directory can be copied to any other that does not lie below it. -/
theorem sourced_of_holds {base : Path} {above : Location} {parts : List Text} {locator : Text}
    (some : parts ≠ []) (names : ∀ part ∈ parts, FileName part)
    (holds : tree.Holds ⟨base.root, base.parts ++ parts⟩ (above ++ parts)
      (content ⟨⟨base.root, base.parts ++ parts⟩, locator⟩))
    (outside : ¬ above <+: directory) :
    Sourced tree directory content ⟨⟨base.root, base.parts ++ parts⟩, locator⟩ := by
  obtain ⟨front, last, rfl⟩ : ∃ front last, parts = front ++ [last] :=
    ⟨_, _, (List.dropLast_append_getLast some).symm⟩
  have name : (⟨base.root, base.parts ++ (front ++ [last])⟩ : Path).name = last := by
    simp [Path.name, ← List.append_assoc]
  refine ⟨?_, _, holds, ?_⟩
  · dsimp only
    rw [name]
    exact names last (by simp)
  · intro other same
    rw [← List.append_assoc] at same
    obtain ⟨below, -⟩ := List.append_inj' same rfl
    exact outside ⟨front, below⟩

/-- So can all that are found below it. -/
theorem sourced_of_found {base : Path} (wellFormed : tree.WellFormed) (named : tree.Named)
    (listed : found base tree = .ok files) (outside : ¬ tree.destination base <+: directory) :
    ∀ file ∈ files, Sourced tree directory (contentIn tree) file := by
  intro file member
  obtain ⟨parts, bytes, some, names, rfl, -, -, holds⟩ :=
    mem_listing wellFormed named listed member
  exact sourced_of_holds some names ((contentIn_of_holds holds).symm ▸ holds) outside

end SchemaFile

end SchemaForge
