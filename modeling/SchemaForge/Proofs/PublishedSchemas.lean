import SchemaForge.Proofs.SchemaCopies

/-!
# Schemas that come back

What one build hands on another reads back. The schemas of a source directory lie at any depth,
and they are copied flat; so of those with one base name the last one stays, and what comes back
is one schema for each base name, in the order of the names.

It is asked that the directory they are handed on in is not there before, and that the root is
neither the source directory nor below it. Where the root has double dots, these must come behind
directories that are there: otherwise making the directories on the way changes where the root
leads, and the place that was looked at is not the place that is written to.
-/

namespace SchemaForge

/-- The file system says that there is nothing at a path. -/
def FileTree.Absent (tree : FileTree) (path : Path) : Prop :=
  tree.isDirectory path = .ok false ∧ tree.has path = false

/-- Whether it says so can be decided. -/
instance (tree : FileTree) (path : Path) : Decidable (tree.Absent path) :=
  inferInstanceAs (Decidable (_ ∧ _))

namespace SchemaFile

open FileTree (Askable Changes DotsResolved)

variable {tree before after : FileTree} {root : Path} {files : List SchemaFile}
  {directory : Location} {content : SchemaFile → List UInt8} {source : Path}

/-! ## The exchange directory -/

/-- The exchange directory has a name. -/
theorem fileName_exchangeDirectory : FileName exchangeDirectory :=
  ⟨by decide, by decide, by decide, by decide, by decide +kernel, by decide +kernel⟩

/-- The exchange directory is one part below its root. -/
theorem exchange_eq (root : Path) : exchange root = ⟨root.root, root.parts ++ [exchangeDirectory]⟩ :=
  join_name fileName_exchangeDirectory root

/-- It lies in the directory that the root leads to. -/
theorem destination_exchange (tree : FileTree) (root : Path) :
    tree.destination (exchange root) = tree.destination root ++ [exchangeDirectory] := by
  rw [exchange_eq, FileTree.destination, List.foldl_concat, Location.follow,
    if_neg fileName_exchangeDirectory.noDots, fileName_exchangeDirectory.canonical]
  rfl

/-- Its double dots are those of the root. -/
theorem dotsResolved_exchange (dots : tree.DotsResolved root) :
    tree.DotsResolved (exchange root) := by
  rw [exchange_eq]
  intro front back split
  dsimp only at split
  obtain rfl | ⟨back, last, rfl⟩ := List.eq_nil_or_concat' back
  · obtain ⟨-, same⟩ := List.append_inj' split rfl
    exact absurd (List.cons.inj same).1 fileName_exchangeDirectory.noDots
  · rw [← List.cons_append, ← List.append_assoc] at split
    obtain ⟨above, -⟩ := List.append_inj' split rfl
    exact dots front back above

/-- If the exchange directory is not there and can be made, there is nothing in its place. -/
theorem find?_exchange (wellFormed : before.WellFormed) (dots : before.DotsResolved root)
    (absent : before.Absent (exchange root)) (growth : before.Extends after)
    (askable : Askable (exchange root).display)
    (reached : after.reach (before.start (exchange root)) (exchange root).parts =
      .ok (before.destination (exchange root))) :
    before.find? (before.destination (exchange root)) = none := by
  have located := FileTree.locate_askable askable before
  cases walked : before.reach (before.start (exchange root)) (exchange root).parts with
  | ok location =>
    have ends : before.destination (exchange root) = location := FileTree.foldl_of_reach walked
    rw [walked] at located
    have located : before.locate (exchange root) = .ok location := located
    have nothing := absent.2
    rw [FileTree.has, FileTree.nodeAt?_of_ok located, Option.isSome_eq_false_iff,
      Option.isNone_iff_eq_none] at nothing
    rw [ends, nothing]
  | error obstacle =>
    cases obstacle with
    | missing =>
      have none := FileTree.find?_of_missing wellFormed (dotsResolved_exchange dots)
        (by rwa [List.take_length])
      rwa [FileTree.upTo_length] at none
    | notDirectory | tooLong =>
      rw [growth.reach (by simp [walked]), walked] at reached
      cases reached

/-! ## What is found in it -/

/-- A schema that a root hands on under a name. -/
def handedOn (root : Path) (name : Text) : SchemaFile :=
  ⟨⟨(exchange root).root, (exchange root).parts ++ [name]⟩, exchangeDirectory ++ "/" ++ name⟩

/-- Of copies with one name the last one counts. -/
theorem last?_copies (directory : Location) (content : SchemaFile → List UInt8)
    (files : List SchemaFile) (name : Text) :
    Writes.last? (copies directory content files) (directory ++ [name]) =
      (files.reverse.find? (fun file => decide (file.path.name = name))).map content := by
  induction files with
  | nil => rfl
  | cons file files inductionHypothesis =>
    rw [copies, List.map_cons, ← copies, Writes.last?, inductionHypothesis, List.reverse_cons,
      List.find?_append]
    cases files.reverse.find? (fun file => decide (file.path.name = name)) with
    | some last => rfl
    | none =>
      by_cases here : file.path.name = name <;> simp [copied, here]

/-- Files with a name are there exactly if they have been copied. -/
theorem find?_copies (changes : Changes (OnTheWay directory) (copies directory content files)
      before after)
    (wellFormed : before.WellFormed) (free : before.find? directory = none) (name : Text) :
    (∃ bytes, after.find? (directory ++ [name]) = some (.file bytes)) ↔
      ∃ file ∈ files, file.path.name = name := by
  have listed := last?_copies directory content files name
  constructor
  · rintro ⟨bytes, found⟩
    cases last : files.reverse.find? (fun file => decide (file.path.name = name)) with
    | some file =>
      have here : file.path.name = name := by simpa using List.find?_some last
      exact ⟨file, List.mem_reverse.mp (List.mem_of_find?_eq_some last), here⟩
    | none =>
      rw [last] at listed
      obtain same | ⟨-, node, new, isDirectory, -⟩ := changes.elsewhere _ listed
      · rw [same] at found
        have above := wellFormed.find?_above found (List.cons_ne_nil _ _)
        rw [free] at above
        cases above
      · rw [new] at found
        cases found
        cases isDirectory
  · rintro ⟨file, member, here⟩
    obtain ⟨last, found⟩ : ∃ last,
        files.reverse.find? (fun file => decide (file.path.name = name)) = some last :=
      Option.isSome_iff_exists.mp
        (List.find?_isSome.mpr ⟨file, List.mem_reverse.mpr member, decide_eq_true here⟩)
    rw [found] at listed
    exact ⟨content last, (changes.written _ _ listed).1⟩

/-- The schemas of a listing that goes no deeper than the directory, by their names. -/
theorem below_names (wellFormed : tree.WellFormed) {base : Path} {location : Location}
    (located : tree.locate base = .ok location) :
    ∃ names : List Text, below tree base (some 1) = names.map (fun name => [name]) ∧
      names.Pairwise Text.Before ∧
      ∀ name, name ∈ names ↔ (∃ bytes, tree.find? (location ++ [name]) = some (.file bytes)) ∧
        isSchemaPath ⟨[], [name]⟩ = true := by
  have single : ∀ parts ∈ below tree base (some 1), ∃ name, parts = [name] := by
    intro parts member
    obtain ⟨⟨some, -⟩, -, shallow⟩ := (mem_below wellFormed located).mp member
    have shallow : parts.length ≤ 1 := by simpa using shallow
    exact List.length_eq_one_iff.mp (Nat.le_antisymm shallow (List.length_pos_iff.mpr some))
  have whole : below tree base (some 1) =
      ((below tree base (some 1)).map (fun parts => parts.headD [])).map (fun name => [name]) := by
    rw [List.map_map]
    refine ((List.map_congr_left ?_).trans (List.map_id _)).symm
    intro parts member
    obtain ⟨name, rfl⟩ := single parts member
    rfl
  generalize (below tree base (some 1)).map (fun parts => parts.headD []) = names at whole
  refine ⟨names, whole, ?_, ?_⟩
  · have sorted := below_sorted tree base (some 1)
    have distinct := below_nodup wellFormed base (some 1)
    rw [whole, List.Nodup, List.pairwise_map] at distinct
    rw [whole, List.pairwise_map] at sorted
    refine (sorted.and distinct).imp ?_
    rintro name other ⟨ordered, apart⟩
    have apart : name ≠ other := fun same => apart (by rw [same])
    rw [Path.partsLe, if_neg apart, Text.le_iff] at ordered
    obtain before | same | after := Text.Before.trichotomy name other
    · exact before
    · exact absurd same apart
    · exact absurd after ordered
  · intro name
    have listed : [name] ∈ below tree base (some 1) ↔ name ∈ names := by
      rw [whole]
      simp
    rw [← listed, mem_below wellFormed located]
    simp

/-! ## Coming back -/

/-- The schemas of a source directory come back from a root under their base names. -/
structure ComesBack (root : Path) (files : List SchemaFile) (names : List Text)
    (before after : FileTree) : Prop where
  /-- The names increase, so that none is there twice. -/
  ordered : names.Pairwise Text.Before
  /-- They are the base names of the schemas. -/
  baseNames : ∀ name, name ∈ names ↔ ∃ file ∈ files, file.path.name = name
  /-- Of the schemas with one base name the last is the one that comes back. -/
  last : ∀ front file back, files = front ++ file :: back →
    (∀ other ∈ back, other.path.name ≠ file.path.name) →
    ∃ bytes, before.read file.path = .ok bytes ∧
      after.read (handedOn root file.path.name).path = .ok bytes

/-- If no two schemas have one base name, each comes back as it is. -/
theorem ComesBack.all {names : List Text} (comes : ComesBack root files names before after)
    (distinct : (files.map (fun file => file.path.name)).Nodup) :
    ∀ file ∈ files, file.path.name ∈ names ∧
      after.read (handedOn root file.path.name).path = before.read file.path := by
  intro file member
  refine ⟨(comes.baseNames _).mpr ⟨file, member, rfl⟩, ?_⟩
  obtain ⟨front, back, rfl⟩ := List.append_of_mem member
  rw [List.map_append, List.map_cons] at distinct
  have apart := (List.nodup_cons.mp (List.nodup_append.mp distinct).2.1).1
  obtain ⟨bytes, read, readBack⟩ := comes.last front file back rfl fun other listed same =>
    apart (List.mem_map.mpr ⟨other, listed, same⟩)
  rw [read, readBack]

/-- A schema that is found has the suffix of one under its base name alone. -/
theorem isSchemaPath_name {parts : List Text} {base : Path} (some : parts ≠ []) :
    isSchemaPath ⟨[], [(⟨base.root, base.parts ++ parts⟩ : Path).name]⟩ =
      isSchemaPath ⟨[], parts⟩ := by
  obtain ⟨front, last, rfl⟩ : ∃ front last, parts = front ++ [last] :=
    ⟨_, _, (List.dropLast_append_getLast some).symm⟩
  simp [isSchemaPath, Path.suffix, Path.name, ← List.append_assoc]

/-- The schemas that have been copied to a place where there was nothing come back. -/
theorem comesBack (wellFormed : before.WellFormed) (named : before.Named)
    (listed : found source before = .ok files)
    (sourced : ∀ file ∈ files, Sourced before directory (contentIn before) file)
    (known : ∀ file ∈ files, Known (exchange root) file)
    (free : before.find? directory = none)
    (changes : Changes (OnTheWay directory) (copies directory (contentIn before) files) before
      after)
    (reached : after.reach (after.start (exchange root)) (exchange root).parts = .ok directory)
    (located : after.locate (exchange root) = .ok directory) :
    ∃ names, below after (exchange root) (some 1) = names.map (fun name => [name]) ∧
      ComesBack root files names before after := by
  obtain ⟨names, split, ordered, member⟩ := below_names changes.wellFormed located
  refine ⟨names, split, ordered, ?_, ?_⟩
  · intro name
    rw [member, find?_copies changes wellFormed free]
    refine ⟨And.left, fun copied => ⟨copied, ?_⟩⟩
    obtain ⟨file, inside, rfl⟩ := copied
    obtain ⟨parts, -, some, -, rfl, schema, -, -⟩ := mem_listing wellFormed named listed inside
    rw [isSchemaPath_name some, schema]
  · rintro front file back rfl latest
    have inside : file ∈ front ++ file :: back := by simp
    obtain ⟨askable, askableSource⟩ := known file inside
    obtain ⟨isName, location, holds, -⟩ := sourced file inside
    refine ⟨contentIn before file, holds.read askableSource, ?_⟩
    have written : Writes.last? (copies directory (contentIn before) (front ++ file :: back))
        (directory ++ [file.path.name]) = some (contentIn before file) := by
      have none : back.reverse.find? (fun other => decide (other.path.name = file.path.name)) =
          none := by
        rw [List.find?_eq_none]
        intro other listed
        simpa using latest other (List.mem_reverse.mp listed)
      rw [last?_copies, List.reverse_append, List.reverse_cons, List.find?_append,
        List.find?_append, none]
      simp
    have copy : after.Holds (copyOf (exchange root) file) (directory ++ [file.path.name])
        (contentIn before file) := by
      refine ⟨?_, (changes.written _ _ written).1⟩
      rw [copyOf, join_name isName]
      have parent := changes.wellFormed.find?_dropLast (changes.written _ _ written).1
      rw [List.dropLast_concat] at parent
      exact FileTree.reach_name isName reached parent
    have read := copy.read askable
    rwa [copyOf, join_name isName] at read

/-- A directory at the end of a path is what a question is answered with. -/
theorem isDirectory_of_locate {path : Path} {location : Location}
    (located : tree.locate path = .ok location) :
    tree.isDirectory path = .ok (decide (tree.find? location = some .directory)) := by
  unfold FileTree.isDirectory FileTree.hasDirectory
  rw [located, FileTree.nodeAt?_of_ok located]

/-- Only a directory has schemas below it. -/
theorem directory_of_found (listed : found source tree = .ok files) (some : files ≠ []) :
    tree.isDirectory source = .ok true := by
  unfold found listing at listed
  cases answer : tree.isDirectory source with
  | error fault =>
    rw [answer] at listed
    cases listed
  | ok isDirectory =>
    rw [answer] at listed
    cases isDirectory with
    | false => exact absurd (Except.ok.inj listed).symm some
    | true => rfl

/-- If anything is copied, the directory has been made. -/
theorem made_of_copyAll {destination : Path} (some : files ≠ [])
    (ran : (copyAll destination files).on before = (.ok (), after)) :
    ∃ middle, (FileAction.makeDirectories destination).on before = (.ok (), middle) := by
  obtain ⟨file, others, rfl⟩ := List.exists_cons_of_ne_nil some
  change StateT.run ((FileAction.makeDirectories destination >>= fun _ =>
    FileAction.copy file.path (copyOf destination file)) >>= fun _ =>
      copyAll destination others).run before = _ at ran
  rw [run_bind, run_bind] at ran
  unfold FileAction.on
  generalize StateT.run (FileAction.makeDirectories destination).run before = made at ran ⊢
  obtain ⟨outcome, middle⟩ := made
  cases outcome with
  | error fault => cases ran
  | ok done => exact ⟨middle, rfl⟩

/-- Copies into a directory that is neither a directory of schemas nor below it leave everything
there as it is. -/
theorem unchanged_below {top location : Location}
    (changes : Changes (OnTheWay directory) (copies directory content files) before after)
    (wellFormed : before.WellFormed) (free : before.find? directory = none)
    (isDirectory : before.find? top = some .directory) (outside : ¬ top <+: directory)
    (below : top <+: location) : after.find? location = before.find? location := by
  have unwritten : Writes.last? (copies directory content files) location = none := by
    refine Writes.last?_eq_none.mpr ?_
    intro write member here
    obtain ⟨file, -, rfl⟩ := List.mem_map.mp member
    have here : directory ++ [file.path.name] = location := here
    rw [← here] at below
    obtain same | shorter := List.prefix_concat_iff.mp below
    · rw [same] at isDirectory
      have above := wellFormed.find?_above isDirectory (List.cons_ne_nil _ _)
      rw [free] at above
      cases above
    · exact outside shorter
  obtain same | ⟨-, node, -, -, way⟩ := changes.elsewhere location unwritten
  · exact same
  · exact absurd (below.trans way) outside

/-- What a search of a root gives, by the names in its exchange directory. -/
theorem foundPublished_names {root : Text} {names : List Text} {location : Location}
    (located : tree.locate (exchange (Path.ofText root)) = .ok location)
    (isDirectory : tree.find? location = some .directory)
    (split : below tree (exchange (Path.ofText root)) (some 1) = names.map (fun name => [name])) :
    foundPublished root tree = .ok (names.map (handedOn (Path.ofText root))) := by
  unfold foundPublished listing
  rw [isDirectory_of_locate located, isDirectory, split]
  simp only [Except.map, decide_true, ↓reduceIte, List.map_map]
  rfl

/-- A search of the root that has an answer. -/
theorem findPublished_single {root : Text} {published : List SchemaFile}
    (answer : foundPublished root tree = .ok published) (log : List LogEvent) :
    (findPublished [root]).Gives ⟨tree, log⟩ (.ok published) tree := by
  have given := findPublished_gives [root] ⟨tree, log⟩
  simpa [foundPublishedAll, answer, Except.map, Except.mapError] using given

/-- Schemas that are handed on come back. The search of the root lists one schema for each base
name among those of the source directory, in increasing order, and it has the bytes of the last
one with that name; if no two have one base name, none is lost or altered. The answer lists one
copy for each schema of the source directory, and nothing below the source directory changes. -/
theorem publish_comesBack {source : Path} {root : Text} {workspace : Workspace}
    {written : List Path} {after : FileTree} (wellFormed : workspace.tree.WellFormed)
    (named : workspace.tree.Named)
    (outside : ¬ workspace.tree.destination source <+:
      workspace.tree.destination (Path.ofText root))
    (dots : workspace.tree.DotsResolved (Path.ofText root))
    (absent : workspace.tree.Absent ((Path.ofText root).join exchangeDirectory))
    (gives : (publish source (Path.ofText root)).Gives workspace (.ok written) after) :
    ∃ files names, (find source).Gives workspace (.ok files) workspace.tree ∧
      written = files.map (fun file =>
        ((Path.ofText root).join exchangeDirectory).join file.path.name) ∧
      (∀ log, (findPublished [root]).Gives ⟨after, log⟩
        (.ok (names.map (handedOn (Path.ofText root)))) after) ∧
      ComesBack (Path.ofText root) files names workspace.tree after ∧
      ((files.map (fun file => file.path.name)).Nodup → ∀ file ∈ files, file.path.name ∈ names ∧
        after.read (handedOn (Path.ofText root) file.path.name).path =
          workspace.tree.read file.path) ∧
      ∀ location, workspace.tree.destination source <+: location →
        after.find? location = workspace.tree.find? location := by
  obtain ⟨files, listed, rfl, ran⟩ := publish_ok gives
  have searched := find_gives source workspace
  rw [listed] at searched
  by_cases nothing : files = []
  · subst nothing
    obtain ⟨-, rfl⟩ := Prod.mk.inj ran
    have comes : ComesBack (Path.ofText root) [] [] workspace.tree workspace.tree :=
      ⟨.nil, by simp, fun front file back split => absurd split (by simp)⟩
    have answer : foundPublished root workspace.tree = .ok [] := by
      have answered : workspace.tree.isDirectory (exchange (Path.ofText root)) = .ok false :=
        absent.1
      rw [foundPublished, listing, answered]
      rfl
    exact ⟨[], [], searched, rfl, findPublished_single answer, comes, comes.all, fun _ _ => rfl⟩
  · obtain ⟨located, isDirectory⟩ := directory_of_answer (directory_of_found listed nothing)
    obtain ⟨middle, made⟩ := made_of_copyAll nothing ran
    obtain ⟨askable, adds, reached, -⟩ :=
      FileTree.makeDirectories_ok wellFormed (dotsResolved_exchange dots) made
    have free := find?_exchange wellFormed dots absent adds.growth askable reached
    have apart : ¬ workspace.tree.destination source <+:
        workspace.tree.destination (exchange (Path.ofText root)) := by
      rw [destination_exchange] at free ⊢
      rw [List.prefix_concat_iff]
      rintro (same | below)
      · rw [← same, isDirectory] at free
        cases free
      · exact outside below
    have sourced := sourced_of_found wellFormed named listed apart
    obtain ⟨known, changes, there⟩ :=
      copyAll_ok wellFormed (dotsResolved_exchange dots) rfl sourced ran
    obtain ⟨reached, found⟩ := there nothing
    rw [← changes.growth.start] at reached
    have located := FileTree.locate_of_reach askable reached
    obtain ⟨names, split, comes⟩ :=
      comesBack wellFormed named listed sourced known free changes reached located
    refine ⟨files, names, searched, rfl,
      findPublished_single (foundPublished_names located found split), comes, comes.all, ?_⟩
    intro location below
    exact unchanged_below changes wellFormed free isDirectory apart below

/-- Schemas at two depths, two of them with one base name. -/
def nestedTree : FileTree :=
  ⟨[(["w"], .directory), (["w", "s"], .directory), (["w", "s", "a.graphql"], .file [1]),
    (["w", "s", "b.graphqls"], .file [2]), (["w", "s", "n"], .directory),
    (["w", "s", "n", "a.graphql"], .file [3])], ["w"]⟩

/-- The schemas of that tree. -/
def nestedFiles : List SchemaFile :=
  [⟨Path.ofText "s/a.graphql", "a.graphql"⟩, ⟨Path.ofText "s/b.graphqls", "b.graphqls"⟩,
    ⟨Path.ofText "s/n/a.graphql", "n/a.graphql"⟩]

/-- They come back from a root that is made on the way; of the two with one base name it is the
last one. -/
theorem publish_comesBack_nested :
    ∃ after, ∃ names : List Text,
      (find (Path.ofText "s")).Gives ⟨nestedTree, []⟩ (.ok nestedFiles) nestedTree ∧
      (publish (Path.ofText "s") (Path.ofText "r/t")).Gives ⟨nestedTree, []⟩
        (.ok (nestedFiles.map (copyOf (exchange (Path.ofText "r/t"))))) after ∧
      (∀ log, (findPublished ["r/t"]).Gives ⟨after, log⟩
        (.ok (names.map (handedOn (Path.ofText "r/t")))) after) ∧
      ComesBack (Path.ofText "r/t") nestedFiles names nestedTree after ∧
      after.read (handedOn (Path.ofText "r/t") "a.graphql").path = .ok [3] := by
  have listed : found (Path.ofText "s") nestedTree = .ok nestedFiles := by
    have located : nestedTree.locate (Path.ofText "s") = .ok ["w", "s"] := by decide +kernel
    unfold found listing
    rw [below_of_sorted located (by decide +kernel)]
    decide +kernel
  have copied : (copyAll (exchange (Path.ofText "r/t")) nestedFiles).on nestedTree =
      (.ok (), ((copyAll (exchange (Path.ofText "r/t")) nestedFiles).on nestedTree).2) := by
    decide +kernel
  have gives : (publish (Path.ofText "s") (Path.ofText "r/t")).Gives ⟨nestedTree, []⟩ _ _ :=
    publish_done listed copied
  obtain ⟨files, names, searched, -, back, comes, -, -⟩ := publish_comesBack
    (show nestedTree.WellFormed by decide +kernel) (by decide +kernel) (by decide +kernel)
    (FileTree.dotsResolved_of_dotless _ (by decide +kernel)) (by decide +kernel) gives
  have given := find_gives (Path.ofText "s") ⟨nestedTree, []⟩
  dsimp only at given searched
  rw [listed] at given
  obtain ⟨same, -⟩ := searched.unique given
  obtain rfl := Except.ok.inj same
  obtain ⟨bytes, read, readBack⟩ := comes.last _ _ [] (show nestedFiles = [_, _] ++ [_] from rfl)
    (by simp)
  have third : nestedTree.read (Path.ofText "s/n/a.graphql") = .ok [3] := by decide +kernel
  rw [third] at read
  obtain rfl := Except.ok.inj read
  exact ⟨_, names, given, gives, back, comes, readBack⟩

/-- A directory at the place where a root with a double dot leads once all of it is made. -/
def dottedTree : FileTree :=
  ⟨[(["w"], .directory), (["w", "s"], .directory), (["w", "s", "b.graphql"], .file []),
    (["w", "t"], .directory), (["w", "t", "graphql-apigen-schema"], .directory),
    (["w", "t", "graphql-apigen-schema", "a.graphql"], .file [])], ["w"]⟩

/-- The tree when the schema has been handed on. -/
def dottedTreeAfter : FileTree :=
  (dottedTree.put ["w", "x"] .directory).put ["w", "t", "graphql-apigen-schema", "b.graphql"]
    (.file [])

/-- The file system says that there is no exchange directory, one schema is handed on, and two
come back. -/
theorem dottedRoot_comesBackMore :
    dottedTree.WellFormed ∧ dottedTree.Named ∧
      dottedTree.Absent ((Path.ofText "x/../t").join exchangeDirectory) ∧
      ¬ dottedTree.destination (Path.ofText "s") <+:
        dottedTree.destination (Path.ofText "x/../t") ∧
      (find (Path.ofText "s")).Gives ⟨dottedTree, []⟩
        (.ok [⟨Path.ofText "s/b.graphql", "b.graphql"⟩]) dottedTree ∧
      (publish (Path.ofText "s") (Path.ofText "x/../t")).Gives ⟨dottedTree, []⟩
        (.ok [Path.ofText "x/../t/graphql-apigen-schema/b.graphql"]) dottedTreeAfter ∧
      (findPublished ["x/../t"]).Gives ⟨dottedTreeAfter, []⟩
        (.ok ([("a.graphql" : Text), "b.graphql"].map (handedOn (Path.ofText "x/../t"))))
        dottedTreeAfter := by
  have listed : found (Path.ofText "s") dottedTree =
      .ok [⟨Path.ofText "s/b.graphql", "b.graphql"⟩] := by
    have located : dottedTree.locate (Path.ofText "s") = .ok ["w", "s"] := by decide +kernel
    unfold found listing
    rw [below_of_sorted located (by decide +kernel)]
    decide +kernel
  have published : foundPublished "x/../t" dottedTreeAfter =
      .ok ([("a.graphql" : Text), "b.graphql"].map (handedOn (Path.ofText "x/../t"))) := by
    have located : dottedTreeAfter.locate (exchange (Path.ofText "x/../t")) =
        .ok ["w", "t", "graphql-apigen-schema"] := by decide +kernel
    unfold foundPublished listing
    rw [below_of_sorted located (by decide +kernel)]
    decide +kernel
  have copied : (copyAll (exchange (Path.ofText "x/../t"))
      [⟨Path.ofText "s/b.graphql", "b.graphql"⟩]).on dottedTree = (.ok (), dottedTreeAfter) := by
    decide +kernel
  have gives : (publish (Path.ofText "s") (Path.ofText "x/../t")).Gives ⟨dottedTree, []⟩ _ _ :=
    publish_done listed copied
  refine ⟨by decide +kernel, by decide +kernel, by decide +kernel, by decide +kernel, ?_, gives,
    findPublished_single published []⟩
  have given := find_gives (Path.ofText "s") ⟨dottedTree, []⟩
  dsimp only at given
  rwa [listed] at given

end SchemaFile

end SchemaForge
