import SchemaForge.Proofs.ModulePlaces
import SchemaForge.Proofs.SchemaCopies
import SchemaForge.Sink

/-!
# Writing modules again

A module is written by making directories, putting markers where there are none, and writing its
file. What stands in the way of one of these stands there for good: a file in the place of a
directory, a directory in the place of a file, a name that is too long. What was missing has been
made. So doing it all again on a tree that has grown since gives the same answer, up to which path
is said to have a name that is too long, and writes the same bytes to the same files; markers are
there already and stay as they are.

`Repeats` says this of an operation together with what it changes. It is proved of each operation
and of operations one behind the other, so that nothing else need be known of the trees between.
-/

namespace SchemaForge

open FileTree (Alike Askable Changes Extends)

/-- A directory, or a file that no search for schemas lists. -/
def FileTree.Unlisted (location : Location) (node : FileNode) : Prop :=
  node = .directory ∨ SchemaFile.isSchemaPath ⟨[], location⟩ = false

/-- An operation that can be repeated: it writes to some files, none of them a schema, and on every
tree that extends what it has made it gives the same answer and writes the same once more. -/
structure FileAction.Repeats (action : FileAction Unit) (before : FileTree) (writes : Writes) :
    Prop where
  /-- It writes to files, and what is new besides is no schema. -/
  changes : Changes FileTree.Unlisted writes before (action.on before).2
  /-- None of the files is a schema. -/
  unlisted : ∀ write ∈ writes, SchemaFile.isSchemaPath ⟨[], write.1⟩ = false
  /-- On a tree that has grown it writes the same once more. -/
  again : ∀ later, (action.on before).2.Extends later →
    ∃ next, action.on later = (next, later.overwrite writes) ∧ Alike (action.on before).1 next

namespace FileAction

variable {before after later : FileTree} {path : Path} {location : Location} {writes : Writes}

/-! ## Operations one behind the other -/

/-- Nothing can be done again. -/
theorem repeats_pure (wellFormed : before.WellFormed) :
    (pure () : FileAction Unit).Repeats before [] :=
  ⟨.refl wellFormed, by simp, fun _ _ => ⟨_, rfl, .same _⟩⟩

/-- An operation that leaves the files as they are and gives the same answer later. -/
theorem repeats_of_same {action : FileAction Unit} {answer : Except FileFault Unit}
    (wellFormed : before.WellFormed) (ran : action.on before = (answer, before))
    (again : ∀ later, before.Extends later → action.on later = (answer, later)) :
    action.Repeats before [] := by
  refine ⟨?_, by simp, ?_⟩
  · rw [ran]
    exact .refl wellFormed
  · intro later growth
    rw [ran] at growth ⊢
    exact ⟨answer, again later growth, .same answer⟩

/-- One operation behind another. The second is repeated on a tree to which the first has written
again, which extends the tree all the same. -/
theorem repeats_bind {first second : FileAction Unit}
    (lead : ∃ writes, first.Repeats before writes)
    (rest : ∀ middle, first.on before = (.ok (), middle) →
      ∃ writes, second.Repeats middle writes) :
    ∃ writes, (first >>= fun _ => second).Repeats before writes := by
  have stopped {tree middle : FileTree} {fault : FileFault}
      (ran : first.on tree = (.error fault, middle)) :
      (first >>= fun _ => second).on tree = (.error fault, middle) := by
    rw [on, run_bind, ← on, ran]
  have goesOn {tree middle : FileTree} (ran : first.on tree = (.ok (), middle)) :
      (first >>= fun _ => second).on tree = second.on middle := by
    rw [on, run_bind, ← on, ran]
  obtain ⟨writes, changes, unlisted, again⟩ := lead
  cases ran : first.on before with
  | mk outcome middle =>
    rw [ran] at again changes
    cases outcome with
    | error fault =>
      refine ⟨writes, ?_, unlisted, ?_⟩
      · rw [stopped ran]
        exact changes
      · intro later growth
        rw [stopped ran] at growth ⊢
        obtain ⟨next, ranAgain, alike⟩ := again later growth
        cases alike with
        | same => exact ⟨_, stopped ranAgain, .same _⟩
        | long display other => exact ⟨_, stopped ranAgain, .long display other⟩
    | ok done =>
      obtain ⟨more, changesMore, unlistedMore, againMore⟩ := rest middle ran
      refine ⟨writes ++ more, ?_, List.forall_mem_append.mpr ⟨unlisted, unlistedMore⟩, ?_⟩
      · rw [goesOn ran]
        exact changes.trans changesMore
      · intro later growth
        rw [goesOn ran] at growth ⊢
        have longer := changesMore.growth.trans growth
        obtain ⟨next, ranAgain, alike⟩ := again later longer
        cases alike
        have grown := (changes.hasFiles.mono longer).growth
        obtain ⟨last, ranLast, alikeLast⟩ := againMore _ (growth.trans grown)
        refine ⟨last, ?_, alikeLast⟩
        rw [goesOn ranAgain, ranLast, FileTree.overwrite_append]

/-! ## Directories -/

/-- Making a directory with its parents, on a path without double dots. -/
theorem repeats_makeDirectories (wellFormed : before.WellFormed)
    (dotless : (".." : Text) ∉ path.parts) :
    ∃ writes, (makeDirectories path).Repeats before writes := by
  by_cases askable : Askable path.display
  · obtain ⟨adds, comes⟩ := FileTree.makeDirectories_made wellFormed askable
      (FileTree.dotsResolved_of_dotless before dotless)
    refine ⟨[], .of_directories adds (fun _ _ => .inl rfl), by simp, ?_⟩
    intro later growth
    exact comes.again askable adds.working growth
  · obtain ⟨fault, refused⟩ := FileTree.makeDirectories_unaskable askable
    exact ⟨[], repeats_of_same wellFormed (refused before) fun later _ => refused later⟩

end FileAction

namespace FileTree

variable {before after tree : FileTree} {path : Path} {location : Location}

/-- There is a directory at the end of a path. -/
def LeadsTo (tree : FileTree) (path : Path) (directory : Location) : Prop :=
  tree.reach (tree.start path) path.parts = .ok directory ∧
    tree.find? directory = some .directory

/-- It is still there in a tree that has grown. -/
theorem LeadsTo.grown (leads : before.LeadsTo path location) (growth : before.Extends after) :
    after.LeadsTo path location := by
  refine ⟨?_, growth.directories _ leads.2⟩
  rw [growth.start, growth.reach (by simp [leads.1]), leads.1]

/-- A walk to a name goes through a directory. -/
theorem reach_last {parts : List Text} {start : Location} {part : Text} (named : part ≠ (".." : Text))
    (reached : tree.reach start (parts ++ [part]) = .ok location) :
    ∃ directory, tree.reach start parts = .ok directory ∧
      tree.find? directory = some .directory ∧
      location = directory ++ [Utf8.canonicalName part] := by
  rw [reach_append] at reached
  cases lead : tree.reach start parts with
  | error obstacle =>
    rw [lead] at reached
    cases reached
  | ok directory =>
    rw [lead] at reached
    change tree.reach directory [part] = .ok location at reached
    rw [reach] at reached
    cases found : tree.find? directory with
    | none =>
      rw [found] at reached
      cases reached
    | some node =>
      rw [found] at reached
      cases node with
      | file bytes => cases reached
      | directory =>
        dsimp only at reached
        split at reached
        · cases reached
        · obtain rfl := Except.ok.inj reached
          refine ⟨directory, rfl, found, ?_⟩
          rw [Location.follow, if_neg named]

/-- The parent of a directory is one. -/
theorem LeadsTo.parent (leads : tree.LeadsTo path location)
    (dotless : (".." : Text) ∉ path.parts) :
    ∃ above, tree.LeadsTo path.parent above := by
  obtain nothing | ⟨parts, part, split⟩ := List.eq_nil_or_concat' path.parts
  · have same : path.parent = path := by rw [Path.parent, nothing, List.dropLast_nil, ← nothing]
    exact ⟨location, by rwa [same]⟩
  · have named : part ≠ (".." : Text) := by
      rintro rfl
      exact dotless (by simp [split])
    obtain ⟨reached, -⟩ := leads
    rw [split] at reached
    obtain ⟨directory, reached, found, -⟩ := reach_last named reached
    refine ⟨directory, ?_, found⟩
    rw [Path.parent, split, List.dropLast_concat]
    exact reached

/-- No directory is missing on the way to a file whose directory is there. -/
theorem LeadsTo.settled {directory : Location} (leads : tree.LeadsTo path.parent directory)
    {parts : List Text} {part : Text} (split : path.parts = parts ++ [part]) (display : Text) :
    tree.locate path ≠ .error (.missing display) := by
  intro missing
  by_cases askable : Askable path.display
  · obtain ⟨reached, found⟩ := leads
    rw [Path.parent, split, List.dropLast_concat] at reached
    have walked := reach_concat part reached
    rw [reach, found, ← split] at walked
    have walked : tree.reach (tree.start path) path.parts = _ := walked
    rw [locate_askable askable, walked] at missing
    dsimp only at missing
    split at missing
    · cases missing
    · cases missing
  · obtain ⟨fault, other, refused⟩ := locate_unaskable askable
    rw [refused] at missing
    exact other display (Except.error.inj missing)

/-- Where no directory is missing on the way, a path is located as before. -/
theorem Extends.locate (growth : before.Extends after)
    (settled : ∀ display, before.locate path ≠ .error (.missing display)) :
    after.locate path = before.locate path := by
  by_cases askable : Askable path.display
  · rw [locate_askable askable] at settled ⊢
    rw [locate_askable askable, growth.start, growth.reach]
    intro missing
    rw [missing] at settled
    exact settled path.display rfl
  · obtain ⟨fault, -, refused⟩ := locate_unaskable askable
    rw [refused, refused]

end FileTree

/-! ## Files -/

namespace FileAction

variable {before after later : FileTree} {path : Path} {location : Location}

/-- What comes of writing a text to a file: the answer, and the bytes of the file afterwards. A
text without bytes leaves it empty. -/
def textWritten (text : Text) : Except FileFault Unit × List UInt8 :=
  match Utf8.encode text with
  | .error reason => (.error (.unencodable reason), [])
  | .ok bytes => (.ok (), bytes)

/-- A text is written to a file that is located, if it is no directory. The file is emptied first,
and the bytes replace that. -/
theorem writeText_located {tree : FileTree} (located : tree.locate path = .ok location)
    (free : tree.find? location ≠ some .directory) (text : Text) :
    (writeText path text).on tree =
      ((textWritten text).1, tree.put location (.file (textWritten text).2)) := by
  have emptied : (write path []).on tree = (.ok (), tree.put location (.file [])) := by
    rw [write_on, located]
    dsimp only
    rw [if_neg free]
  unfold writeText textWritten
  rw [on, run_bind, ← on, emptied]
  cases Utf8.encode text with
  | error reason => rfl
  | ok bytes =>
    have below : location ≠ [] := by
      rintro rfl
      exact free rfl
    have growth := FileTree.extends_put_file below free []
    have again : (tree.put location (.file [])).locate path = .ok location := by
      rw [growth.locate (by simp [located]), located]
    change (write path bytes).on (tree.put location (.file [])) = _
    rw [write_on, again]
    dsimp only
    rw [FileTree.find?_put tree below, if_pos rfl, if_neg (by simp), FileTree.put_put]

/-- A text is not written where its file is not located, or is a directory. -/
theorem writeText_refused (path : Path) (text : Text) (tree : FileTree) :
    (∀ reason, tree.locate path = .error reason →
      (writeText path text).on tree = (.error reason, tree)) ∧
    ∀ location, tree.locate path = .ok location → tree.find? location = some .directory →
      (writeText path text).on tree = (.error (.isDirectory path.display), tree) := by
  unfold writeText
  constructor
  · intro reason failed
    rw [on, run_bind, ← on, write_on, failed]
  · intro location located taken
    rw [on, run_bind, ← on, write_on, located]
    dsimp only
    rw [if_pos taken]

/-- Writing a text to a file that is no schema, where no directory is missing on the way. -/
theorem repeats_writeText (wellFormed : before.WellFormed) {parts : List Text} {part : Text}
    (split : path.parts = parts ++ [part]) (named : part ≠ (".." : Text))
    (unlisted : ∀ directory,
      SchemaFile.isSchemaPath ⟨[], directory ++ [Utf8.canonicalName part]⟩ = false)
    (settled : ∀ display, before.locate path ≠ .error (.missing display)) (text : Text) :
    ∃ writes, (writeText path text).Repeats before writes := by
  have again {later : FileTree} (growth : before.Extends later) := growth.locate settled
  cases located : before.locate path with
  | error fault =>
    refine ⟨[], repeats_of_same wellFormed ((writeText_refused _ _ _).1 fault located) ?_⟩
    intro later growth
    exact (writeText_refused _ _ _).1 fault ((again growth).trans located)
  | ok location =>
    by_cases taken : before.find? location = some .directory
    · refine ⟨[], repeats_of_same wellFormed ((writeText_refused _ _ _).2 location located taken) ?_⟩
      intro later growth
      exact (writeText_refused _ _ _).2 location ((again growth).trans located)
        (growth.directories _ taken)
    · have reached := FileTree.reach_of_locate located
      rw [split] at reached
      obtain ⟨directory, -, found, rfl⟩ := FileTree.reach_last named reached
      have ran := writeText_located located taken text
      have written : Changes FileTree.Unlisted
          [(directory ++ [Utf8.canonicalName part], (textWritten text).2)] before _ :=
        .of_put wellFormed (by simp) (by rwa [List.dropLast_concat]) taken _
      refine ⟨_, (by rw [ran]; exact written), by simpa using unlisted directory, ?_⟩
      intro later growth
      rw [ran] at growth ⊢
      obtain ⟨others, held⟩ := growth.files (directory ++ [Utf8.canonicalName part]) _
        (by rw [FileTree.find?_put before (by simp), if_pos rfl])
      have located := (again (written.growth.trans growth)).trans located
      exact ⟨_, writeText_located located (by simp [held]) text, .same _⟩

end FileAction

/-! ## Markers -/

/-- The marker has a name. -/
theorem FileStore.fileName_marker : FileName marker := by decide +kernel

/-- It is the name of no schema. -/
theorem FileStore.isSchemaPath_marker (directory : Location) :
    SchemaFile.isSchemaPath ⟨[], directory ++ [marker]⟩ = false := by
  have named := SchemaFile.isSchemaPath_module directory "__init__"
  rwa [show ("__init__" : Text) ++ (".py" : Text) = marker from rfl, fileName_marker.canonical]
    at named

namespace FileStore

variable {before : FileTree} {path directory : Path} {location : Location}

/-- What is at the place of the marker, where the directory is there. -/
theorem locate_marker (leads : before.LeadsTo directory location) :
    (∃ fault, ∀ tree : FileTree, tree.locate (directory.join marker) = .error fault) ∨
      ∀ later, before.Extends later →
        later.locate (directory.join marker) = .ok (location ++ [marker]) := by
  by_cases askable : Askable (directory.join marker).display
  · refine .inr fun later growth => FileTree.locate_of_reach askable ?_
    obtain ⟨reached, found⟩ := leads.grown growth
    rw [SchemaFile.join_name fileName_marker]
    exact FileTree.reach_name fileName_marker reached found
  · obtain ⟨fault, -, refused⟩ := FileTree.locate_unaskable askable
    exact .inl ⟨fault, refused⟩

/-- What comes of marking a directory. -/
theorem mark_on (directory : Path) (tree : FileTree) :
    (mark directory).on tree =
      if tree.has (directory.join marker) then (.ok (), tree)
      else (FileAction.writeText (directory.join marker) []).on tree := by
  unfold mark
  rw [FileAction.on, run_bind]
  change StateT.run (ExceptT.run (if tree.has (directory.join marker) = true then _ else _)) tree = _
  split <;> rfl

/-- Marking a directory that is there. -/
theorem repeats_mark (wellFormed : before.WellFormed) (leads : before.LeadsTo directory location) :
    ∃ writes, (mark directory).Repeats before writes := by
  obtain ⟨fault, refused⟩ | located := locate_marker leads
  · have ran (tree : FileTree) : (mark directory).on tree = (.error fault, tree) := by
      rw [mark_on, FileTree.has, FileTree.nodeAt?_of_error (refused tree)]
      exact (FileAction.writeText_refused _ _ _).1 fault (refused tree)
    exact ⟨[], FileAction.repeats_of_same wellFormed (ran before) fun later _ => ran later⟩
  · have marked {later : FileTree} (growth : before.Extends later)
        (held : later.find? (location ++ [marker]) ≠ none) :
        (mark directory).on later = (.ok (), later) := by
      rw [mark_on, FileTree.has, FileTree.nodeAt?_of_ok (located later growth),
        if_pos (Option.isSome_iff_ne_none.mpr held)]
    cases found : before.find? (location ++ [marker]) with
    | some node =>
      refine ⟨[], FileAction.repeats_of_same wellFormed (marked (.refl before) (by simp [found])) ?_⟩
      intro later growth
      refine marked growth ?_
      cases node with
      | file bytes =>
        obtain ⟨others, held⟩ := growth.files _ _ found
        simp [held]
      | directory => simp [growth.directories _ found]
    | none =>
      have here := located before (.refl before)
      have ran : (mark directory).on before =
          (.ok (), before.put (location ++ [marker]) (.file [])) := by
        rw [mark_on, FileTree.has, FileTree.nodeAt?_of_ok here, found, if_neg (by simp)]
        exact FileAction.writeText_located here (by simp [found]) []
      have changes : Changes FileTree.Unlisted [] before
          (before.put (location ++ [marker]) (.file [])) :=
        .of_new wellFormed (by simp) (by rw [List.dropLast_concat, leads.2]) found
          (.inr (isSchemaPath_marker location))
      refine ⟨[], (by rw [ran]; exact changes), by simp, ?_⟩
      intro later growth
      rw [ran] at growth ⊢
      obtain ⟨others, held⟩ := growth.files (location ++ [marker]) []
        (by rw [FileTree.find?_put before (by simp), if_pos rfl])
      exact ⟨_, marked (changes.growth.trans growth) (by simp [held]), .same _⟩

/-- Marking a directory that is there and its parents up to the root. By induction on how many
parents are looked at. -/
theorem repeats_markUpwards (root : Path) (wellFormed : before.WellFormed)
    (leads : ∃ location, before.LeadsTo directory location)
    (dotless : (".." : Text) ∉ directory.parts) (bound : Nat) :
    ∃ writes, (markUpwards root bound directory).Repeats before writes := by
  induction bound generalizing before directory with
  | zero => exact ⟨[], FileAction.repeats_pure wellFormed⟩
  | succ bound inductionHypothesis =>
    obtain ⟨location, leads⟩ := leads
    rw [markUpwards]
    split
    · have first := repeats_mark wellFormed leads
      refine FileAction.repeats_bind first ?_
      intro middle ran
      obtain ⟨writes, changes, -, -⟩ := first
      rw [ran] at changes
      obtain ⟨above, leadsAbove⟩ := leads.parent dotless
      refine inductionHypothesis changes.wellFormed ⟨above, leadsAbove.grown changes.growth⟩ ?_
      exact fun member => dotless (List.dropLast_subset _ member)
    · exact ⟨[], FileAction.repeats_pure wellFormed⟩

/-- Writing a module: its directory, the markers and its file. -/
theorem repeats_writeModule (root : Path) (wellFormed : before.WellFormed)
    (dotless : (".." : Text) ∉ path.parts) {above : List Text} {last : Text}
    (split : path.parts = above ++ [last ++ (".py" : Text)]) (text : Text) :
    ∃ writes, (writeModule root path text).Repeats before writes := by
  have upper : path.parent.parts = above := by rw [Path.parent, split, List.dropLast_concat]
  have dotlessAbove : (".." : Text) ∉ path.parent.parts :=
    fun member => dotless (List.dropLast_subset _ member)
  have named : last ++ (".py" : Text) ≠ (".." : Text) := by
    intro same
    exact dotless (by simp [split, same])
  have first := FileAction.repeats_makeDirectories wellFormed dotlessAbove
  refine FileAction.repeats_bind first ?_
  intro middle ran
  obtain ⟨-, adds, reached, found⟩ := FileTree.makeDirectories_ok wellFormed
    (FileTree.dotsResolved_of_dotless before dotlessAbove) ran
  have leads : middle.LeadsTo path.parent (before.destination path.parent) :=
    ⟨adds.growth.start path.parent ▸ reached, found⟩
  have second := repeats_markUpwards root adds.wellFormed ⟨_, leads⟩ dotlessAbove
    path.parent.parts.length
  refine FileAction.repeats_bind second ?_
  intro after ranMarks
  obtain ⟨writes, changes, -, -⟩ := second
  rw [ranMarks] at changes
  refine FileAction.repeats_writeText changes.wellFormed split named
    (fun directory => SchemaFile.isSchemaPath_module directory last) ?_ text
  exact (leads.grown changes.growth).settled split

end FileStore

end SchemaForge
