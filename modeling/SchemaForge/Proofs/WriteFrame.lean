import SchemaForge.Proofs.FileDelivery
import SchemaForge.Proofs.RepeatedWrites

/-!
# What writing a module touches

Writing the module of a type makes the directories on the way to its file, puts an empty marker
into each of them that lies below the root and has none, and writes the file. Nothing else
changes: whatever was there before stays as it is, the file itself apart.

The directories below the root are told by the spelling of the path alone. So a path that goes up
again by double dots marks the directory it goes up to, which may be the root. A path without
double dots below the root leads further down with every part, and no marker is put into the root
or above.

`Adds` says of an operation that it only makes what is new, whether it succeeds or not, and what
is there if it succeeds. Nothing is asked of double dots.
-/

namespace SchemaForge

open FileTree (Askable Changes Extends LeadsTo)

/-! ## Trees that have grown -/

namespace FileTree

variable {tree before after : FileTree} {path : Path} {location : Location}

/-- A path leads to the same place in a tree that has grown. -/
theorem Extends.destination (growth : before.Extends after) (path : Path) :
    after.destination path = before.destination path := by
  rw [FileTree.destination, growth.start]
  rfl

/-- What a path leads to is where it is meant to lead. -/
theorem LeadsTo.eq_destination (leads : tree.LeadsTo path location) :
    location = tree.destination path := (foldl_of_reach leads.1).symm

/-- On the way to a directory there are directories. -/
theorem LeadsTo.upTo (leads : tree.LeadsTo path location) (count : Nat) :
    tree.LeadsTo (path.upTo count) (tree.destination (path.upTo count)) := by
  obtain ⟨reached, found⟩ := leads
  have split : path.parts = path.parts.take count ++ path.parts.drop count :=
    (List.take_append_drop count path.parts).symm
  rw [split, reach_append] at reached
  cases lead : tree.reach (tree.start path) (path.parts.take count) with
  | error obstacle =>
    rw [lead] at reached
    cases reached
  | ok middle =>
    rw [lead] at reached
    have reached : tree.reach middle (path.parts.drop count) = .ok location := reached
    have ends : tree.destination (path.upTo count) = middle := foldl_of_reach lead
    rw [ends]
    refine ⟨lead, ?_⟩
    cases rest : path.parts.drop count with
    | nil =>
      rw [rest] at reached
      obtain rfl := Except.ok.inj reached
      exact found
    | cons part parts =>
      rw [rest, reach] at reached
      split at reached
      · cases reached
      · cases reached
      · next directory => exact directory

/-- There is a directory at a path exactly if the path can be asked about and leads to one. -/
theorem hasDirectory_iff : tree.hasDirectory path = true ↔
    Askable path.display ∧ tree.LeadsTo path (tree.destination path) := by
  constructor
  · intro found
    obtain ⟨location, reached, directory⟩ := reach_of_hasDirectory found
    have leads : tree.LeadsTo path location := ⟨reached, directory⟩
    refine ⟨?_, by rwa [leads.eq_destination] at leads⟩
    by_contra unaskable
    obtain ⟨fault, -, refused⟩ := locate_unaskable unaskable
    rw [hasDirectory, nodeAt?_of_error (refused tree)] at found
    cases found
  · rintro ⟨askable, leads⟩
    have located : tree.locate path = .ok (tree.destination path) := by
      rw [locate_askable askable, leads.1]
      rfl
    exact decide_eq_true ((nodeAt?_of_ok located).trans leads.2)

/-- The first parts of a path to a directory are one too. -/
theorem hasDirectory_upTo (found : tree.hasDirectory path = true) (count : Nat) :
    tree.hasDirectory (path.upTo count) = true := by
  obtain ⟨askable, leads⟩ := hasDirectory_iff.mp found
  exact hasDirectory_iff.mpr ⟨askable.upTo count, leads.upTo count⟩

/-- A directory is still there in a tree that has grown. -/
theorem Extends.hasDirectory (growth : before.Extends after)
    (found : before.hasDirectory path = true) : after.hasDirectory path = true := by
  obtain ⟨askable, leads⟩ := hasDirectory_iff.mp found
  rw [hasDirectory_iff, growth.destination]
  exact ⟨askable, leads.grown growth⟩

/-- What is at a path is still there in a tree that has grown. -/
theorem Extends.has (growth : before.Extends after) (held : before.has path = true) :
    after.has path = true := by
  unfold FileTree.has at held ⊢
  cases located : before.locate path with
  | error fault =>
    rw [nodeAt?_of_error located] at held
    cases held
  | ok location =>
    have again : after.locate path = .ok location := by
      rw [growth.locate (by simp [located]), located]
    rw [nodeAt?_of_ok located] at held
    rw [nodeAt?_of_ok again]
    obtain ⟨node, found⟩ := Option.isSome_iff_exists.mp held
    cases node with
    | directory => simp [growth.directories _ found]
    | file bytes =>
      obtain ⟨others, still⟩ := growth.files _ _ found
      simp [still]

/-- Where a path is located and there is no directory, there is one around. -/
theorem WellFormed.parent_of_locate (wellFormed : tree.WellFormed)
    (located : tree.locate path = .ok location) (free : tree.find? location ≠ some .directory) :
    location ≠ [] ∧ tree.find? location.dropLast = some .directory := by
  have below : location ≠ [] := by
    rintro rfl
    exact free rfl
  refine ⟨below, ?_⟩
  cases found : tree.find? location with
  | some node => exact wellFormed.find?_dropLast found
  | none =>
    obtain ⟨parent, name, rfl, directory⟩ :=
      reach_parent wellFormed (wellFormed.find?_start path) (reach_of_locate located) found
    rwa [List.dropLast_concat]

end FileTree

/-! ## Operations that only add -/

/-- An operation that only makes what is new, whether or not it succeeds, and what is true of the
tree where it succeeds. -/
structure FileAction.Adds (action : FileAction Unit) (new : Location → FileNode → Prop)
    (before : FileTree) (comes : FileTree → Prop) : Prop where
  /-- Nothing else changes. -/
  changes : Changes new [] before (action.on before).2
  /-- What is true after a success. -/
  done : ∀ after, action.on before = (.ok (), after) → comes after

namespace FileAction

variable {new : Location → FileNode → Prop} {tree before : FileTree} {comes : FileTree → Prop}
  {path : Path}

/-- An operation that has an answer and leaves the files as they are. -/
theorem Adds.of_same {action : FileAction Unit} {answer : Except FileFault Unit}
    (wellFormed : before.WellFormed) (ran : action.on before = (answer, before))
    (holds : answer = .ok () → comes before) : action.Adds new before comes := by
  refine ⟨?_, fun after success => ?_⟩
  · rw [ran]
    exact .refl wellFormed
  · rw [ran] at success
    obtain ⟨rfl, rfl⟩ := Prod.mk.inj success
    exact holds rfl

/-- One operation behind another. -/
theorem Adds.bind {first second : FileAction Unit} {between : FileTree → Prop}
    (lead : first.Adds new before between)
    (rest : ∀ middle, Changes new [] before middle → between middle →
      second.Adds new middle comes) :
    (first >>= fun _ => second).Adds new before comes := by
  obtain ⟨changes, done⟩ := lead
  cases ran : first.on before with
  | mk outcome middle =>
    rw [ran] at changes
    cases outcome with
    | error fault =>
      have stopped : (first >>= fun _ => second).on before = (.error fault, middle) := by
        rw [on, run_bind, ← on, ran]
      refine ⟨by rwa [stopped], fun after success => ?_⟩
      rw [stopped] at success
      cases success
    | ok finished =>
      have goesOn : (first >>= fun _ => second).on before = second.on middle := by
        rw [on, run_bind, ← on, ran]
      obtain ⟨changesMore, doneMore⟩ := rest middle changes (done middle ran)
      refine ⟨?_, fun after success => doneMore after (goesOn ▸ success)⟩
      rw [goesOn]
      exact changes.trans changesMore

/-- An operation that is tried, with another for its failure. -/
theorem Adds.orElse {action : FileAction Unit} {otherwise : FileFault → FileAction Unit}
    (lead : action.Adds new before comes)
    (rest : ∀ reason middle, Changes new [] before middle →
      (otherwise reason).Adds new middle comes) :
    (tryCatch action otherwise).Adds new before comes := by
  obtain ⟨changes, done⟩ := lead
  cases ran : action.on before with
  | mk outcome middle =>
    rw [ran] at changes
    cases outcome with
    | ok finished =>
      have kept : (tryCatch action otherwise).on before = (.ok (), middle) := by
        rw [on, run_tryCatch, ← on, ran]
      refine ⟨by rwa [kept], fun after success => ?_⟩
      rw [kept] at success
      obtain rfl := (Prod.mk.inj success).2
      exact done _ ran
    | error reason =>
      have retries : (tryCatch action otherwise).on before = (otherwise reason).on middle := by
        rw [on, run_tryCatch, ← on, ran]
      obtain ⟨changesMore, doneMore⟩ := rest reason middle changes
      refine ⟨?_, fun after success => doneMore after (retries ▸ success)⟩
      rw [retries]
      exact changes.trans changesMore

/-! ## Directories -/

/-- Making one directory. -/
theorem makeDirectory_adds (wellFormed : before.WellFormed)
    (isNew : new (before.destination path) .directory) :
    (makeDirectory path).Adds new before (fun after => after.hasDirectory path = true) := by
  cases located : before.locate path with
  | error fault =>
    exact .of_same wellFormed (by rw [makeDirectory_on, located]) (by simp)
  | ok location =>
    cases found : before.find? location with
    | some node =>
      have ran : (makeDirectory path).on before =
          (.error (.alreadyExists path.display), before) := by
        rw [makeDirectory_on, located]
        simp [found]
      exact .of_same wellFormed ran (by simp)
    | none =>
      have ran : (makeDirectory path).on before = (.ok (), before.put location .directory) := by
        rw [makeDirectory_on, located]
        simp [found]
      obtain ⟨below, parent⟩ := wellFormed.parent_of_locate located (by simp [found])
      rw [FileTree.destination_of_locate located] at isNew
      have changes : Changes new [] before (before.put location .directory) :=
        .of_new wellFormed below parent found isNew
      refine ⟨by rwa [ran], fun after success => ?_⟩
      rw [ran] at success
      obtain rfl := (Prod.mk.inj success).2
      have again : (before.put location .directory).locate path = .ok location := by
        rw [changes.growth.locate (by simp [located]), located]
      refine decide_eq_true ((FileTree.nodeAt?_of_ok again).trans ?_)
      rw [FileTree.find?_put before below, if_pos rfl]

/-- A refusal where a directory may be. -/
theorem unlessDirectory_adds (wellFormed : before.WellFormed) (reason : FileFault) :
    (unlessDirectory path reason).Adds new before
      (fun after => after.hasDirectory path = true) := by
  by_cases there : (reason.isRefusal && before.hasDirectory path) = true
  · refine .of_same wellFormed (by rw [unlessDirectory_on, if_pos there]) fun _ => ?_
    exact (Bool.and_eq_true_iff.mp there).2
  · exact .of_same wellFormed (by rw [unlessDirectory_on, if_neg there]) (by simp)

/-- Making the directory with the first parts of a path and its parents. By induction on the
number of parts. -/
theorem makeDirectoriesUpTo_adds {count : Nat}
    (isNew : ∀ shorter, shorter ≤ count → new (tree.destination (path.upTo shorter)) .directory)
    (wellFormed : before.WellFormed) (growth : tree.Extends before) :
    (makeDirectoriesUpTo path count).Adds new before
      (fun after => after.hasDirectory (path.upTo count) = true) := by
  have made {later : FileTree} {shorter : Nat} (within : shorter ≤ count)
      (stays : later.WellFormed) (grown : tree.Extends later) :
      (makeDirectory (path.upTo shorter)).Adds new later
        (fun after => after.hasDirectory (path.upTo shorter) = true) :=
    makeDirectory_adds stays (grown.destination _ ▸ isNew shorter within)
  induction count generalizing before with
  | zero =>
    exact (made (Nat.le_refl 0) wellFormed growth).orElse fun reason middle changes =>
      unlessDirectory_adds changes.wellFormed reason
  | succ count inductionHypothesis =>
    have first := made (Nat.le_refl (count + 1)) wellFormed growth
    refine first.orElse fun reason middle changes => ?_
    split
    · refine Adds.bind (inductionHypothesis (fun shorter within => isNew shorter (by omega))
        changes.wellFormed (growth.trans changes.growth) (fun within => made (by omega))) ?_
      intro later more _
      have grown := (growth.trans changes.growth).trans more.growth
      refine (made (Nat.le_refl (count + 1)) more.wellFormed grown).orElse ?_
      intro again last changesLast
      split
      · exact .of_same changesLast.wellFormed rfl (by simp)
      · exact unlessDirectory_adds changesLast.wellFormed again
    · exact unlessDirectory_adds changes.wellFormed reason

end FileAction

/-! ## Markers -/

/-- A path below another is below it up to every part behind those of the other. -/
theorem Path.isBelow_upTo {path root : Path} (below : path.isBelow root = true) {count : Nat}
    (within : count ≤ path.parts.length) :
    (path.upTo count).isBelow root = decide (root.parts.length < count) := by
  simp only [isBelow, Bool.and_eq_true, decide_eq_true_eq] at below
  obtain ⟨⟨same, -⟩, front⟩ := below
  by_cases longer : root.parts.length < count
  · simp [isBelow, upTo, same, longer, List.take_take, Nat.min_eq_left (Nat.le_of_lt longer),
      Nat.min_eq_left within, front]
  · have short : ¬ root.parts.length < min count path.parts.length := by omega
    simp [isBelow, upTo, longer, short]

/-- The parent of the first parts of a path has one part less. -/
theorem Path.parent_upTo (path : Path) {count : Nat} (within : count < path.parts.length) :
    (path.upTo (count + 1)).parent = path.upTo count := by
  rw [parent, upTo, upTo, FileTree.take_succ_parts within, List.dropLast_concat]

namespace FileStore

variable {new : Location → FileNode → Prop} {tree before : FileTree} {root path : Path}

/-- Marking a directory that is there. -/
theorem mark_adds {location : Location} (wellFormed : before.WellFormed)
    (leads : before.LeadsTo path location) (isNew : new (location ++ [marker]) (.file [])) :
    (mark path).Adds new before (fun after => after.has (path.join marker) = true) := by
  obtain ⟨fault, refused⟩ | located := locate_marker leads
  · have ran : (mark path).on before = (.error fault, before) := by
      rw [mark_on, FileTree.has, FileTree.nodeAt?_of_error (refused before)]
      exact (FileAction.writeText_refused _ _ _).1 fault (refused before)
    exact .of_same wellFormed ran (by simp)
  · have here := located before (.refl before)
    cases found : before.find? (location ++ [marker]) with
    | some node =>
      have held : before.has (path.join marker) = true := by
        rw [FileTree.has, FileTree.nodeAt?_of_ok here, found]
        rfl
      exact .of_same wellFormed (by rw [mark_on, if_pos held]) fun _ => held
    | none =>
      have ran : (mark path).on before =
          (.ok (), before.put (location ++ [marker]) (.file [])) := by
        rw [mark_on, FileTree.has, FileTree.nodeAt?_of_ok here, found, if_neg (by simp)]
        exact FileAction.writeText_located here (by simp [found]) []
      have changes : Changes new [] before (before.put (location ++ [marker]) (.file [])) :=
        .of_new wellFormed (by simp) (by rw [List.dropLast_concat, leads.2]) found isNew
      refine ⟨by rwa [ran], fun after success => ?_⟩
      rw [ran] at success
      obtain rfl := (Prod.mk.inj success).2
      rw [FileTree.has, FileTree.nodeAt?_of_ok (located _ changes.growth),
        FileTree.find?_put before (by simp), if_pos rfl]
      rfl

/-- Marking a directory that is there and its parents up to the root. By induction on how many
parents are looked at. -/
theorem markUpwards_adds (below : path.isBelow root = true) {bound count : Nat}
    (isNew : ∀ shorter, root.parts.length < shorter → shorter ≤ count →
      new (tree.destination (path.upTo shorter) ++ [marker]) (.file []))
    (wellFormed : before.WellFormed) (growth : tree.Extends before)
    (within : count ≤ path.parts.length) (enough : count ≤ bound)
    (leads : before.LeadsTo (path.upTo count) (tree.destination (path.upTo count))) :
    (markUpwards root bound (path.upTo count)).Adds new before (fun after =>
      ∀ shorter, root.parts.length < shorter → shorter ≤ count →
        after.has ((path.upTo shorter).join marker) = true) := by
  induction bound generalizing before count with
  | zero => exact .of_same wellFormed rfl fun _ shorter longer few => by omega
  | succ bound inductionHypothesis =>
    rw [markUpwards, Path.isBelow_upTo below within]
    by_cases longer : root.parts.length < count
    · rw [if_pos (decide_eq_true longer)]
      obtain ⟨fewer, rfl⟩ : ∃ fewer, count = fewer + 1 := ⟨count - 1, by omega⟩
      have marked := mark_adds wellFormed leads (isNew _ longer (Nat.le_refl _))
      refine marked.bind fun middle changes held => ?_
      have above : middle.LeadsTo (path.upTo fewer) (tree.destination (path.upTo fewer)) := by
        have shorter := (leads.grown changes.growth).upTo fewer
        have same : (path.upTo (fewer + 1)).upTo fewer = path.upTo fewer := by
          rw [Path.upTo, Path.upTo, Path.upTo, List.take_take, Nat.min_eq_left (Nat.le_succ _)]
        rwa [same, (growth.trans changes.growth).destination] at shorter
      rw [Path.parent_upTo path within]
      have rest := inductionHypothesis
        (fun shorter low few => isNew shorter low (Nat.le_succ_of_le few)) changes.wellFormed
        (growth.trans changes.growth) (by omega) (by omega) above
      refine ⟨rest.changes, fun after success shorter low few => ?_⟩
      obtain rfl | fewest := Nat.eq_or_lt_of_le few
      · have grown := rest.changes.growth
        rw [success] at grown
        exact grown.has held
      · exact rest.done after success shorter low (Nat.le_of_lt_succ fewest)
    · rw [if_neg (by simpa using longer)]
      exact .of_same wellFormed rfl fun _ shorter low few => absurd low (by omega)

end FileStore

/-! ## Modules -/

/-- What may be new when the module of a path below a root is written, its file apart:
directories on the way to the file, and empty markers in those of them below the root. -/
inductive NewForModule (tree : FileTree) (root path : Path) : Location → FileNode → Prop where
  | directory {count : Nat} (above : count < path.parts.length) :
      NewForModule tree root path (tree.destination (path.upTo count)) .directory
  | marker {count : Nat} (below : root.parts.length < count)
      (above : count < path.parts.length) :
      NewForModule tree root path (tree.destination (path.upTo count) ++ [FileStore.marker])
        (.file [])

/-- Parts without double dots lead further down. By induction on the parts. -/
theorem Location.follow_dotless {parts : List Text} (dotless : (".." : Text) ∉ parts)
    (location : Location) :
    parts.foldl Location.follow location = location ++ parts.map Utf8.canonicalName := by
  induction parts generalizing location with
  | nil => simp
  | cons part parts inductionHypothesis =>
    rw [List.mem_cons, not_or] at dotless
    have named : location.follow part = location ++ [Utf8.canonicalName part] :=
      if_neg fun same => dotless.1 same.symm
    rw [List.foldl_cons, named, inductionHypothesis dotless.2, List.map_cons, List.append_assoc]
    rfl

/-- Without double dots below the root, a path below it leads further down with every part. -/
theorem FileTree.destination_below {root path : Path} (below : path.isBelow root = true)
    (dotless : (".." : Text) ∉ path.parts.drop root.parts.length) {count : Nat}
    (low : root.parts.length < count) (above : count < path.parts.length) (tree : FileTree) :
    ∃ names, names ≠ [] ∧
      tree.destination (path.upTo count) = tree.destination root ++ names := by
  simp only [Path.isBelow, Bool.and_eq_true, decide_eq_true_eq] at below
  obtain ⟨⟨same, -⟩, front⟩ := below
  have split : path.parts.take count = root.parts ++
      (path.parts.drop root.parts.length).take (count - root.parts.length) := by
    have whole := List.take_append_drop root.parts.length path.parts
    rw [front] at whole
    conv => lhs; rw [← whole]
    rw [List.take_append, List.take_of_length_le (Nat.le_of_lt low)]
  have start : tree.start (path.upTo count) = tree.start root := by
    unfold FileTree.start Path.isAbsolute Path.upTo
    rw [same]
  refine ⟨((path.parts.drop root.parts.length).take (count - root.parts.length)).map
    Utf8.canonicalName, List.ne_nil_of_length_pos ?_, ?_⟩
  · rw [List.length_map, List.length_take, List.length_drop]
    omega
  · rw [FileTree.destination, start, Path.upTo, split, List.foldl_append,
      Location.follow_dotless fun member => dotless (List.mem_of_mem_take member)]
    rfl

/-- Without double dots below the root, a new marker is put into a directory below the root. -/
theorem NewForModule.below_root {tree : FileTree} {root path : Path} {location : Location}
    {bytes : List UInt8} (isNew : NewForModule tree root path location (.file bytes))
    (below : path.isBelow root = true)
    (dotless : (".." : Text) ∉ path.parts.drop root.parts.length) :
    ∃ names, names ≠ [] ∧ location = tree.destination root ++ names ++ [FileStore.marker] := by
  cases isNew with
  | marker low above =>
    obtain ⟨names, some, further⟩ := tree.destination_below below dotless low above
    exact ⟨names, some, by rw [further]⟩

namespace FileStore

/-- What has come of writing the module of a path below a root. -/
structure ModuleWritten (root path : Path) (text : Text) (before after : FileTree) : Prop where
  /-- The file is there and holds the bytes of the text. -/
  file : ∃ bytes, Utf8.encode text = .ok bytes ∧
    after.locate path = .ok (before.destination path) ∧
    after.find? (before.destination path) = some (.file bytes)
  /-- Every directory below the root down to that of the file is there and is marked. -/
  packages : ∀ count, root.parts.length < count → count < path.parts.length →
    after.hasDirectory (path.upTo count) = true ∧
      after.has ((path.upTo count).join marker) = true
  /-- Everything else that was there is as it was. -/
  kept : ∀ location node, location ≠ before.destination path →
    before.find? location = some node → after.find? location = some node
  /-- Nothing else is new but directories on the way and empty markers. -/
  made : ∀ location node, location ≠ before.destination path → before.find? location = none →
    after.find? location = some node → NewForModule before root path location node
  /-- Without double dots below the root, no marker is new in the root or above. -/
  contained : (".." : Text) ∉ path.parts.drop root.parts.length →
    ∀ location bytes, location ≠ before.destination path → before.find? location = none →
      after.find? location = some (.file bytes) →
      ∃ names, names ≠ [] ∧ location = before.destination root ++ names ++ [marker]

variable {before after : FileTree} {root path : Path} {text : Text}

/-- What is written to the file alone, and what is new besides, says what has come of it. -/
theorem ModuleWritten.of_changes {bytes : List UInt8} (below : path.isBelow root = true)
    (encoded : Utf8.encode text = .ok bytes)
    (located : after.locate path = .ok (before.destination path))
    (changes : Changes (NewForModule before root path) [(before.destination path, bytes)]
      before after)
    (packages : ∀ count, root.parts.length < count → count < path.parts.length →
      after.hasDirectory (path.upTo count) = true ∧
        after.has ((path.upTo count).join marker) = true) :
    ModuleWritten root path text before after := by
  have last (location : Location) : Writes.last? [(before.destination path, bytes)] location =
      if before.destination path = location then some bytes else none := rfl
  have unwritten {location : Location} (other : location ≠ before.destination path) :
      Writes.last? [(before.destination path, bytes)] location = none := by
    rw [last, if_neg fun same => other same.symm]
  have made : ∀ location node, location ≠ before.destination path →
      before.find? location = none → after.find? location = some node →
      NewForModule before root path location node := by
    intro location node other nothing found
    obtain same | ⟨-, held, foundHeld, isNew⟩ := changes.elsewhere location (unwritten other)
    · rw [same, nothing] at found
      cases found
    · rw [foundHeld] at found
      exact Option.some.inj found ▸ isNew
  refine ⟨⟨bytes, encoded, located, ?_⟩, packages, ?_, made, ?_⟩
  · exact (changes.written _ _ (by rw [last, if_pos rfl])).1
  · exact fun location node other found => changes.kept (unwritten other) found
  · intro dotless location bytes other nothing found
    exact (made location _ other nothing found).below_root below dotless

/-- A text that is written to a file is there afterwards, and nothing else has changed. -/
theorem writeText_ok {new : Location → FileNode → Prop} (wellFormed : before.WellFormed)
    (ran : (FileAction.writeText path text).on before = (.ok (), after)) :
    ∃ bytes, Utf8.encode text = .ok bytes ∧
      after.locate path = .ok (before.destination path) ∧
      Changes new [(before.destination path, bytes)] before after := by
  cases located : before.locate path with
  | error fault =>
    rw [(FileAction.writeText_refused _ _ _).1 fault located] at ran
    cases ran
  | ok location =>
    by_cases taken : before.find? location = some .directory
    · rw [(FileAction.writeText_refused _ _ _).2 location located taken] at ran
      cases ran
    obtain ⟨below, parent⟩ := wellFormed.parent_of_locate located taken
    rw [FileAction.writeText_located located taken] at ran
    unfold FileAction.textWritten at ran
    cases encoded : Utf8.encode text with
    | error reason =>
      rw [encoded] at ran
      cases ran
    | ok bytes =>
      rw [encoded] at ran
      obtain rfl := (Prod.mk.inj ran).2
      rw [FileTree.destination_of_locate located]
      have changes : Changes new [(location, bytes)] before
          (before.put location (.file bytes)) :=
        .of_put wellFormed below parent taken bytes
      refine ⟨bytes, rfl, ?_, changes⟩
      rw [changes.growth.locate (by simp [located]), located]

/-- Making the directories of a module and marking them. -/
theorem ensurePackages_adds (wellFormed : before.WellFormed) (below : path.isBelow root = true) :
    (FileAction.makeDirectories path.parent >>= fun _ =>
        markUpwards root path.parent.parts.length path.parent).Adds
      (NewForModule before root path) before (fun middle =>
        ∀ count, root.parts.length < count → count < path.parts.length →
          middle.hasDirectory (path.upTo count) = true ∧
            middle.has ((path.upTo count).join marker) = true) := by
  have longer : 0 < path.parts.length := by
    simp only [Path.isBelow, Bool.and_eq_true, decide_eq_true_eq] at below
    omega
  have length : path.parent.parts.length = path.parts.length - 1 := List.length_dropLast
  have whole : path.upTo (path.parts.length - 1) = path.parent := by
    rw [Path.upTo, Path.parent, List.dropLast_eq_take]
  have shorter {count : Nat} (within : count ≤ path.parts.length - 1) :
      path.parent.upTo count = path.upTo count := by
    rw [← whole, Path.upTo, Path.upTo, Path.upTo, List.take_take, Nat.min_eq_left within]
  have directories : (FileAction.makeDirectories path.parent).Adds
      (NewForModule before root path) before
      (fun middle => middle.hasDirectory (path.parent.upTo path.parent.parts.length) = true) := by
    refine FileAction.makeDirectoriesUpTo_adds (fun count within => ?_) wellFormed (.refl before)
    rw [shorter (length ▸ within)]
    exact .directory (by omega)
  rw [FileTree.upTo_length] at directories
  refine directories.bind fun middle changes there => ?_
  have marks : (markUpwards root path.parent.parts.length
      (path.upTo (path.parts.length - 1))).Adds (NewForModule before root path) middle
      (fun after => ∀ count, root.parts.length < count → count ≤ path.parts.length - 1 →
        after.has ((path.upTo count).join marker) = true) := by
    refine markUpwards_adds below (fun count low within => .marker low (by omega))
      changes.wellFormed changes.growth (by omega) (Nat.le_of_eq length.symm) ?_
    rw [whole, ← changes.growth.destination]
    exact (FileTree.hasDirectory_iff.mp there).2
  rw [whole] at marks
  refine ⟨marks.changes, fun after success count low above => ?_⟩
  have grown := marks.changes.growth
  rw [success] at grown
  refine ⟨?_, marks.done after success count low (by omega)⟩
  rw [← shorter (by omega)]
  exact grown.hasDirectory (FileTree.hasDirectory_upTo there count)

/-- Writing a module that succeeds has done what it is meant to do, and nothing else. -/
theorem writeModule_written (wellFormed : before.WellFormed) (below : path.isBelow root = true)
    (ran : (writeModule root path text).on before = (.ok (), after)) :
    ModuleWritten root path text before after := by
  have first := ensurePackages_adds wellFormed below
  have parted : writeModule root path text =
      ((FileAction.makeDirectories path.parent >>= fun _ =>
        markUpwards root path.parent.parts.length path.parent) >>= fun _ =>
          FileAction.writeText path text) := by
    rw [bind_assoc]
    rfl
  rw [parted, FileAction.on, run_bind, ← FileAction.on] at ran
  cases lead : (FileAction.makeDirectories path.parent >>= fun _ =>
      markUpwards root path.parent.parts.length path.parent).on before with
  | mk outcome middle =>
    rw [lead] at ran
    cases outcome with
    | error fault => cases ran
    | ok finished =>
      have ran : (FileAction.writeText path text).on middle = (.ok (), after) := ran
      have packages := first.done middle lead
      have changes := first.changes
      rw [lead] at changes
      obtain ⟨bytes, encoded, located, written⟩ := writeText_ok changes.wellFormed ran
      rw [changes.growth.destination] at located written
      exact .of_changes below encoded located (changes.trans written) fun count low above =>
        ⟨written.growth.hasDirectory (packages count low above).1,
          written.growth.has (packages count low above).2⟩

/-- Writing a module touches what it must. Its path is meant to lie below the root. If it is
written, its file holds the bytes of the text, every directory from below the root down to its own
is there and marked, everything else that was there is as it was, nothing else is new but
directories on the way and empty markers, and the path is noted as written. No marker is new in
the root or above, unless double dots lead up below the root. If it is not written, nothing is
noted. -/
theorem write_touchesOnly (store : FileStore) (package typeName text : Text)
    (wellFormed : store.tree.WellFormed)
    (below : (pathFor store.root package typeName).isBelow store.root = true) :
    (∀ fault, (store.write package typeName text).outcome = .error fault →
      (store.write package typeName text).state.written = store.written) ∧
    ((store.write package typeName text).outcome = .ok () →
      (store.write package typeName text).state.written =
          store.written ++ [pathFor store.root package typeName] ∧
        ModuleWritten store.root (pathFor store.root package typeName) text store.tree
          (store.write package typeName text).state.tree) := by
  unfold write
  cases ran : (writeModule store.root (pathFor store.root package typeName) text).on
      store.tree with
  | mk outcome tree =>
    simp only [ran]
    cases outcome with
    | error reason => exact ⟨fun _ _ => rfl, fun success => nomatch success⟩
    | ok finished =>
      refine ⟨(fun _ failed => nomatch failed), fun _ => ⟨rfl, ?_⟩⟩
      exact writeModule_written wellFormed below ran

/-- A store with a directory below its root that is marked with a text of its own. -/
def markedStore : FileStore :=
  workStore [(["w", "out"], .directory), (["w", "out", "a"], .directory),
    (["w", "out", "a", "__init__.py"], .file [1])]

/-- A module in a package of which the first directory is there and marked. -/
theorem write_touchesOnly_marked :
    (markedStore.write "a.b" "User" "x").state.written = [Path.ofText "out/a/b/user.py"] ∧
      ModuleWritten (Path.ofText "out") (Path.ofText "out/a/b/user.py") "x" markedStore.tree
        (markedStore.write "a.b" "User" "x").state.tree :=
  (write_touchesOnly markedStore "a.b" "User" "x" (by decide +kernel) (by decide +kernel)).2
    (by decide +kernel)

/-- A name that leads up by double dots: the path is spelled below the root and the module is
written, but a marker is new in the root. -/
theorem write_marksRoot :
    (pathFor (Path.ofText "out") "ns" "../x").isBelow (Path.ofText "out") = true ∧
      ((workStore []).write "ns" "../x" "y").outcome = .ok () ∧
      (workStore []).tree.find? ["w", "out", "__init__.py"] = none ∧
      ((workStore []).write "ns" "../x" "y").state.tree.find? ["w", "out", "__init__.py"] =
        some (.file []) := by
  decide +kernel

end FileStore

end SchemaForge
