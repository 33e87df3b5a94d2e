import SchemaForge.Proofs.PathParts
import SchemaForge.Proofs.TreeNodes

/-!
# Making directories

Making a directory with its parents tries the directory first, goes up as long as a parent is
missing, and comes down again. What comes of it can be said without the detour. Either the
directory is there afterwards, and nothing is new but directories on the way to it; or something
stands in the way that no directory can remove: a file, or a name that is too long.

Doing it again changes nothing, and the answer is the same. One difference can be seen: where a
name is too long, the first attempt may have come to it from above, because its parent was still
missing, and names a shorter path than the second.

Double dots lead up from what is there, so what a path means may change while directories are
made. Here every double dot comes behind a directory that is there from the start; paths without
double dots are of this kind in every tree.
-/

namespace SchemaForge

/-! ## Actions one behind the other -/

section Runs

variable {ε σ α β : Type}

/-- What comes of one action behind another. -/
theorem run_bind (first : ExceptT ε (StateM σ) α) (next : α → ExceptT ε (StateM σ) β) (state : σ) :
    StateT.run (first >>= next).run state =
      match StateT.run first.run state with
      | (.ok value, later) => StateT.run (next value).run later
      | (.error reason, later) => (.error reason, later) := by
  rw [ExceptT.run_bind, StateT.run_bind]
  generalize StateT.run first.run state = ran
  obtain ⟨outcome, later⟩ := ran
  cases outcome <;> rfl

/-- What comes of an action that is tried, with another for its failure. -/
theorem run_tryCatch (action : ExceptT ε (StateM σ) α) (otherwise : ε → ExceptT ε (StateM σ) α)
    (state : σ) :
    StateT.run (tryCatch action otherwise).run state =
      match StateT.run action.run state with
      | (.ok value, later) => (.ok value, later)
      | (.error reason, later) => StateT.run (otherwise reason).run later := by
  rw [ExceptT.run_tryCatch, StateT.run_bind]
  generalize StateT.run action.run state = ran
  obtain ⟨outcome, later⟩ := ran
  cases outcome <;> rfl

end Runs

/-- What comes of a file operation on a tree. -/
abbrev FileAction.on {α : Type} (action : FileAction α) (tree : FileTree) :
    Except FileFault α × FileTree :=
  StateT.run action.run tree

/-! ## Paths and their beginnings -/

/-- The path with the first parts of another. -/
def Path.upTo (path : Path) (count : Nat) : Path := ⟨path.root, path.parts.take count⟩

namespace Utf8

/-- The beginning of a name that has bytes has no more bytes than the name. -/
theorem encodeNameFrom_append {start : Nat} {name more : Text} {bytes : List UInt8}
    (encoded : encodeNameFrom start (name ++ more) = .ok bytes) :
    ∃ fewer, encodeNameFrom start name = .ok fewer ∧ fewer.length ≤ bytes.length := by
  induction name generalizing start bytes with
  | nil => exact ⟨[], rfl, Nat.zero_le _⟩
  | cons c rest inductionHypothesis =>
    rw [List.cons_append, encodeNameFrom] at encoded
    rw [encodeNameFrom]
    cases behind : encodeNameFrom (start + 1) (rest ++ more) with
    | error fault =>
      rw [behind] at encoded
      split at encoded
      · cases encoded
      · split at encoded <;> cases encoded
    | ok others =>
      obtain ⟨fewer, found, short⟩ := inductionHypothesis behind
      rw [behind] at encoded
      rw [found]
      split at encoded
      · next escaped =>
        cases encoded
        rw [if_pos escaped]
        exact ⟨_, rfl, Nat.succ_le_succ short⟩
      · next plain =>
        rw [if_neg plain]
        split at encoded
        · cases encoded
        · next whole =>
          cases encoded
          rw [if_neg whole]
          refine ⟨_, rfl, ?_⟩
          rw [List.length_append, List.length_append]
          exact Nat.add_le_add_left short _

end Utf8

/-- The first of some texts that are joined come first in what they are joined to. -/
theorem Text.join_take_prefix (separator : Text) (parts : List Text) (count : Nat) :
    join separator (parts.take count) <+: join separator parts := by
  induction parts generalizing count with
  | nil => simp
  | cons part parts inductionHypothesis =>
    cases count with
    | zero => exact List.nil_prefix
    | succ count =>
      cases parts with
      | nil => simp
      | cons next parts =>
        cases count with
        | zero => exact (List.prefix_append part separator).trans (List.prefix_append _ _)
        | succ count => exact (List.prefix_append_right_inj _).mpr (inductionHypothesis (count + 1))

namespace FileTree

/-- The beginning of a spelling that can be asked about can be asked about. -/
theorem Askable.of_prefix {display longer : Text} (beginning : display <+: longer)
    (askable : Askable longer) : Askable display := by
  obtain ⟨more, rfl⟩ := beginning
  obtain ⟨bytes, encoded, zeroless, short⟩ := askable
  obtain ⟨fewer, found, fewerBytes⟩ := Utf8.encodeNameFrom_append encoded
  refine ⟨fewer, found, ?_, Nat.le_trans fewerBytes short⟩
  unfold Text.contains at zeroless ⊢
  rw [List.any_append, Bool.or_eq_false_iff] at zeroless
  exact zeroless.1

/-- The beginning of a path that can be asked about can be asked about. -/
theorem Askable.upTo {path : Path} (askable : Askable path.display) (count : Nat) :
    Askable (path.upTo count).display := by
  by_cases empty : path.root = [] ∧ path.parts.take count = []
  · have dot : (path.upTo count).display = ("." : Text) := by
      simp [Path.display, Path.upTo, empty.1, empty.2]
    rw [dot]
    exact ⟨_, rfl, by decide, by decide⟩
  · have whole : ¬ (path.root = [] ∧ path.parts = []) := by
      rintro ⟨root, parts⟩
      exact empty ⟨root, by rw [parts, List.take_nil]⟩
    refine askable.of_prefix ?_
    have spelled (some : Path) (given : ¬ (some.root = [] ∧ some.parts = [])) :
        some.display = some.root ++ Text.join "/" some.parts := by
      unfold Path.display
      rw [if_neg (by simpa using given)]
    rw [spelled (path.upTo count) empty, spelled path whole]
    exact (List.prefix_append_right_inj _).mpr (Text.join_take_prefix _ _ _)

/-- Every double dot of a path comes behind a directory. -/
def DotsResolved (tree : FileTree) (path : Path) : Prop :=
  ∀ front back, path.parts = front ++ (".." : Text) :: back →
    tree.hasDirectory ⟨path.root, front⟩ = true

/-- A path without double dots is of this kind in every tree. -/
theorem dotsResolved_of_dotless (tree : FileTree) {path : Path}
    (dotless : (".." : Text) ∉ path.parts) : tree.DotsResolved path := by
  intro front back split
  exact absurd (by rw [split]; simp) dotless

variable {tree later : FileTree} {path : Path} {location : Location}

/-- A directory at a path is reached. -/
theorem reach_of_hasDirectory (found : tree.hasDirectory path = true) :
    ∃ location, tree.reach (tree.start path) path.parts = .ok location ∧
      tree.find? location = some .directory := by
  have node : tree.nodeAt? path = some .directory := of_decide_eq_true found
  cases located : tree.locate path with
  | error fault =>
    rw [nodeAt?_of_error located] at node
    cases node
  | ok location =>
    rw [nodeAt?_of_ok located] at node
    exact ⟨location, reach_of_locate located, node⟩

/-- The first parts of a path and one more. -/
theorem take_succ_parts {count : Nat} (within : count < path.parts.length) :
    path.parts.take (count + 1) = path.parts.take count ++ [path.parts[count]] :=
  (List.take_append_getElem within).symm

/-- Where a walk is stopped because there is nothing, the last part is no double dot. -/
theorem DotsResolved.not_dots (dots : tree.DotsResolved path) {count : Nat}
    (within : count < path.parts.length)
    (missing : tree.reach (tree.start path) (path.parts.take (count + 1)) = .error .missing) :
    path.parts[count] ≠ (".." : Text) := by
  intro double
  have split : path.parts =
      path.parts.take count ++ (".." : Text) :: path.parts.drop (count + 1) := by
    rw [← double, List.getElem_cons_drop, List.take_append_drop]
  obtain ⟨location, reached, found⟩ := reach_of_hasDirectory (dots _ _ split)
  have reached : tree.reach (tree.start path) (path.parts.take count) = .ok location := reached
  rw [take_succ_parts within, double, reach_concat _ reached, reach, found] at missing
  cases missing

/-- A part that is no double dot leads to a name. -/
theorem destination_succ {count : Nat} (within : count < path.parts.length)
    (named : path.parts[count] ≠ (".." : Text)) (tree : FileTree) :
    tree.destination (path.upTo (count + 1)) =
      tree.destination (path.upTo count) ++ [Utf8.canonicalName path.parts[count]] := by
  change (path.parts.take (count + 1)).foldl _ _ = _
  rw [take_succ_parts within, List.foldl_concat, Location.follow, if_neg named]
  rfl

/-- Where a walk is stopped because there is nothing, there is nothing at its end either. -/
theorem find?_of_missing (wellFormed : tree.WellFormed) (dots : tree.DotsResolved path)
    {count : Nat}
    (missing : tree.reach (tree.start path) (path.parts.take count) = .error .missing) :
    tree.find? (tree.destination (path.upTo count)) = none := by
  induction count with
  | zero => cases missing
  | succ count inductionHypothesis =>
    by_cases within : count < path.parts.length
    · have last := destination_succ within (dots.not_dots within missing) tree
      rw [take_succ_parts within] at missing
      have none : tree.find? (tree.destination (path.upTo count)) = none := by
        cases reached : tree.reach (tree.start path) (path.parts.take count) with
        | error obstacle =>
          rw [reach_stopped _ reached] at missing
          exact inductionHypothesis (reached.trans missing)
        | ok location =>
          have ends : tree.destination (path.upTo count) = location := foldl_of_reach reached
          rw [reach_concat _ reached, reach] at missing
          rw [ends]
          cases found : tree.find? location with
          | none => rfl
          | some node =>
            rw [found] at missing
            cases node with
            | file bytes => cases missing
            | directory =>
              dsimp only at missing
              split at missing <;> cases missing
      rw [last]
      by_contra held
      obtain ⟨node, held⟩ := Option.ne_none_iff_exists'.mp held
      have above := wellFormed.find?_above held (List.cons_ne_nil _ _)
      rw [none] at above
      cases above
    · have same : path.parts.take (count + 1) = path.parts.take count := by
        rw [List.take_of_length_le (by omega), List.take_of_length_le (by omega)]
      have again : path.upTo (count + 1) = path.upTo count := by
        rw [Path.upTo, Path.upTo, same]
      rw [same] at missing
      rw [again]
      exact inductionHypothesis missing

end FileTree

/-! ## One directory -/

namespace FileAction

variable {tree later : FileTree} {path : Path} {count : Nat}

/-- A directory is made where there is nothing, if the way there can be walked. -/
theorem makeDirectory_on (path : Path) (tree : FileTree) :
    (makeDirectory path).on tree =
      match tree.locate path with
      | .error reason => (.error reason, tree)
      | .ok location =>
        if (tree.find? location).isSome then (.error (.alreadyExists path.display), tree)
        else (.ok (), tree.put location .directory) := by
  unfold makeDirectory
  rw [on, run_bind]
  change StateT.run (ExceptT.run (match tree.locate path with | .error _ => _ | .ok _ => _)) tree = _
  cases tree.locate path with
  | error reason => rfl
  | ok location =>
    dsimp only
    split <;> rfl

/-- What comes of a refusal where a directory may be. -/
theorem unlessDirectory_on (path : Path) (reason : FileFault) (tree : FileTree) :
    (unlessDirectory path reason).on tree =
      if reason.isRefusal && tree.hasDirectory path then (.ok (), tree)
      else (.error reason, tree) := by
  unfold unlessDirectory
  rw [on, run_bind]
  change StateT.run (ExceptT.run (if (reason.isRefusal && tree.hasDirectory path) = true then _
    else _)) tree = _
  split <;> rfl

/-- Makes a directory if there is nothing, and keeps one that is there. -/
def makeOrKeep (path : Path) (tree : FileTree) : Except FileFault Unit × FileTree :=
  match tree.locate path with
  | .error reason => (.error reason, tree)
  | .ok location =>
    match tree.find? location with
    | none => (.ok (), tree.put location .directory)
    | some .directory => (.ok (), tree)
    | some (.file _) => (.error (.alreadyExists path.display), tree)

/-- A directory that is tried and, if that fails, looked for. -/
theorem tryMake_on {otherwise : FileFault → FileAction Unit}
    (looks : ∀ reason, (∀ display, reason ≠ .missing display) →
      otherwise reason = unlessDirectory path reason)
    (settled : ∀ display, tree.locate path ≠ .error (.missing display)) :
    (tryCatch (makeDirectory path) otherwise).on tree = makeOrKeep path tree := by
  rw [on, run_tryCatch, ← on, makeDirectory_on, makeOrKeep]
  cases located : tree.locate path with
  | error reason =>
    have other : ∀ display, reason ≠ .missing display := by
      rintro display rfl
      exact settled display located
    have absent : tree.hasDirectory path = false := by
      simp [FileTree.hasDirectory, FileTree.nodeAt?_of_error located]
    dsimp only
    rw [looks reason other, ← on, unlessDirectory_on, absent, Bool.and_false]
    rfl
  | ok location =>
    dsimp only
    cases found : tree.find? location with
    | none => rfl
    | some node =>
      have looked := looks (.alreadyExists path.display) (by simp)
      rw [if_pos Option.isSome_some]
      dsimp only
      rw [looked, ← on, unlessDirectory_on]
      unfold FileTree.hasDirectory
      simp only [FileTree.nodeAt?_of_ok located, found]
      cases node <;> rfl

/-- If no directory is missing on the way, the first attempt decides. -/
theorem makeDirectoriesUpTo_settled
    (settled : ∀ display, tree.locate (path.upTo count) ≠ .error (.missing display)) :
    (makeDirectoriesUpTo path count).on tree = makeOrKeep (path.upTo count) tree := by
  cases count with
  | zero => exact tryMake_on (fun _ _ => rfl) settled
  | succ count =>
    refine tryMake_on ?_ settled
    intro reason other
    cases reason with
    | missing display => exact absurd rfl (other display)
    | alreadyExists | notDirectory | isDirectory | nameTooLong | sameFile | schemaNotUtf8
      | refused | embeddedNull | undecodable | unencodable => rfl

/-- If a directory is missing on the way, those above are made first. -/
theorem makeDirectoriesUpTo_missing {display : Text}
    (missing : tree.locate (path.upTo (count + 1)) = .error (.missing display))
    (settled : ∀ display, ((makeDirectoriesUpTo path count).on tree).2.locate
      (path.upTo (count + 1)) ≠ .error (.missing display)) :
    (makeDirectoriesUpTo path (count + 1)).on tree =
      match (makeDirectoriesUpTo path count).on tree with
      | (.ok (), middle) => makeOrKeep (path.upTo (count + 1)) middle
      | (.error reason, middle) => (.error reason, middle) := by
  have first : StateT.run (makeDirectory ⟨path.root, path.parts.take (count + 1)⟩).run tree =
      (.error (.missing display), tree) := by
    change (makeDirectory (path.upTo (count + 1))).on tree = _
    rw [makeDirectory_on, missing]
  rw [makeDirectoriesUpTo, on, run_tryCatch, first]
  dsimp only
  rw [run_bind]
  unfold on at settled ⊢
  generalize StateT.run (makeDirectoriesUpTo path count).run tree = ran at settled ⊢
  obtain ⟨outcome, middle⟩ := ran
  cases outcome with
  | error reason => rfl
  | ok done =>
    refine tryMake_on ?_ settled
    intro reason other
    cases reason with
    | missing display => exact absurd rfl (other display)
    | alreadyExists | notDirectory | isDirectory | nameTooLong | sameFile | schemaNotUtf8
      | refused | embeddedNull | undecodable | unencodable => rfl

end FileAction

/-! ## Directories with their parents -/

namespace FileTree

variable {tree before middle after later : FileTree} {path : Path} {count : Nat}
  {target longer : Location}

/-- A tree with nothing new but directories on the way to a location. -/
structure AddsDirectories (target : Location) (before after : FileTree) : Prop where
  /-- The tree is still one of files that exist. -/
  wellFormed : after.WellFormed
  /-- Relative paths start from the same place. -/
  working : after.workingDirectory = before.workingDirectory
  /-- What is found is what was found, or a directory on the way. -/
  found : ∀ location, after.find? location = before.find? location ∨
    (before.find? location = none ∧ after.find? location = some .directory ∧ location <+: target)

namespace AddsDirectories

/-- Nothing need be new. -/
theorem refl (wellFormed : tree.WellFormed) (target : Location) :
    AddsDirectories target tree tree :=
  ⟨wellFormed, rfl, fun _ => .inl rfl⟩

/-- What was there stays. -/
theorem kept (adds : AddsDirectories target before after) {location : Location} {node : FileNode}
    (found : before.find? location = some node) : after.find? location = some node := by
  obtain same | ⟨none, -⟩ := adds.found location
  · rw [same, found]
  · rw [none] at found
    cases found

/-- Such a tree extends the one before. -/
theorem growth (adds : AddsDirectories target before after) : before.Extends after :=
  ⟨adds.working, fun _ found => adds.kept found, fun _ bytes found => ⟨bytes, adds.kept found⟩⟩

/-- One more directory at the end of the way. -/
theorem put (adds : AddsDirectories target before middle) (name : Text)
    (parent : middle.find? target = some .directory)
    (free : middle.find? (target ++ [name]) = none) :
    AddsDirectories (target ++ [name]) before (middle.put (target ++ [name]) .directory) := by
  have below : target ++ [name] ≠ [] := by simp
  refine ⟨adds.wellFormed.put below (by rwa [List.dropLast_concat]) (fun _ => rfl), ?_, ?_⟩
  · rw [workingDirectory_put, adds.working]
  · intro location
    rw [find?_put _ below]
    split
    · next here =>
      refine .inr ⟨?_, rfl, here ▸ List.prefix_rfl⟩
      obtain same | ⟨none, -⟩ := adds.found location
      · rw [← same, here, free]
      · exact none
    · obtain same | ⟨none, found, way⟩ := adds.found location
      · exact .inl same
      · exact .inr ⟨none, found, way.trans (List.prefix_append target [name])⟩

/-- The way to a location is part of the way to what lies below it. -/
theorem further (adds : AddsDirectories target before after) (way : target <+: longer) :
    AddsDirectories longer before after := by
  refine ⟨adds.wellFormed, adds.working, ?_⟩
  intro location
  obtain same | ⟨none, found, above⟩ := adds.found location
  · exact .inl same
  · exact .inr ⟨none, found, above.trans way⟩

end AddsDirectories

/-- What comes of making the directory with the first parts of a path and its parents. -/
inductive Made (tree : FileTree) (path : Path) (count : Nat) :
    Except FileFault Unit → FileTree → Prop where
  /-- The directory is there. -/
  | made {after : FileTree}
      (reached : after.reach (tree.start path) (path.parts.take count) =
        .ok (tree.destination (path.upTo count)))
      (found : after.find? (tree.destination (path.upTo count)) = some .directory) :
      Made tree path count (.ok ()) after
  /-- There is a file in its place. -/
  | taken {bytes : List UInt8}
      (reached : tree.reach (tree.start path) (path.parts.take count) =
        .ok (tree.destination (path.upTo count)))
      (found : tree.find? (tree.destination (path.upTo count)) = some (.file bytes)) :
      Made tree path count (.error (.alreadyExists (path.upTo count).display)) tree
  /-- There is a file in the place of one of its parents. -/
  | blocked
      (stopped : tree.reach (tree.start path) (path.parts.take count) = .error .notDirectory) :
      Made tree path count (.error (.notDirectory (path.upTo count).display)) tree
  /-- One of the names is too long. -/
  | long {after : FileTree} {shorter : Nat} (within : shorter ≤ count)
      (stopped : after.reach (tree.start path) (path.parts.take shorter) = .error .tooLong) :
      Made tree path count (.error (.nameTooLong (path.upTo shorter).display)) after

/-- A walk that ends where there is nothing ends below a directory, with a name. -/
theorem reach_parent (wellFormed : tree.WellFormed) {location : Location} {parts : List Text}
    (starts : tree.find? location = some .directory)
    (reached : tree.reach location parts = .ok target) (free : tree.find? target = none) :
    ∃ parent name, target = parent ++ [name] ∧ tree.find? parent = some .directory := by
  induction parts using List.reverseRecOn with
  | nil =>
    obtain rfl := Except.ok.inj reached
    rw [starts] at free
    cases free
  | append_singleton parts part _ =>
    rw [reach_append] at reached
    cases lead : tree.reach location parts with
    | error obstacle =>
      rw [lead] at reached
      cases reached
    | ok parent =>
      rw [lead] at reached
      change tree.reach parent [part] = .ok target at reached
      rw [reach] at reached
      cases found : tree.find? parent with
      | none =>
        rw [found] at reached
        cases reached
      | some node =>
        rw [found] at reached
        cases node with
        | file bytes => cases reached
        | directory =>
          dsimp only at reached
          split at reached
          · cases reached
          · obtain rfl := Except.ok.inj reached
            unfold Location.follow at free ⊢
            split at free
            · rw [wellFormed.find?_dropLast found] at free
              cases free
            · next named => exact ⟨parent, _, if_neg named, found⟩

/-- A walk that is stopped early goes no further. -/
theorem reach_take_stopped {location : Location} {parts : List Text} {shorter : Nat}
    {obstacle : Obstacle} (within : shorter ≤ count)
    (stopped : tree.reach location (parts.take shorter) = .error obstacle) :
    tree.reach location (parts.take count) = .error obstacle := by
  have split : parts.take count = parts.take shorter ++ (parts.take count).drop shorter := by
    have front : parts.take shorter = (parts.take count).take shorter := by
      rw [List.take_take, Nat.min_eq_left within]
    rw [front, List.take_append_drop]
  rw [split]
  exact reach_stopped _ stopped

/-- A directory is made, kept or refused where no directory is missing on the way. -/
theorem made_of_settled (wellFormed : tree.WellFormed) (askable : Askable path.display)
    (settled : tree.reach (tree.start path) (path.parts.take count) ≠ .error .missing) :
    AddsDirectories (tree.destination (path.upTo count)) tree
        ((FileAction.makeDirectoriesUpTo path count).on tree).2 ∧
      Made tree path count ((FileAction.makeDirectoriesUpTo path count).on tree).1
        ((FileAction.makeDirectoriesUpTo path count).on tree).2 := by
  have located := locate_askable (askable.upTo count) tree
  change tree.locate (path.upTo count) =
    (tree.reach (tree.start path) (path.parts.take count)).mapError _ at located
  cases reached : tree.reach (tree.start path) (path.parts.take count) with
  | error obstacle =>
    rw [reached] at located settled
    cases obstacle with
    | missing => exact absurd rfl settled
    | notDirectory =>
      have located : tree.locate (path.upTo count) =
        .error (.notDirectory (path.upTo count).display) := located
      rw [FileAction.makeDirectoriesUpTo_settled (by simp [located]), FileAction.makeOrKeep, located]
      exact ⟨.refl wellFormed _, .blocked reached⟩
    | tooLong =>
      have located : tree.locate (path.upTo count) =
        .error (.nameTooLong (path.upTo count).display) := located
      rw [FileAction.makeDirectoriesUpTo_settled (by simp [located]), FileAction.makeOrKeep, located]
      exact ⟨.refl wellFormed _, .long (Nat.le_refl count) reached⟩
  | ok target =>
    obtain rfl : tree.destination (path.upTo count) = target := foldl_of_reach reached
    rw [reached] at located
    have located : tree.locate (path.upTo count) =
      .ok (tree.destination (path.upTo count)) := located
    rw [FileAction.makeDirectoriesUpTo_settled (by simp [located]), FileAction.makeOrKeep, located]
    dsimp only
    cases found : tree.find? (tree.destination (path.upTo count)) with
    | some node =>
      cases node with
      | file bytes => exact ⟨.refl wellFormed _, .taken reached found⟩
      | directory => exact ⟨.refl wellFormed _, .made reached found⟩
    | none =>
      obtain ⟨parent, name, ends, directory⟩ :=
        reach_parent wellFormed (wellFormed.find?_start path) reached found
      have below : tree.destination (path.upTo count) ≠ [] := by simp [ends]
      have adds := (AddsDirectories.refl wellFormed parent).put name directory (ends ▸ found)
      rw [← ends] at adds
      refine ⟨adds, .made ?_ ?_⟩
      · rw [adds.growth.reach (by simp [reached]), reached]
      · rw [find?_put tree below, if_pos rfl]

/-- A path is located by walking from where the tree starts, also after directories were made. -/
theorem AddsDirectories.locate (adds : AddsDirectories target tree middle)
    (askable : Askable path.display) (count : Nat) :
    middle.locate (path.upTo count) =
      (middle.reach (tree.start path) (path.parts.take count)).mapError
        (·.fault (path.upTo count).display) := by
  rw [locate_askable (askable.upTo count), adds.growth.start]
  rfl

/-- One more directory below those that have been made: it is made too, unless its name is too
long. -/
theorem made_below (askable : Askable path.display) (within : count < path.parts.length)
    (named : path.parts[count] ≠ (".." : Text))
    (nothing : tree.find? (tree.destination (path.upTo (count + 1))) = none)
    (adds : AddsDirectories (tree.destination (path.upTo count)) tree middle)
    (reached : middle.reach (tree.start path) (path.parts.take count) =
      .ok (tree.destination (path.upTo count)))
    (found : middle.find? (tree.destination (path.upTo count)) = some .directory) :
    (∀ display, middle.locate (path.upTo (count + 1)) ≠ .error (.missing display)) ∧
      AddsDirectories (tree.destination (path.upTo (count + 1))) tree
        (FileAction.makeOrKeep (path.upTo (count + 1)) middle).2 ∧
      Made tree path (count + 1) (FileAction.makeOrKeep (path.upTo (count + 1)) middle).1
        (FileAction.makeOrKeep (path.upTo (count + 1)) middle).2 := by
  have last := destination_succ within named tree
  have located := adds.locate askable (count + 1)
  have behind := reach_concat path.parts[count] reached
  rw [← take_succ_parts within, reach, found] at behind
  dsimp only at behind
  by_cases long : isTooLong path.parts[count] = true
  · rw [if_pos long] at behind
    rw [behind] at located
    refine ⟨by simp [located, Except.mapError, Obstacle.fault], ?_⟩
    rw [FileAction.makeOrKeep, located, last]
    exact ⟨adds.further (List.prefix_append _ _), .long (Nat.le_refl _) behind⟩
  · have free : middle.find? (tree.destination (path.upTo (count + 1))) = none := by
      obtain same | ⟨-, -, way⟩ := adds.found (tree.destination (path.upTo (count + 1)))
      · rw [same, nothing]
      · have shorter := way.length_le
        rw [last, List.length_append, List.length_singleton] at shorter
        omega
    rw [if_neg long, Location.follow, if_neg named, ← last, reach] at behind
    rw [behind] at located
    have keeps : FileAction.makeOrKeep (path.upTo (count + 1)) middle =
        (.ok (), middle.put (tree.destination (path.upTo (count + 1))) .directory) := by
      rw [FileAction.makeOrKeep, located]
      simp only [Except.mapError, free]
    have more := adds.put (Utf8.canonicalName path.parts[count]) found (last ▸ free)
    have below : tree.destination (path.upTo (count + 1)) ≠ [] := by simp [last]
    rw [← last] at more
    rw [keeps]
    refine ⟨by simp [located, Except.mapError], more, .made ?_ ?_⟩
    · rw [(extends_put_directory below free).reach (by simp [behind]), behind]
    · rw [find?_put middle below, if_pos rfl]

/-- Making the directory with the first parts of a path and its parents comes to one of these
ends. By induction on the number of parts: a part is tried again only when the directory above
it is there. -/
theorem makeDirectoriesUpTo_made (wellFormed : tree.WellFormed) (askable : Askable path.display)
    (dots : tree.DotsResolved path) (within : count ≤ path.parts.length) :
    AddsDirectories (tree.destination (path.upTo count)) tree
        ((FileAction.makeDirectoriesUpTo path count).on tree).2 ∧
      Made tree path count ((FileAction.makeDirectoriesUpTo path count).on tree).1
        ((FileAction.makeDirectoriesUpTo path count).on tree).2 := by
  induction count with
  | zero => exact made_of_settled wellFormed askable (by simp [reach])
  | succ count inductionHypothesis =>
    by_cases missing :
        tree.reach (tree.start path) (path.parts.take (count + 1)) = .error .missing
    · have named := dots.not_dots within missing
      obtain ⟨adds, comes⟩ := inductionHypothesis (Nat.le_of_succ_le within)
      have located := (AddsDirectories.refl wellFormed []).locate askable (count + 1)
      rw [missing] at located
      have retries := FileAction.makeDirectoriesUpTo_missing located
      generalize (FileAction.makeDirectoriesUpTo path count).on tree = ran at *
      obtain ⟨outcome, middle⟩ := ran
      cases comes with
      | made reached found =>
        obtain ⟨settled, ends⟩ := made_below askable within named
          (find?_of_missing wellFormed dots missing) adds reached found
        rw [retries settled]
        exact ends
      | taken reached found =>
        rw [take_succ_parts within, reach_concat _ reached, reach, found] at missing
        cases missing
      | blocked stopped =>
        rw [take_succ_parts within, reach_stopped _ stopped] at missing
        cases missing
      | @long _ shorter above stopped =>
        have again := adds.locate askable (count + 1)
        rw [reach_take_stopped (Nat.le_succ_of_le above) stopped] at again
        rw [retries (by rw [again]; simp [Except.mapError, Obstacle.fault])]
        rw [destination_succ within named tree]
        exact ⟨adds.further (List.prefix_append _ _), .long (Nat.le_succ_of_le above) stopped⟩
    · exact made_of_settled wellFormed askable missing

/-- The same answer, up to which path is said to have a name that is too long. -/
inductive Alike : Except FileFault Unit → Except FileFault Unit → Prop where
  | same (answer : Except FileFault Unit) : Alike answer answer
  | long (display other : Text) :
      Alike (.error (.nameTooLong display)) (.error (.nameTooLong other))

/-- What was made stays made, and what stood in the way still does: doing it again gives the
same answer and changes nothing, also when the tree has grown since. -/
theorem Made.again {answer : Except FileFault Unit} (comes : Made tree path count answer after)
    (askable : Askable path.display) (working : after.workingDirectory = tree.workingDirectory)
    (growth : after.Extends later) :
    ∃ next, (FileAction.makeDirectoriesUpTo path count).on later = (next, later) ∧
      Alike answer next := by
  have located : later.locate (path.upTo count) =
      (later.reach (tree.start path) (path.parts.take count)).mapError
        (·.fault (path.upTo count).display) := by
    rw [locate_askable (askable.upTo count), growth.start]
    unfold start
    rw [working]
    rfl
  cases comes with
  | made reached found =>
    rw [growth.reach (by simp [reached]), reached] at located
    have located : later.locate (path.upTo count) = .ok _ := located
    rw [FileAction.makeDirectoriesUpTo_settled (by simp [located]), FileAction.makeOrKeep, located]
    dsimp only
    rw [growth.directories _ found]
    exact ⟨_, rfl, .same _⟩
  | taken reached found =>
    obtain ⟨others, held⟩ := growth.files _ _ found
    rw [growth.reach (by simp [reached]), reached] at located
    have located : later.locate (path.upTo count) = .ok _ := located
    rw [FileAction.makeDirectoriesUpTo_settled (by simp [located]), FileAction.makeOrKeep, located]
    dsimp only
    rw [held]
    exact ⟨_, rfl, .same _⟩
  | blocked stopped =>
    rw [growth.reach (by simp [stopped]), stopped] at located
    have located : later.locate (path.upTo count) = .error (.notDirectory _) := located
    rw [FileAction.makeDirectoriesUpTo_settled (by simp [located]), FileAction.makeOrKeep, located]
    exact ⟨_, rfl, .same _⟩
  | @long _ shorter above stopped =>
    have stopped := reach_take_stopped above stopped
    rw [growth.reach (by simp [stopped]), stopped] at located
    have located : later.locate (path.upTo count) = .error (.nameTooLong _) := located
    rw [FileAction.makeDirectoriesUpTo_settled (by simp [located]), FileAction.makeOrKeep, located]
    exact ⟨_, rfl, .long _ _⟩

/-- A path has all its parts. -/
theorem upTo_length (path : Path) : path.upTo path.parts.length = path := by
  rw [Path.upTo, List.take_length]

/-- A path that cannot be asked about is refused, and nothing is made. -/
theorem makeDirectories_unaskable (unaskable : ¬ Askable path.display) :
    ∃ fault, ∀ tree, (FileAction.makeDirectories path).on tree = (.error fault, tree) := by
  obtain ⟨fault, other, refused⟩ := locate_unaskable unaskable
  refine ⟨fault, fun tree => ?_⟩
  have settled : ∀ display, tree.locate (path.upTo path.parts.length) ≠
      .error (.missing display) := by
    rw [upTo_length, refused]
    intro display same
    exact other display (Except.error.inj same)
  rw [FileAction.makeDirectories, FileAction.makeDirectoriesUpTo_settled settled, upTo_length,
    FileAction.makeOrKeep, refused]

/-- A path that can be asked about: nothing is new but directories on the way, and one of the ends
is come to. -/
theorem makeDirectories_made (wellFormed : tree.WellFormed) (askable : Askable path.display)
    (dots : tree.DotsResolved path) :
    AddsDirectories (tree.destination path) tree ((FileAction.makeDirectories path).on tree).2 ∧
      Made tree path path.parts.length ((FileAction.makeDirectories path).on tree).1
        ((FileAction.makeDirectories path).on tree).2 := by
  have comes := makeDirectoriesUpTo_made wellFormed askable dots (Nat.le_refl path.parts.length)
  rwa [upTo_length] at comes

/-- If the directory is made, the path leads to it. -/
theorem makeDirectories_ok (wellFormed : tree.WellFormed) (dots : tree.DotsResolved path)
    (ran : (FileAction.makeDirectories path).on tree = (.ok (), after)) :
    Askable path.display ∧ AddsDirectories (tree.destination path) tree after ∧
      after.reach (tree.start path) path.parts = .ok (tree.destination path) ∧
      after.find? (tree.destination path) = some .directory := by
  by_cases askable : Askable path.display
  · obtain ⟨adds, comes⟩ := makeDirectories_made wellFormed askable dots
    rw [ran] at adds comes
    cases comes with
    | made reached found =>
      rw [List.take_length, upTo_length] at reached
      rw [upTo_length] at found
      exact ⟨askable, adds, reached, found⟩
  · obtain ⟨fault, refused⟩ := makeDirectories_unaskable askable
    rw [refused] at ran
    cases ran

end FileTree

end SchemaForge
