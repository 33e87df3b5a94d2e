import Mathlib.Data.List.Induction
import Mathlib.Data.List.Nodup
import SchemaForge.File.Tree

/-!
# The nodes of a file tree

A tree is known by the nodes that are found in it. What an action does to a tree is said here by
what is found afterwards, so that the list of nodes need not be looked at again.

A tree of files that exists satisfies `WellFormed`: each location is held once, every node lies
in a directory, and so does the place where relative paths start. Actions only ever add nodes
and replace the bytes of files; `Extends` says so. Along it directories stay directories and
files stay files, and every path that could be walked before leads to the same place.

How far a path can be walked does not depend on the spelling that faults name. `reach` is the
walk without it.
-/

namespace SchemaForge

namespace FileTree

variable {tree earlier later : FileTree} {location other : Location}

/-! ## Found nodes -/

/-- The root is a directory. -/
@[simp] theorem find?_root (tree : FileTree) : tree.find? [] = some .directory := rfl

/-- A node below the root is found in the list of nodes. -/
theorem find?_below (tree : FileTree) (below : location ≠ []) :
    tree.find? location =
      (tree.nodes.find? (fun node => decide (node.1 = location))).map Prod.snd := by
  have given : location.isEmpty = false := by simpa using below
  rw [find?, given]
  rfl

/-- A node that is put is found at its location, and every other node is found as before. -/
theorem find?_put (tree : FileTree) (below : location ≠ []) (node : FileNode)
    (other : Location) :
    (tree.put location node).find? other =
      if other = location then some node else tree.find? other := by
  by_cases top : other = []
  · rw [top, if_neg below.symm]
    rfl
  · rw [find?_below _ top, find?_below _ top]
    unfold put
    split
    · next held =>
      have test : (fun held : Location × FileNode => decide (held.1 = other)) ∘
          (fun held => if held.1 = location then (location, node) else held) =
            fun held => decide (held.1 = other) := by
        funext held
        by_cases here : held.1 = location <;> simp [here]
      dsimp only
      rw [List.find?_map, test]
      by_cases same : other = location
      · rw [if_pos same, same]
        obtain ⟨entry, found⟩ := Option.isSome_iff_exists.mp
          (List.find?_isSome.mpr (List.any_eq_true.mp held))
        have here : entry.1 = location := by simpa using List.find?_some found
        simp [found, here]
      · rw [if_neg same]
        cases found : tree.nodes.find? (fun held => decide (held.1 = other)) with
        | none => rfl
        | some entry =>
          have there : entry.1 = other := by simpa using List.find?_some found
          simp [there, same]
    · next absent =>
      have none : tree.nodes.find? (fun held => decide (held.1 = location)) = none := by
        rw [List.find?_eq_none]
        intro held member here
        exact absent (List.any_eq_true.mpr ⟨held, member, here⟩)
      dsimp only
      rw [List.find?_append]
      by_cases same : other = location
      · simp [same, none]
      · have apart : ¬ location = other := fun same' => same same'.symm
        cases found : tree.nodes.find? (fun held => decide (held.1 = other)) <;>
          simp [same, apart]

/-- Putting a node keeps where relative paths start. -/
@[simp] theorem workingDirectory_put (tree : FileTree) (location : Location) (node : FileNode) :
    (tree.put location node).workingDirectory = tree.workingDirectory := by
  unfold put
  split <;> rfl

/-- Of two nodes that are put at one location the second stays. -/
theorem put_put (tree : FileTree) (location : Location) (first second : FileNode) :
    (tree.put location first).put location second = tree.put location second := by
  by_cases held : tree.nodes.any (fun held => decide (held.1 = location)) = true
  · have again : (tree.nodes.map (fun held =>
        if held.1 = location then (location, first) else held)).any
          (fun held => decide (held.1 = location)) = true := by
      obtain ⟨entry, member, here⟩ := List.any_eq_true.mp held
      refine List.any_eq_true.mpr ⟨_, List.mem_map_of_mem member, ?_⟩
      have here : entry.1 = location := by simpa using here
      simp [here]
    unfold put
    simp only [held, ↓reduceIte, again, List.map_map]
    congr 1
    refine List.map_congr_left ?_
    intro entry _
    by_cases here : entry.1 = location <;> simp [here]
  · have absent : ∀ entry ∈ tree.nodes, entry.1 ≠ location := by
      intro entry member here
      exact held (List.any_eq_true.mpr ⟨entry, member, by simpa using here⟩)
    have kept : tree.nodes.map (fun held =>
        if held.1 = location then (location, second) else held) = tree.nodes := by
      refine (List.map_congr_left ?_).trans (List.map_id _)
      intro entry member
      rw [if_neg (absent entry member)]
      rfl
    unfold put
    simp [held, kept]

/-! ## Well-formed trees -/

/-- What is true of files and directories that exist. -/
structure WellFormed (tree : FileTree) : Prop where
  /-- Each location is held once. -/
  distinct : (tree.nodes.map Prod.fst).Nodup
  /-- The root is not held, it is always there. -/
  belowRoot : ∀ node ∈ tree.nodes, node.1 ≠ []
  /-- Every node lies in a directory. -/
  inDirectory : ∀ node ∈ tree.nodes, tree.find? node.1.dropLast = some .directory
  /-- Relative paths start from a directory. -/
  working : tree.find? tree.workingDirectory = some .directory

/-- Whether this is true of a tree can be decided. -/
instance (tree : FileTree) : Decidable tree.WellFormed :=
  decidable_of_iff ((tree.nodes.map Prod.fst).Nodup ∧ (∀ node ∈ tree.nodes, node.1 ≠ []) ∧
      (∀ node ∈ tree.nodes, tree.find? node.1.dropLast = some .directory) ∧
      tree.find? tree.workingDirectory = some .directory)
    ⟨fun ⟨distinct, belowRoot, inDirectory, working⟩ =>
        ⟨distinct, belowRoot, inDirectory, working⟩,
      fun ⟨distinct, belowRoot, inDirectory, working⟩ =>
        ⟨distinct, belowRoot, inDirectory, working⟩⟩

/-- The nodes that are held are those that are found below the root. -/
theorem WellFormed.mem_nodes (wellFormed : tree.WellFormed) {node : FileNode} :
    (location, node) ∈ tree.nodes ↔ location ≠ [] ∧ tree.find? location = some node := by
  constructor
  · intro member
    have below := wellFormed.belowRoot _ member
    refine ⟨below, ?_⟩
    obtain ⟨held, found⟩ : ∃ held,
        tree.nodes.find? (fun held => decide (held.1 = location)) = some held :=
      Option.isSome_iff_exists.mp (List.find?_isSome.mpr ⟨_, member, decide_eq_true rfl⟩)
    have here : held.1 = location := by simpa using List.find?_some found
    have same : held = (location, node) :=
      List.inj_on_of_nodup_map wellFormed.distinct (List.mem_of_find?_eq_some found) member here
    rw [find?_below tree below, found, same]
    rfl
  · rintro ⟨below, found⟩
    rw [find?_below tree below, Option.map_eq_some_iff] at found
    obtain ⟨held, found, rfl⟩ := found
    have here : held.1 = location := by simpa using List.find?_some found
    rw [← here]
    exact List.mem_of_find?_eq_some found

/-- What a node lies in is a directory. -/
theorem WellFormed.find?_dropLast (wellFormed : tree.WellFormed) {node : FileNode}
    (found : tree.find? location = some node) :
    tree.find? location.dropLast = some .directory := by
  by_cases top : location = []
  · rw [top]
    rfl
  · exact wellFormed.inDirectory _ (wellFormed.mem_nodes.mpr ⟨top, found⟩)

/-- Everything above a node is a directory. -/
theorem WellFormed.find?_above (wellFormed : tree.WellFormed) {below : List Text}
    {node : FileNode} (found : tree.find? (location ++ below) = some node) (some : below ≠ []) :
    tree.find? location = .some .directory := by
  induction below using List.reverseRecOn generalizing node with
  | nil => exact absurd rfl some
  | append_singleton names name inductionHypothesis =>
    have parent := wellFormed.find?_dropLast found
    rw [← List.append_assoc, List.dropLast_concat] at parent
    cases names with
    | nil => simpa using parent
    | cons first others => exact inductionHypothesis parent (List.cons_ne_nil first others)

/-- A node may be put where it lies in a directory, as long as no file takes the place of a
directory. -/
theorem WellFormed.put (wellFormed : tree.WellFormed) (below : location ≠ [])
    (parent : tree.find? location.dropLast = some .directory) {node : FileNode}
    (kept : tree.find? location = some .directory → node = .directory) :
    (tree.put location node).WellFormed := by
  have directories : ∀ other, tree.find? other = some .directory →
      (tree.put location node).find? other = some .directory := by
    intro other found
    rw [find?_put tree below]
    split
    · next same => rw [kept (same ▸ found)]
    · exact found
  have listed : ∀ entry ∈ (tree.put location node).nodes, entry.1 = location ∨ entry ∈ tree.nodes := by
    intro entry member
    unfold FileTree.put at member
    split at member
    · obtain ⟨held, listed, rfl⟩ := List.mem_map.mp member
      by_cases here : held.1 = location
      · simp [here]
      · simp [here, listed]
    · obtain listed | new := List.mem_append.mp member
      · exact .inr listed
      · rw [List.mem_singleton.mp new]
        exact .inl rfl
  refine ⟨?_, ?_, ?_, ?_⟩
  · unfold FileTree.put
    split
    · have names : (tree.nodes.map (fun held =>
          if held.1 = location then (location, node) else held)).map Prod.fst =
            tree.nodes.map Prod.fst := by
        rw [List.map_map]
        refine List.map_congr_left ?_
        intro held _
        by_cases here : held.1 = location <;> simp [here]
      rw [names]
      exact wellFormed.distinct
    · next absent =>
      rw [List.map_append, List.nodup_append]
      refine ⟨wellFormed.distinct, List.nodup_singleton _, ?_⟩
      intro held member new listed same
      rw [List.mem_singleton.mp listed] at same
      obtain ⟨entry, held, rfl⟩ := List.mem_map.mp member
      exact absent (List.any_eq_true.mpr ⟨entry, held, by simpa using same⟩)
  · intro entry member
    obtain here | held := listed entry member
    · rw [here]
      exact below
    · exact wellFormed.belowRoot entry held
  · intro entry member
    obtain here | held := listed entry member
    · rw [here]
      exact directories _ parent
    · exact directories _ (wellFormed.inDirectory entry held)
  · rw [workingDirectory_put]
    exact directories _ wellFormed.working

/-! ## Trees that grow -/

/-- A tree in which every directory and every file of another is still one. Files may have other
bytes, and there may be more of either. -/
structure Extends (earlier later : FileTree) : Prop where
  /-- Relative paths start from the same place. -/
  working : later.workingDirectory = earlier.workingDirectory
  /-- Directories stay directories. -/
  directories : ∀ location, earlier.find? location = some .directory →
    later.find? location = some .directory
  /-- Files stay files. -/
  files : ∀ location bytes, earlier.find? location = some (.file bytes) →
    ∃ others, later.find? location = some (.file others)

/-- Every tree extends itself. -/
theorem Extends.refl (tree : FileTree) : tree.Extends tree :=
  ⟨rfl, fun _ found => found, fun _ bytes found => ⟨bytes, found⟩⟩

/-- What extends a tree that extends another extends that one too. -/
theorem Extends.trans {last : FileTree} (first : earlier.Extends later)
    (second : later.Extends last) : earlier.Extends last := by
  refine ⟨second.working.trans first.working, ?_, ?_⟩
  · intro location found
    exact second.directories _ (first.directories _ found)
  · intro location bytes found
    obtain ⟨others, found⟩ := first.files _ _ found
    exact second.files _ _ found

/-- A directory may be put where there is nothing. -/
theorem extends_put_directory (below : location ≠ []) (free : tree.find? location = none) :
    tree.Extends (tree.put location .directory) := by
  refine ⟨workingDirectory_put _ _ _, ?_, ?_⟩
  · intro other found
    rw [find?_put tree below]
    split
    · rfl
    · exact found
  · intro other bytes found
    rw [find?_put tree below]
    split
    · next same =>
      rw [same, free] at found
      cases found
    · exact ⟨bytes, found⟩

/-- A file may be put where there is no directory. -/
theorem extends_put_file (below : location ≠ [])
    (free : tree.find? location ≠ some .directory) (bytes : List UInt8) :
    tree.Extends (tree.put location (.file bytes)) := by
  refine ⟨workingDirectory_put _ _ _, ?_, ?_⟩
  · intro other found
    rw [find?_put tree below]
    split
    · next same => exact absurd (same ▸ found) free
    · exact found
  · intro other held found
    rw [find?_put tree below]
    split
    · exact ⟨bytes, rfl⟩
    · exact ⟨held, found⟩

/-! ## Walking -/

end FileTree

/-- What stops a walk. -/
inductive Obstacle where
  /-- There is nothing. -/
  | missing
  /-- There is a file. -/
  | notDirectory
  /-- A name is too long. -/
  | tooLong
deriving DecidableEq

/-- The fault of a walk that is stopped, under a spelling. -/
def Obstacle.fault (display : Text) : Obstacle → FileFault
  | missing => .missing display
  | notDirectory => .notDirectory display
  | tooLong => .nameTooLong display

/-- Where a part leads from a location. -/
def Location.follow (location : Location) (part : Text) : Location :=
  if part = (".." : Text) then location.dropLast else location ++ [Utf8.canonicalName part]

namespace FileTree

variable {tree earlier later : FileTree} {location target : Location} {parts : List Text}

/-- Walks down from a location, as far as there are directories. -/
def reach (tree : FileTree) : Location → List Text → Except Obstacle Location
  | location, [] => .ok location
  | location, part :: parts =>
    match tree.find? location with
    | none => .error .missing
    | some (.file _) => .error .notDirectory
    | some .directory =>
      if isTooLong part then .error .tooLong else tree.reach (location.follow part) parts

/-- A walk is what can be reached, with faults under a spelling. -/
theorem walk_eq (tree : FileTree) (display : Text) (location : Location) (parts : List Text) :
    tree.walk display location parts = (tree.reach location parts).mapError (·.fault display) := by
  induction parts generalizing location with
  | nil => rfl
  | cons part parts inductionHypothesis =>
    rw [walk, reach]
    cases tree.find? location with
    | none => rfl
    | some node =>
      cases node with
      | file bytes => rfl
      | directory =>
        dsimp only
        by_cases long : isTooLong part = true
        · rw [if_pos long, if_pos long]
          rfl
        · rw [if_neg long, if_neg long, Location.follow]
          split
          · exact inductionHypothesis _
          · exact inductionHypothesis _

/-- A walk that comes to its end has followed its parts. -/
theorem foldl_of_reach (reached : tree.reach location parts = .ok target) :
    parts.foldl Location.follow location = target := by
  induction parts generalizing location with
  | nil => exact Except.ok.inj reached
  | cons part parts inductionHypothesis =>
    rw [reach] at reached
    split at reached
    · cases reached
    · cases reached
    · split at reached
      · cases reached
      · exact inductionHypothesis reached

/-- A walk in two stretches. -/
theorem reach_append (tree : FileTree) (location : Location) (parts more : List Text) :
    tree.reach location (parts ++ more) =
      tree.reach location parts >>= fun middle => tree.reach middle more := by
  induction parts generalizing location with
  | nil => rfl
  | cons part parts inductionHypothesis =>
    rw [List.cons_append, reach, reach]
    cases tree.find? location with
    | none => rfl
    | some node =>
      cases node with
      | file bytes => rfl
      | directory =>
        dsimp only
        split
        · rfl
        · exact inductionHypothesis _

/-- One more part behind a walk that comes to its end. -/
theorem reach_concat (part : Text) (reached : tree.reach location parts = .ok target) :
    tree.reach location (parts ++ [part]) = tree.reach target [part] := by
  rw [reach_append, reached]
  rfl

/-- A walk that is stopped goes no further. -/
theorem reach_stopped {obstacle : Obstacle} (more : List Text)
    (stopped : tree.reach location parts = .error obstacle) :
    tree.reach location (parts ++ more) = .error obstacle := by
  rw [reach_append, stopped]
  rfl

/-- A tree that grows keeps every walk, unless it was stopped because there was nothing. -/
theorem Extends.reach (growth : earlier.Extends later)
    (settled : earlier.reach location parts ≠ .error .missing) :
    later.reach location parts = earlier.reach location parts := by
  induction parts generalizing location with
  | nil => rfl
  | cons part parts inductionHypothesis =>
    rw [FileTree.reach] at settled ⊢
    rw [FileTree.reach]
    cases found : earlier.find? location with
    | none =>
      rw [found] at settled
      exact absurd rfl settled
    | some node =>
      rw [found] at settled
      cases node with
      | file bytes =>
        obtain ⟨others, found⟩ := growth.files _ _ found
        rw [found]
      | directory =>
        rw [growth.directories _ found]
        dsimp only at settled ⊢
        split
        · rfl
        · next short =>
          rw [if_neg short] at settled
          exact inductionHypothesis settled

/-! ## Locating -/

/-- The node at a path that is located. -/
theorem nodeAt?_of_ok {path : Path} (located : tree.locate path = .ok location) :
    tree.nodeAt? path = tree.find? location := by
  rw [nodeAt?, located]

/-- There is no node at a path that is not located. -/
theorem nodeAt?_of_error {path : Path} {fault : FileFault}
    (failed : tree.locate path = .error fault) : tree.nodeAt? path = none := by
  rw [nodeAt?, failed]

/-- Where the walk along a path starts. -/
def start (tree : FileTree) (path : Path) : Location :=
  if path.isAbsolute then [] else tree.workingDirectory

/-- Where a path leads, whether or not there are directories on the way. -/
def destination (tree : FileTree) (path : Path) : Location :=
  path.parts.foldl Location.follow (tree.start path)

/-- A walk starts from a directory. -/
theorem WellFormed.find?_start (wellFormed : tree.WellFormed) (path : Path) :
    tree.find? (tree.start path) = some .directory := by
  unfold start
  split
  · rfl
  · exact wellFormed.working

/-- A tree that grows starts from the same place. -/
theorem Extends.start (growth : earlier.Extends later) (path : Path) :
    later.start path = earlier.start path := by
  unfold FileTree.start
  rw [growth.working]

/-- A spelling that the file system can be asked about: it has bytes, not too many, and none is
zero. -/
def Askable (display : Text) : Prop :=
  ∃ bytes, Utf8.encodeName display = .ok bytes ∧
    Text.contains (CodePoint.ofNat 0) display = false ∧ bytes.length ≤ maxPathLength

/-- A path that can be asked about is located by walking. -/
theorem locate_askable {path : Path} (askable : Askable path.display) (tree : FileTree) :
    tree.locate path =
      (tree.reach (tree.start path) path.parts).mapError (·.fault path.display) := by
  obtain ⟨bytes, encoded, zeroless, short⟩ := askable
  unfold locate locateAs
  simp only [encoded, zeroless, Bool.false_eq_true, ↓reduceIte, Nat.not_lt.mpr short]
  exact tree.walk_eq path.display _ path.parts

/-- Any other path is refused, whatever files there are. -/
theorem locate_unaskable {path : Path} (unaskable : ¬ Askable path.display) :
    ∃ fault, (∀ display, fault ≠ .missing display) ∧ ∀ tree : FileTree,
      tree.locate path = .error fault := by
  unfold locate locateAs
  cases encoded : Utf8.encodeName path.display with
  | error fault => exact ⟨.unencodable fault, (by simp), fun _ => rfl⟩
  | ok bytes =>
    cases zero : Text.contains (CodePoint.ofNat 0) path.display with
    | true => exact ⟨.embeddedNull, (by simp), fun _ => rfl⟩
    | false =>
      have long : maxPathLength < bytes.length := Nat.lt_of_not_le fun short =>
        unaskable ⟨bytes, encoded, zero, short⟩
      refine ⟨.nameTooLong path.display, (by simp), fun tree => ?_⟩
      simp [long]

/-- A path that is located can be walked. -/
theorem reach_of_locate {path : Path} (located : tree.locate path = .ok target) :
    tree.reach (tree.start path) path.parts = .ok target := by
  by_cases askable : Askable path.display
  · rw [locate_askable askable] at located
    cases reached : tree.reach (tree.start path) path.parts with
    | error obstacle =>
      rw [reached] at located
      cases located
    | ok found =>
      rw [reached] at located
      obtain rfl := Except.ok.inj located
      rfl
  · obtain ⟨fault, -, refused⟩ := locate_unaskable askable
    rw [refused] at located
    cases located

/-- A path that is located leads there. -/
theorem destination_of_locate {path : Path} (located : tree.locate path = .ok target) :
    tree.destination path = target := foldl_of_reach (reach_of_locate located)

end FileTree

end SchemaForge
