import SchemaForge.File.SchemaFile
import SchemaForge.Proofs.DirectoryCreation
import SchemaForge.Proofs.EntryOrder

/-!
# Schemas that are found

A search goes through the nodes of a tree in whatever order they are held, keeps the files that
are schemas, and sorts them part by part. The order is total, and no file is found twice; so
what is found depends on the files below the directory and on nothing else.

A file that is found can be reached under the path that is given for it. This needs the names of
the tree to be names that a path can have: parts that say something, short enough, and spelled
in the one way that stands for their bytes.
-/

namespace SchemaForge

/-! ## The order of paths -/

/-- The order of texts has no ties. -/
theorem Text.le_antisymm {text other : Text} (left : Text.le text other = true)
    (right : Text.le other text = true) : text = other := by
  obtain before | same | after := Before.trichotomy text other
  · exact absurd before ((le_iff other text).mp right)
  · exact same
  · exact absurd after ((le_iff text other).mp left)

namespace Path

/-- Of two lists of parts one may come first. -/
theorem partsLe_total (parts others : List Text) :
    (partsLe parts others || partsLe others parts) = true := by
  induction parts generalizing others with
  | nil => rfl
  | cons part parts inductionHypothesis =>
    cases others with
    | nil => simp [partsLe]
    | cons other others =>
      by_cases same : part = other
      · simpa [partsLe, same] using inductionHypothesis others
      · have apart : ¬ other = part := fun equal => same equal.symm
        simpa [partsLe, same, apart] using Text.le_total part other

/-- The order of parts is transitive. -/
theorem partsLe_trans {first second third : List Text} (left : partsLe first second = true)
    (right : partsLe second third = true) : partsLe first third = true := by
  induction first generalizing second third with
  | nil => rfl
  | cons part parts inductionHypothesis =>
    cases second with
    | nil => cases left
    | cons middle middles =>
      cases third with
      | nil => cases right
      | cons last lasts =>
        rw [partsLe] at left right ⊢
        by_cases same : part = middle
        · rw [if_pos same] at left
          rw [← same] at right
          split at right
          · next equal =>
            rw [if_pos equal]
            exact inductionHypothesis left right
          · next apart =>
            rw [if_neg apart]
            exact right
        · rw [if_neg same] at left
          split at right
          · next equal => rwa [← equal, if_neg same]
          · have apart : part ≠ last := by
              rintro rfl
              exact same (Text.le_antisymm left right)
            rw [if_neg apart]
            exact Text.le_trans left right

/-- The order of parts has no ties. -/
theorem partsLe_antisymm {parts others : List Text} (left : partsLe parts others = true)
    (right : partsLe others parts = true) : parts = others := by
  induction parts generalizing others with
  | nil =>
    cases others with
    | nil => rfl
    | cons => cases right
  | cons part parts inductionHypothesis =>
    cases others with
    | nil => cases left
    | cons other others =>
      rw [partsLe] at left right
      by_cases same : part = other
      · rw [if_pos same] at left
        rw [if_pos same.symm] at right
        rw [same, inductionHypothesis left right]
      · rw [if_neg same] at left
        rw [if_neg (fun equal => same equal.symm)] at right
        exact absurd (Text.le_antisymm left right) same

end Path

/-! ## Files below a directory -/

/-- A name that a file or a directory can have, in the one spelling that stands for its bytes. -/
structure FileName (name : Text) : Prop where
  /-- It is not empty. -/
  some : name ≠ []
  /-- It is on one level. -/
  noSlash : CodePoint.ofChar '/' ∉ name
  /-- It is not the directory itself. -/
  noDot : name ≠ ("." : Text)
  /-- It is not the directory above. -/
  noDots : name ≠ (".." : Text)
  /-- It is not too long. -/
  short : FileTree.isTooLong name = false
  /-- It is what its bytes are read as. -/
  canonical : Utf8.canonicalName name = name

/-- Whether a name is such can be decided. -/
instance (name : Text) : Decidable (FileName name) :=
  decidable_of_iff (name ≠ [] ∧ CodePoint.ofChar '/' ∉ name ∧ name ≠ ("." : Text) ∧
      name ≠ (".." : Text) ∧ FileTree.isTooLong name = false ∧ Utf8.canonicalName name = name)
    ⟨fun ⟨given, noSlash, noDot, noDots, short, canonical⟩ =>
        ⟨given, noSlash, noDot, noDots, short, canonical⟩,
      fun ⟨given, noSlash, noDot, noDots, short, canonical⟩ =>
        ⟨given, noSlash, noDot, noDots, short, canonical⟩⟩

namespace FileTree

variable {tree other : FileTree} {directory : Location} {parts : List Text}

/-- The names of the files and directories in a tree are such. -/
def Named (tree : FileTree) : Prop := ∀ node ∈ tree.nodes, ∀ name ∈ node.1, FileName name

/-- Whether they are can be decided. -/
instance (tree : FileTree) : Decidable tree.Named :=
  inferInstanceAs (Decidable (∀ node ∈ tree.nodes, ∀ name ∈ node.1, FileName name))

/-- The names on the way to a node are such. -/
theorem Named.of_find? (named : tree.Named) (wellFormed : tree.WellFormed) {node : FileNode}
    {location : Location} (found : tree.find? location = some node) :
    ∀ name ∈ location, FileName name := by
  intro name member
  exact named _ (wellFormed.mem_nodes.mpr ⟨List.ne_nil_of_mem member, found⟩) name member

/-- One more name behind a walk that ends at a directory. -/
theorem reach_name {location : Location} {name : Text} (isName : FileName name)
    (reached : tree.reach location parts = .ok directory)
    (found : tree.find? directory = some .directory) :
    tree.reach location (parts ++ [name]) = .ok (directory ++ [name]) := by
  rw [reach_concat name reached, reach, found]
  dsimp only
  rw [isName.short, Location.follow, if_neg isName.noDots, isName.canonical]
  rfl

/-- What lies below a location can be reached from it. -/
theorem reach_below (wellFormed : tree.WellFormed) {location : Location} {node : FileNode}
    (names : ∀ part ∈ parts, FileName part)
    (found : tree.find? (location ++ parts) = some node) :
    tree.reach location parts = .ok (location ++ parts) := by
  induction parts generalizing location with
  | nil => simp [reach]
  | cons part parts inductionHypothesis =>
    rw [List.forall_mem_cons] at names
    have above := wellFormed.find?_above found (List.cons_ne_nil part parts)
    have further : tree.find? ((location ++ [part]) ++ parts) = some node := by
      rwa [List.append_assoc]
    rw [reach, above]
    dsimp only
    rw [names.1.short, Location.follow, if_neg names.1.noDots, names.1.canonical,
      inductionHypothesis names.2 further, List.append_assoc]
    rfl

/-- The parts that lead from a directory to a node, if it is a file that lies below. -/
def fileBelow? (directory : Location) (node : Location × FileNode) : Option (List Text) :=
  match node with
  | (_, .directory) => none
  | (location, .file _) =>
    if directory.length < location.length && location.take directory.length = directory then
      some (location.drop directory.length)
    else none

/-- The files below a directory, node by node. -/
theorem filesBelow_eq (tree : FileTree) (directory : Location) :
    tree.filesBelow directory = tree.nodes.filterMap (fileBelow? directory) := by
  unfold filesBelow
  congr 1
  funext node
  obtain ⟨location, node⟩ := node
  cases node <;> rfl

/-- The parts lead to the file. -/
theorem fileBelow?_eq_some {node : Location × FileNode} :
    fileBelow? directory node = some parts ↔
      parts ≠ [] ∧ ∃ bytes, node = (directory ++ parts, .file bytes) := by
  obtain ⟨location, node⟩ := node
  cases node with
  | directory => simp [fileBelow?]
  | file bytes =>
    unfold fileBelow?
    dsimp only
    constructor
    · intro kept
      split at kept
      · next below =>
        obtain ⟨longer, front⟩ : directory.length < location.length ∧
            location.take directory.length = directory := by simpa using below
        have whole := List.take_append_drop directory.length location
        rw [front, Option.some.inj kept] at whole
        refine ⟨?_, bytes, by rw [whole]⟩
        rintro rfl
        rw [← whole, List.append_nil] at longer
        exact Nat.lt_irrefl _ longer
      · cases kept
    · rintro ⟨some, others, same⟩
      obtain ⟨rfl, -⟩ := Prod.mk.inj same
      simp [List.length_pos_iff.mpr some]

/-- The files below a directory are those that are found there. -/
theorem mem_filesBelow (wellFormed : tree.WellFormed) :
    parts ∈ tree.filesBelow directory ↔
      parts ≠ [] ∧ ∃ bytes, tree.find? (directory ++ parts) = some (.file bytes) := by
  rw [filesBelow_eq, List.mem_filterMap]
  constructor
  · rintro ⟨node, member, kept⟩
    obtain ⟨some, bytes, rfl⟩ := fileBelow?_eq_some.mp kept
    exact ⟨some, bytes, (wellFormed.mem_nodes.mp member).2⟩
  · rintro ⟨some, bytes, found⟩
    exact ⟨_, wellFormed.mem_nodes.mpr ⟨by simp [some], found⟩,
      fileBelow?_eq_some.mpr ⟨some, bytes, rfl⟩⟩

/-- No file is listed twice. -/
theorem filesBelow_nodup (wellFormed : tree.WellFormed) (directory : Location) :
    (tree.filesBelow directory).Nodup := by
  rw [filesBelow_eq, List.Nodup, List.pairwise_filterMap]
  refine (List.pairwise_map.mp wellFormed.distinct).imp ?_
  intro node next apart names listed others listedNext same
  obtain ⟨-, bytes, rfl⟩ := fileBelow?_eq_some.mp listed
  obtain ⟨-, bytes, rfl⟩ := fileBelow?_eq_some.mp listedNext
  exact apart (by rw [same])

end FileTree

/-! ## Listings -/

namespace SchemaFile

variable {tree other : FileTree} {base : Path} {directory : Location} {depth : Option Nat}
  {parts : List Text}

/-- The listing of a directory has the schemas that are found below it. -/
theorem mem_below (wellFormed : tree.WellFormed) (located : tree.locate base = .ok directory) :
    parts ∈ below tree base depth ↔
      (parts ≠ [] ∧ ∃ bytes, tree.find? (directory ++ parts) = some (.file bytes)) ∧
        isSchemaPath ⟨[], parts⟩ = true ∧ depth.all (fun bound => parts.length ≤ bound) = true := by
  unfold below
  rw [located]
  dsimp only
  rw [List.mem_mergeSort, List.mem_filter, FileTree.mem_filesBelow wellFormed, Bool.and_eq_true]

/-- The listing of a directory is sorted part by part. -/
theorem below_sorted (tree : FileTree) (base : Path) (depth : Option Nat) :
    (below tree base depth).Pairwise (fun earlier later => Path.partsLe earlier later = true) := by
  unfold below
  split
  · exact .nil
  · have transitive (first second third : List Text) (left : Path.partsLe first second = true)
        (right : Path.partsLe second third = true) : Path.partsLe first third = true :=
      Path.partsLe_trans left right
    exact List.pairwise_mergeSort transitive Path.partsLe_total _

/-- Schemas that are held in order are listed as they are held. -/
theorem below_of_sorted (located : tree.locate base = .ok directory)
    (sorted : ((tree.filesBelow directory).filter (fun parts =>
      isSchemaPath ⟨[], parts⟩ && depth.all (fun bound => parts.length ≤ bound))).Pairwise
        (fun earlier later => Path.partsLe earlier later = true)) :
    below tree base depth = (tree.filesBelow directory).filter (fun parts =>
      isSchemaPath ⟨[], parts⟩ && depth.all (fun bound => parts.length ≤ bound)) := by
  unfold below
  rw [located]
  exact List.mergeSort_of_pairwise sorted

/-- The listing of a directory has no schema twice. -/
theorem below_nodup (wellFormed : tree.WellFormed) (base : Path) (depth : Option Nat) :
    (below tree base depth).Nodup := by
  unfold below
  split
  · exact .nil
  · exact ((List.mergeSort_perm _ _).nodup_iff).mpr
      ((FileTree.filesBelow_nodup wellFormed _).filter _)

/-- Listings with the same schemas are the same. -/
theorem below_congr (wellFormed : tree.WellFormed) (wellFormedOther : other.WellFormed)
    (same : ∀ parts, parts ∈ below tree base depth ↔ parts ∈ below other base depth) :
    below tree base depth = below other base depth := by
  have listed := (List.perm_ext_iff_of_nodup (below_nodup wellFormed base depth)
    (below_nodup wellFormedOther base depth)).mpr same
  refine listed.eq_of_pairwise ?_ (below_sorted tree base depth) (below_sorted other base depth)
  intro earlier later _ _ left right
  exact Path.partsLe_antisymm left right

end SchemaFile

end SchemaForge
