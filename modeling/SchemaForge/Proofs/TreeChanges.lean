import SchemaForge.Proofs.DirectoryCreation

/-!
# What actions change in a tree

An action replaces the bytes of some files and adds some nodes. `Changes` says so by the list of
what is written, in order, and by a condition on what is new besides; everything else is found as
before. Changes one behind the other are changes, with the lists one behind the other.

Of several writes to one file the last one counts, so writing everything once more to a tree that
holds the last bytes already leaves it as it is.
-/

namespace SchemaForge

/-- Files with the bytes that are written to them, in order. -/
abbrev Writes := List (Location × List UInt8)

/-- The bytes that are written to a file last. -/
def Writes.last? : Writes → Location → Option (List UInt8)
  | [], _ => none
  | (written, bytes) :: writes, location =>
    (last? writes location).or (if written = location then some bytes else none)

namespace Writes

variable {writes more : Writes} {location : Location} {bytes : List UInt8}

/-- Later writes count before earlier ones. -/
theorem last?_append (writes more : Writes) (location : Location) :
    last? (writes ++ more) location = (last? more location).or (last? writes location) := by
  induction writes with
  | nil => simp [last?]
  | cons write writes inductionHypothesis =>
    rw [List.cons_append, last?, last?, inductionHypothesis, Option.or_assoc]

/-- Something is written to a file exactly if it is listed. -/
theorem last?_eq_none : last? writes location = none ↔ ∀ write ∈ writes, write.1 ≠ location := by
  induction writes with
  | nil => simp [last?]
  | cons write writes inductionHypothesis =>
    rw [last?, Option.or_eq_none_iff, inductionHypothesis, List.forall_mem_cons, and_comm]
    simp

/-- What is written last is written. -/
theorem mem_of_last? (last : last? writes location = some bytes) : (location, bytes) ∈ writes := by
  induction writes with
  | nil => cases last
  | cons write writes inductionHypothesis =>
    rw [last?] at last
    cases later : last? writes location with
    | some others =>
      rw [later] at last inductionHypothesis
      exact List.mem_cons_of_mem _ (inductionHypothesis last)
    | none =>
      rw [later, Option.none_or] at last
      split at last
      · next here =>
        rw [← here, ← Option.some.inj last]
        exact List.mem_cons_self
      · cases last

end Writes

namespace FileTree

variable {tree before middle after : FileTree} {writes more : Writes} {location : Location}

/-! ## Overwritten files -/

/-- The tree with bytes written to files. -/
def overwrite (tree : FileTree) (writes : Writes) : FileTree :=
  writes.foldl (fun tree write => tree.put write.1 (.file write.2)) tree

/-- Overwriting in two stretches. -/
theorem overwrite_append (tree : FileTree) (writes more : Writes) :
    tree.overwrite (writes ++ more) = (tree.overwrite writes).overwrite more :=
  List.foldl_append

/-- All that is written to are files already. -/
def HasFiles (tree : FileTree) (writes : Writes) : Prop :=
  ∀ write ∈ writes, ∃ bytes, tree.find? write.1 = some (.file bytes)

/-- The root is no file. -/
theorem ne_root_of_file {bytes : List UInt8} (found : tree.find? location = some (.file bytes)) :
    location ≠ [] := by
  rintro rfl
  cases found

/-- A file stays one, and nothing else is touched. -/
theorem extends_put_existing {others : List UInt8}
    (found : tree.find? location = some (.file others)) (bytes : List UInt8) :
    tree.Extends (tree.put location (.file bytes)) :=
  extends_put_file (ne_root_of_file found) (by simp [found]) bytes

/-- Files that are there are there in a tree that has grown. -/
theorem HasFiles.mono (files : before.HasFiles writes) (growth : before.Extends after) :
    after.HasFiles writes := by
  intro write member
  obtain ⟨bytes, found⟩ := files write member
  exact growth.files _ _ found

/-- Overwriting keeps directories and files what they are. -/
theorem HasFiles.growth (files : tree.HasFiles writes) : tree.Extends (tree.overwrite writes) := by
  induction writes generalizing tree with
  | nil => exact .refl tree
  | cons write writes inductionHypothesis =>
    obtain ⟨⟨bytes, found⟩, others⟩ := List.forall_mem_cons.mp files
    have step := extends_put_existing found write.2
    exact step.trans (inductionHypothesis (HasFiles.mono others step))

/-- What is found after overwriting. -/
theorem HasFiles.find?_overwrite (files : tree.HasFiles writes) (location : Location) :
    (tree.overwrite writes).find? location =
      ((Writes.last? writes location).map FileNode.file).or (tree.find? location) := by
  induction writes generalizing tree with
  | nil => rfl
  | cons write writes inductionHypothesis =>
    obtain ⟨⟨bytes, found⟩, others⟩ := List.forall_mem_cons.mp files
    have step := extends_put_existing found write.2
    have rest := inductionHypothesis (HasFiles.mono others step)
    change ((tree.put write.1 (.file write.2)).overwrite writes).find? location = _
    rw [rest, Writes.last?, find?_put tree (ne_root_of_file found)]
    cases Writes.last? writes location with
    | some later => rfl
    | none =>
      by_cases here : write.1 = location
      · rw [if_pos here, if_pos here.symm]
        rfl
      · rw [if_neg here, if_neg (fun same => here same.symm)]
        rfl

/-- Putting a node where there is one keeps the locations that are held. -/
theorem locations_put (wellFormed : tree.WellFormed) (below : location ≠ [])
    {held : FileNode} (found : tree.find? location = some held) (node : FileNode) :
    (tree.put location node).nodes.map Prod.fst = tree.nodes.map Prod.fst := by
  have member := wellFormed.mem_nodes.mpr ⟨below, found⟩
  have taken : tree.nodes.any (fun held => decide (held.1 = location)) = true :=
    List.any_eq_true.mpr ⟨_, member, decide_eq_true rfl⟩
  unfold put
  rw [if_pos taken, List.map_map]
  refine List.map_congr_left ?_
  intro entry _
  by_cases here : entry.1 = location <;> simp [here]

/-- Trees with the same locations, in the same order, and the same nodes there are the same. -/
theorem WellFormed.ext {other : FileTree} (wellFormed : tree.WellFormed)
    (wellFormedOther : other.WellFormed) (working : other.workingDirectory = tree.workingDirectory)
    (locations : other.nodes.map Prod.fst = tree.nodes.map Prod.fst)
    (same : ∀ location, other.find? location = tree.find? location) : other = tree := by
  have nodes : other.nodes = tree.nodes := by
    refine List.ext_getElem ?_ ?_
    · simpa using congrArg List.length locations
    · intro place within withinOther
      have here : (other.nodes[place]).1 = (tree.nodes[place]).1 := by
        have names := List.getElem_of_eq locations (i := place) (by simpa using within)
        simpa using names
      have found : other.find? (other.nodes[place]).1 = some (other.nodes[place]).2 :=
        (wellFormedOther.mem_nodes.mp (List.getElem_mem within)).2
      have foundOther : tree.find? (tree.nodes[place]).1 = some (tree.nodes[place]).2 :=
        (wellFormed.mem_nodes.mp (List.getElem_mem withinOther)).2
      rw [same, here, foundOther] at found
      exact Prod.ext here (Option.some.inj found).symm
  cases other
  cases tree
  cases nodes
  cases working
  rfl

/-- Overwriting keeps the tree one of files that exist, with the same locations. -/
theorem HasFiles.overwritten (files : tree.HasFiles writes) (wellFormed : tree.WellFormed) :
    (tree.overwrite writes).WellFormed ∧
      (tree.overwrite writes).nodes.map Prod.fst = tree.nodes.map Prod.fst := by
  induction writes generalizing tree with
  | nil => exact ⟨wellFormed, rfl⟩
  | cons write writes inductionHypothesis =>
    obtain ⟨⟨bytes, found⟩, others⟩ := List.forall_mem_cons.mp files
    have below := ne_root_of_file found
    have step := extends_put_existing found write.2
    have stays : (tree.put write.1 (.file write.2)).WellFormed := by
      refine wellFormed.put below (wellFormed.find?_dropLast found) ?_
      intro directory
      rw [found] at directory
      cases directory
    obtain ⟨last, locations⟩ := inductionHypothesis (HasFiles.mono others step) stays
    exact ⟨last, locations.trans (locations_put wellFormed below found _)⟩

/-- A tree that holds what is written last is not changed by writing everything once more. -/
theorem overwrite_last (wellFormed : tree.WellFormed)
    (holds : ∀ location bytes, Writes.last? writes location = some bytes →
      tree.find? location = some (.file bytes)) : tree.overwrite writes = tree := by
  have files : tree.HasFiles writes := by
    intro write member
    cases last : Writes.last? writes write.1 with
    | none => exact absurd rfl (Writes.last?_eq_none.mp last write member)
    | some bytes => exact ⟨bytes, holds _ _ last⟩
  obtain ⟨stays, locations⟩ := files.overwritten wellFormed
  refine wellFormed.ext stays files.growth.working locations ?_
  intro location
  rw [files.find?_overwrite]
  cases last : Writes.last? writes location with
  | none => rfl
  | some bytes => exact (holds _ _ last).symm

/-! ## Changes -/

/-- What is written to files and what else is new. Nothing is taken away, and no directory
becomes a file. -/
structure Changes (new : Location → FileNode → Prop) (writes : Writes)
    (before after : FileTree) : Prop where
  /-- The tree is still one of files that exist. -/
  wellFormed : after.WellFormed
  /-- Relative paths start from the same place. -/
  working : after.workingDirectory = before.workingDirectory
  /-- What is written last is there, and where it is written there was no directory. -/
  written : ∀ location bytes, Writes.last? writes location = some bytes →
    after.find? location = some (.file bytes) ∧ before.find? location ≠ some .directory
  /-- Elsewhere there is what was there, or something new in the place of nothing. -/
  elsewhere : ∀ location, Writes.last? writes location = none →
    after.find? location = before.find? location ∨
      (before.find? location = none ∧ ∃ node, after.find? location = some node ∧ new location node)

namespace Changes

variable {new : Location → FileNode → Prop}

/-- Nothing need change. -/
theorem refl (wellFormed : tree.WellFormed) : Changes new [] tree tree :=
  ⟨wellFormed, rfl, (fun _ _ last => nomatch last), fun _ _ => .inl rfl⟩

/-- What is new may be described more widely. -/
theorem mono {other : Location → FileNode → Prop} (changes : Changes new writes before after)
    (wider : ∀ location node, new location node → other location node) :
    Changes other writes before after := by
  refine ⟨changes.wellFormed, changes.working, changes.written, ?_⟩
  intro location unwritten
  obtain same | ⟨nothing, node, found, isNew⟩ := changes.elsewhere location unwritten
  · exact .inl same
  · exact .inr ⟨nothing, node, found, wider location node isNew⟩

/-- What was there and is not written to stays. -/
theorem kept (changes : Changes new writes before after) {node : FileNode}
    (unwritten : Writes.last? writes location = none) (found : before.find? location = some node) :
    after.find? location = some node := by
  obtain same | ⟨nothing, -⟩ := changes.elsewhere location unwritten
  · rw [same, found]
  · rw [nothing] at found
    cases found

/-- Directories stay directories, and files stay files. -/
theorem growth (changes : Changes new writes before after) : before.Extends after := by
  refine ⟨changes.working, ?_, ?_⟩
  · intro location found
    cases last : Writes.last? writes location with
    | some bytes => exact absurd found (changes.written _ _ last).2
    | none => exact changes.kept last found
  · intro location bytes found
    cases last : Writes.last? writes location with
    | some others => exact ⟨others, (changes.written _ _ last).1⟩
    | none => exact ⟨bytes, changes.kept last found⟩

/-- Changes behind changes. -/
theorem trans (first : Changes new writes before middle) (second : Changes new more middle after) :
    Changes new (writes ++ more) before after := by
  refine ⟨second.wellFormed, second.working.trans first.working, ?_, ?_⟩
  · intro location bytes last
    rw [Writes.last?_append] at last
    cases later : Writes.last? more location with
    | some others =>
      rw [later, Option.some_or] at last
      obtain rfl := Option.some.inj last
      obtain ⟨found, free⟩ := second.written _ _ later
      exact ⟨found, fun directory => free (first.growth.directories _ directory)⟩
    | none =>
      rw [later, Option.none_or] at last
      obtain ⟨found, free⟩ := first.written _ _ last
      exact ⟨second.kept later found, free⟩
  · intro location unwritten
    rw [Writes.last?_append, Option.or_eq_none_iff] at unwritten
    obtain same | ⟨nothing, node, found, isNew⟩ := second.elsewhere location unwritten.1
    · rw [same]
      exact first.elsewhere location unwritten.2
    · obtain same | ⟨-, held, foundBefore, -⟩ := first.elsewhere location unwritten.2
      · exact .inr ⟨same.symm.trans nothing, node, found, isNew⟩
      · rw [nothing] at foundBefore
        cases foundBefore

/-- What is written to are files afterwards. -/
theorem hasFiles (changes : Changes new writes before after) : after.HasFiles writes := by
  intro write member
  cases last : Writes.last? writes write.1 with
  | none => exact absurd rfl (Writes.last?_eq_none.mp last write member)
  | some bytes => exact ⟨bytes, (changes.written _ _ last).1⟩

/-- Writing everything once more changes nothing. -/
theorem overwrite (changes : Changes new writes before after) : after.overwrite writes = after :=
  overwrite_last changes.wellFormed fun location bytes last => (changes.written location bytes last).1

/-- Directories on the way to a location are new ones. -/
theorem of_directories {target : Location} (adds : AddsDirectories target before after)
    (isNew : ∀ location, location <+: target → new location .directory) :
    Changes new [] before after := by
  refine ⟨adds.wellFormed, adds.working, (fun _ _ last => nomatch last), ?_⟩
  intro location _
  obtain same | ⟨nothing, found, way⟩ := adds.found location
  · exact .inl same
  · exact .inr ⟨nothing, _, found, isNew location way⟩

/-- One file that is written in a directory. -/
theorem of_put (wellFormed : tree.WellFormed) (below : location ≠ [])
    (parent : tree.find? location.dropLast = some .directory)
    (free : tree.find? location ≠ some .directory) (bytes : List UInt8) :
    Changes new [(location, bytes)] tree (tree.put location (.file bytes)) := by
  have last (other : Location) : Writes.last? [(location, bytes)] other =
      if location = other then some bytes else none := rfl
  refine ⟨wellFormed.put below parent (fun directory => absurd directory free),
    workingDirectory_put _ _ _, ?_, ?_⟩
  · intro other written found
    rw [last] at found
    split at found
    · next here =>
      obtain rfl := Option.some.inj found
      rw [find?_put tree below, if_pos here.symm, ← here]
      exact ⟨rfl, free⟩
    · cases found
  · intro other unwritten
    rw [last] at unwritten
    split at unwritten
    · cases unwritten
    · next apart =>
      rw [find?_put tree below, if_neg (fun same => apart same.symm)]
      exact .inl rfl

/-- A node that is new in a directory. -/
theorem of_new (wellFormed : tree.WellFormed) (below : location ≠ [])
    (parent : tree.find? location.dropLast = some .directory) (free : tree.find? location = none)
    {node : FileNode} (isNew : new location node) :
    Changes new [] tree (tree.put location node) := by
  refine ⟨wellFormed.put below parent (by simp [free]), workingDirectory_put _ _ _,
    (fun _ _ last => nomatch last), ?_⟩
  intro other _
  rw [find?_put tree below]
  split
  · next here =>
    subst here
    exact .inr ⟨free, _, rfl, isNew⟩
  · exact .inl rfl

end Changes

end FileTree

end SchemaForge
