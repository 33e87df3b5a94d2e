import SchemaForge.Proofs.PathParts
import SchemaForge.Sink

/-!
# Refusals of the file system

Most faults of a file operation are refusals, and a caller may go on after one. The others are
found before the file system is asked: a path holds the code point zero or a surrogate that
stands for no byte, or a text holds a surrogate. An operation on a path that has bytes, with a
text that has bytes, does no more than refuse.

What is asked of a path is asked of each of its parts. So it holds of every path above it and
of every marker on the way, and one condition on the file of a module covers all that is done
to write it.
-/

namespace SchemaForge

/-! ## Names and texts with bytes -/

/-- A code point that a file name may hold: not zero, and no surrogate but one that stands for
a byte. -/
structure CodePoint.Nameable (c : CodePoint) : Prop where
  /-- It is not zero. -/
  nonzero : c ≠ CodePoint.ofNat 0
  /-- It has bytes, or stands for one. -/
  bytes : Utf8.isEscapedByte c = true ∨ c.isSurrogate = false

/-- The code points of ASCII other than zero are such. -/
theorem CodePoint.nameable_of_ascii {c : CodePoint} (ascii : 0 < c.val ∧ c.val < 0x80) :
    c.Nameable := by
  obtain ⟨positive, ascii⟩ := ascii
  constructor
  · rintro rfl
    exact absurd positive (by decide)
  · refine .inr ?_
    have low : ¬ 0xD800 ≤ c.val := by omega
    simp [isSurrogate, low]

/-- A path all of whose code points a file name may hold. -/
structure Path.Nameable (path : Path) : Prop where
  /-- The root is of such code points. -/
  root : ∀ c ∈ path.root, c.Nameable
  /-- The parts are of such code points. -/
  parts : ∀ part ∈ path.parts, ∀ c ∈ part, c.Nameable

namespace Utf8

/-- A name of such code points has bytes. -/
theorem encodeName_nameable {name : Text} (nameable : ∀ c ∈ name, c.Nameable) :
    ∃ bytes, encodeName name = .ok bytes := by
  have behind (start : Nat) : ∃ bytes, encodeNameFrom start name = .ok bytes := by
    induction name generalizing start with
    | nil => exact ⟨[], rfl⟩
    | cons c rest inductionHypothesis =>
      rw [List.forall_mem_cons] at nameable
      obtain ⟨bytes, encoded⟩ := inductionHypothesis nameable.2 (start + 1)
      rw [encodeNameFrom, encoded]
      obtain escaped | plain := nameable.1.bytes
      · rw [if_pos escaped]
        exact ⟨_, rfl⟩
      · rw [plain]
        split
        · exact ⟨_, rfl⟩
        · exact ⟨_, rfl⟩
  exact behind 0

/-- A text without surrogates has bytes. -/
theorem encode_plain {text : Text} (plain : ∀ c ∈ text, c.isSurrogate = false) :
    ∃ bytes, encode text = .ok bytes := by
  have behind (start : Nat) : ∃ bytes, encodeFrom start text = .ok bytes := by
    induction text generalizing start with
    | nil => exact ⟨[], rfl⟩
    | cons c rest inductionHypothesis =>
      rw [List.forall_mem_cons] at plain
      obtain ⟨bytes, encoded⟩ := inductionHypothesis plain.2 (start + 1)
      rw [encodeFrom, encoded, plain.1]
      exact ⟨_, rfl⟩
  exact behind 0

end Utf8

namespace Path.Nameable

variable {path : Path}

/-- The spelling of such a path is of such code points. -/
theorem display (nameable : path.Nameable) : ∀ c ∈ path.display, c.Nameable := by
  have dot : ∀ c ∈ ("." : Text), 0 < c.val ∧ c.val < 0x80 := by decide
  have slash : ∀ c ∈ ("/" : Text), 0 < c.val ∧ c.val < 0x80 := by decide
  intro c member
  unfold Path.display at member
  split at member
  · exact CodePoint.nameable_of_ascii (dot c member)
  · rw [List.mem_append] at member
    obtain root | joined := member
    · exact nameable.root c root
    · obtain between | ⟨part, listed, inside⟩ := Text.mem_join joined
      · exact CodePoint.nameable_of_ascii (slash c between)
      · exact nameable.parts part listed c inside

/-- So are the paths above it. -/
theorem take (nameable : path.Nameable) (count : Nat) :
    Path.Nameable ⟨path.root, path.parts.take count⟩ :=
  ⟨nameable.root, fun part member => nameable.parts part (List.mem_of_mem_take member)⟩

/-- So is the path without its last part. -/
theorem parent (nameable : path.Nameable) : path.parent.Nameable :=
  ⟨nameable.root, fun part member => nameable.parts part (List.dropLast_subset _ member)⟩

/-- So is a path below it. -/
theorem under {base : Path} (nameable : base.Nameable) (below : path.Nameable) :
    (base.under path).Nameable := by
  cases absolute : path.isAbsolute with
  | true =>
    rw [Path.under_of_absolute absolute]
    exact below
  | false =>
    rw [Path.under_of_relative absolute]
    exact ⟨nameable.root, List.forall_mem_append.mpr ⟨nameable.parts, below.parts⟩⟩

end Path.Nameable

/-! ## Operations that do no more than refuse -/

namespace FileTree

/-- Walking a path fails by a refusal only. -/
theorem walk_refuses (tree : FileTree) {display : Text} {location : Location} {parts : List Text}
    {fault : FileFault} (failed : tree.walk display location parts = .error fault) :
    fault.isRefusal = true := by
  induction parts generalizing location with
  | nil => cases failed
  | cons part parts inductionHypothesis =>
    rw [walk] at failed
    split at failed
    · cases failed
      rfl
    · cases failed
      rfl
    · split at failed
      · cases failed
        rfl
      · split at failed
        · exact inductionHypothesis failed
        · exact inductionHypothesis failed

/-- Locating a path that has bytes fails by a refusal only. -/
theorem locate_refuses (tree : FileTree) {path : Path} (nameable : path.Nameable)
    {fault : FileFault} (failed : tree.locate path = .error fault) : fault.isRefusal = true := by
  obtain ⟨bytes, encoded⟩ := Utf8.encodeName_nameable nameable.display
  have zeroless : Text.contains (CodePoint.ofNat 0) path.display = false := by
    unfold Text.contains
    rw [List.any_eq_false]
    intro c member zero
    exact (nameable.display c member).nonzero (of_decide_eq_true zero)
  unfold locate locateAs at failed
  simp only [encoded, zeroless, Bool.false_eq_true, ↓reduceIte] at failed
  split at failed
  · cases failed
    rfl
  · exact tree.walk_refuses failed

end FileTree

/-- A file operation that fails by a refusal, if it fails. -/
def FileAction.Refuses {α : Type} (action : FileAction α) : Prop :=
  ∀ tree fault, (StateT.run action.run tree).1 = .error fault → fault.isRefusal = true

namespace FileAction

variable {α β : Type} {path : Path}

/-- A value is no failure. -/
theorem refuses_pure (value : α) : (pure value : FileAction α).Refuses := by
  rintro tree fault ⟨⟩

/-- A refusal is one. -/
theorem refuses_fault {reason : FileFault} (refusal : reason.isRefusal = true) :
    (fault reason : FileAction α).Refuses := by
  rintro tree fault ⟨⟩
  exact refusal

/-- One operation behind another. -/
theorem refuses_bind {first : FileAction α} {next : α → FileAction β} (lead : first.Refuses)
    (rest : ∀ value, (next value).Refuses) : (first >>= next).Refuses := by
  intro tree fault failed
  rw [ExceptT.run_bind, StateT.run_bind] at failed
  have refuses := lead tree
  generalize StateT.run first.run tree = ran at *
  obtain ⟨outcome, middle⟩ := ran
  cases outcome with
  | error reason =>
    obtain rfl : reason = fault := Except.error.inj failed
    exact refuses reason rfl
  | ok value => exact rest value middle fault failed

/-- An operation that is tried, and what is done if it is refused. -/
theorem refuses_tryCatch {action : FileAction α} {otherwise : FileFault → FileAction α}
    (lead : action.Refuses)
    (rest : ∀ reason, reason.isRefusal = true → (otherwise reason).Refuses) :
    (tryCatch action otherwise).Refuses := by
  intro tree fault failed
  rw [ExceptT.run_tryCatch, StateT.run_bind] at failed
  have refuses := lead tree
  generalize StateT.run action.run tree = ran at *
  obtain ⟨outcome, middle⟩ := ran
  cases outcome with
  | error reason => exact rest reason (refuses reason rfl) middle fault failed
  | ok value => cases failed

/-- Making a directory at a path that has bytes is refused, if it fails. -/
theorem makeDirectory_refuses (nameable : path.Nameable) : (makeDirectory path).Refuses := by
  refine refuses_bind (fun _ _ failed => nomatch failed) ?_
  intro tree
  cases located : tree.locate path with
  | error reason => exact refuses_fault (tree.locate_refuses nameable located)
  | ok location =>
    dsimp only
    split
    · exact refuses_fault rfl
    · exact fun _ _ failed => nomatch failed

/-- A refusal stays one where there is no directory. -/
theorem unlessDirectory_refuses {reason : FileFault} (refusal : reason.isRefusal = true) :
    (unlessDirectory path reason).Refuses := by
  refine refuses_bind (fun _ _ failed => nomatch failed) ?_
  intro tree
  split
  · exact refuses_pure ()
  · exact refuses_fault refusal

/-- Making the directories above a path is refused, if it fails. By induction on how many parts
of the path are asked for. -/
theorem makeDirectoriesUpTo_refuses (nameable : path.Nameable) (count : Nat) :
    (makeDirectoriesUpTo path count).Refuses := by
  induction count with
  | zero =>
    exact refuses_tryCatch (makeDirectory_refuses (nameable.take 0))
      (fun _ refusal => unlessDirectory_refuses refusal)
  | succ count inductionHypothesis =>
    have made := makeDirectory_refuses (nameable.take (count + 1))
    refine refuses_tryCatch made ?_
    intro reason refusal
    split
    · refine refuses_bind inductionHypothesis ?_
      intro _
      refine refuses_tryCatch made ?_
      intro again refusal
      split
      · exact refuses_fault refusal
      · exact unlessDirectory_refuses refusal
    · exact unlessDirectory_refuses refusal

/-- Writing bytes is refused, if it fails. -/
theorem write_refuses (nameable : path.Nameable) (bytes : List UInt8) :
    (write path bytes).Refuses := by
  refine refuses_bind (fun _ _ failed => nomatch failed) ?_
  intro tree
  cases located : tree.locate path with
  | error reason => exact refuses_fault (tree.locate_refuses nameable located)
  | ok location =>
    dsimp only
    split
    · exact refuses_fault rfl
    · exact fun _ _ failed => nomatch failed

/-- Writing a text that has bytes is refused, if it fails. -/
theorem writeText_refuses (nameable : path.Nameable) {text : Text}
    (plain : ∀ c ∈ text, c.isSurrogate = false) : (writeText path text).Refuses := by
  obtain ⟨bytes, encoded⟩ := Utf8.encode_plain plain
  refine refuses_bind (write_refuses nameable []) ?_
  intro _
  rw [encoded]
  exact write_refuses nameable bytes

end FileAction

/-! ## Modules -/

namespace FileStore

variable {path : Path}

/-- Marking a directory is refused, if it fails. -/
theorem mark_refuses (nameable : path.Nameable) : (mark path).Refuses := by
  have ascii : ∀ part ∈ (Path.ofText marker).parts, ∀ c ∈ part, 0 < c.val ∧ c.val < 0x80 := by
    decide
  have marked : (path.join marker).Nameable :=
    nameable.under ⟨(fun _ none => nomatch none),
      fun part listed c member => CodePoint.nameable_of_ascii (ascii part listed c member)⟩
  refine FileAction.refuses_bind (fun _ _ failed => nomatch failed) ?_
  intro tree
  split
  · exact FileAction.refuses_pure ()
  · exact FileAction.writeText_refuses marked (by simp)

/-- Marking the directories up to the root is refused, if it fails. -/
theorem markUpwards_refuses (root : Path) (nameable : path.Nameable) (bound : Nat) :
    (markUpwards root bound path).Refuses := by
  induction bound generalizing path with
  | zero => exact FileAction.refuses_pure ()
  | succ bound inductionHypothesis =>
    rw [markUpwards]
    split
    · refine FileAction.refuses_bind (mark_refuses nameable) ?_
      intro _
      exact inductionHypothesis nameable.parent
    · exact FileAction.refuses_pure ()

/-- Writing a module is refused, if it fails. -/
theorem writeModule_refuses (root : Path) (nameable : path.Nameable) {text : Text}
    (plain : ∀ c ∈ text, c.isSurrogate = false) : (writeModule root path text).Refuses := by
  refine FileAction.refuses_bind (FileAction.makeDirectoriesUpTo_refuses nameable.parent _) ?_
  intro _
  refine FileAction.refuses_bind (markUpwards_refuses root nameable.parent _) ?_
  intro _
  exact FileAction.writeText_refuses nameable plain

end FileStore

end SchemaForge
