import SchemaForge.Registry.Basic

/-!
# The order of entries

Texts are ordered by their code points, and entries by their package and then by their
name. The comparison that sorting uses is related here to these
orders, so that a sorted list of entries is sorted in the order a reader expects:
each package before the next, and the types of one package by name.

Nothing here needs the names of a registry to be distinct. Where they are, an order
without ties follows from the one stated here.
-/

namespace SchemaForge

/-! ## Texts -/

/-- A code point is known by its number. -/
theorem CodePoint.val_inj {point other : CodePoint} : point.val = other.val ↔ point = other := by
  obtain ⟨number, valid⟩ := point
  obtain ⟨otherNumber, otherValid⟩ := other
  simp

namespace Text

/-- One text comes before another: at the first difference it has the smaller code point,
or it is the beginning of the other. -/
def Before (left right : Text) : Prop :=
  List.Lex (fun point other : CodePoint => point.val < other.val) left right

/-- No text comes before itself. -/
theorem Before.irrefl (text : Text) : ¬ Before text text :=
  List.lex_irrefl (fun point => Nat.lt_irrefl point.val) text

/-- What comes before another text comes before what the other comes before. -/
theorem Before.trans {first second third : Text} (left : Before first second)
    (right : Before second third) : Before first third :=
  List.lex_trans (fun before after => Nat.lt_trans before after) left right

/-- Of two texts one comes first, or they are the same. -/
theorem Before.trichotomy (left right : Text) :
    Before left right ∨ left = right ∨ Before right left := by
  induction left generalizing right with
  | nil =>
    cases right with
    | nil => exact .inr (.inl rfl)
    | cons => exact .inl .nil
  | cons point points inductionHypothesis =>
    cases right with
    | nil => exact .inr (.inr .nil)
    | cons other others =>
      obtain smaller | same | greater := Nat.lt_trichotomy point.val other.val
      · exact .inl (.rel smaller)
      · obtain rfl : point = other := CodePoint.val_inj.mp same
        obtain before | rfl | after := inductionHypothesis others
        · exact .inl (.cons before)
        · exact .inr (.inl rfl)
        · exact .inr (.inr (.cons after))
      · exact .inr (.inr (.rel greater))

/-- The comparison of texts holds unless the second has to come first. -/
theorem le_iff (left right : Text) : Text.le left right = true ↔ ¬ Before right left := by
  induction left generalizing right with
  | nil => simp [Text.le, Before]
  | cons point points inductionHypothesis =>
    cases right with
    | nil => simp [Text.le, Before]
    | cons other others =>
      simp only [Text.le, Before, List.cons_lex_cons_iff, Bool.or_eq_true, Bool.and_eq_true,
        decide_eq_true_eq, beq_iff_eq, ← CodePoint.val_inj] at inductionHypothesis ⊢
      rw [inductionHypothesis]
      obtain smaller | same | greater := Nat.lt_trichotomy point.val other.val
      · simp [smaller, Nat.not_lt_of_lt smaller, Nat.ne_of_gt smaller]
      · simp [same]
      · simp [greater, Nat.not_lt_of_lt greater, Nat.ne_of_gt greater]

/-- The comparison of texts is transitive. -/
theorem le_trans {first second third : Text} (left : Text.le first second = true)
    (right : Text.le second third = true) : Text.le first third = true := by
  rw [le_iff] at left right ⊢
  intro before
  obtain next | rfl | next := Before.trichotomy first second
  · exact right (before.trans next)
  · exact right before
  · exact left next

/-- Of two texts one may come first. -/
theorem le_total (left right : Text) : (Text.le left right || Text.le right left) = true := by
  rw [Bool.or_eq_true, le_iff, le_iff]
  by_cases before : Before right left
  · exact .inr (fun after => Before.irrefl _ (before.trans after))
  · exact .inl before

end Text

/-! ## Places in the output -/

/-- One pair of a package and a name comes before another. -/
def Precedes (left right : Text × Text) : Prop :=
  Text.Before left.1 right.1 ∨ left.1 = right.1 ∧ Text.Before left.2 right.2

/-- The package and the name of an entry. -/
def Entry.place (entry : Entry) : Text × Text := (entry.package, entry.name)

namespace Precedes

variable {first second third : Text × Text}

/-- Nothing precedes itself. -/
theorem irrefl (place : Text × Text) : ¬ Precedes place place := by
  rintro (before | ⟨-, before⟩)
  · exact Text.Before.irrefl _ before
  · exact Text.Before.irrefl _ before

/-- What comes before another comes before what the other comes before. -/
theorem trans (left : Precedes first second) (right : Precedes second third) :
    Precedes first third := by
  obtain before | ⟨same, before⟩ := left
  · obtain next | ⟨sameNext, -⟩ := right
    · exact .inl (before.trans next)
    · exact .inl (sameNext ▸ before)
  · obtain next | ⟨sameNext, next⟩ := right
    · exact .inl (same ▸ next)
    · exact .inr ⟨same.trans sameNext, before.trans next⟩

/-- Of two places one comes first, or they are the same. -/
theorem trichotomy (first second : Text × Text) :
    Precedes first second ∨ first = second ∨ Precedes second first := by
  obtain ⟨package, name⟩ := first
  obtain ⟨otherPackage, otherName⟩ := second
  obtain before | rfl | after := Text.Before.trichotomy package otherPackage
  · exact .inl (.inl before)
  · obtain before | rfl | after := Text.Before.trichotomy name otherName
    · exact .inl (.inr ⟨rfl, before⟩)
    · exact .inr (.inl rfl)
    · exact .inr (.inr (.inr ⟨rfl, after⟩))
  · exact .inr (.inr (.inl after))

end Precedes

/-! ## Entries -/

/-- An entry may be listed before another unless the other has to come first. -/
theorem Entry.le_iff (left right : Entry) :
    Entry.le left right = true ↔ ¬ Precedes right.place left.place := by
  unfold Entry.le Precedes Entry.place
  by_cases same : left.package = right.package
  · simp only [same, ↓reduceIte, Text.le_iff, true_and, not_or]
    exact ⟨fun listed => ⟨Text.Before.irrefl _, listed⟩, fun listed => listed.2⟩
  · have different : ¬ right.package = left.package := fun other => same other.symm
    simp only [same, different, ↓reduceIte, Text.le_iff, false_and, or_false]

namespace Registry

variable (registry : Registry) (origin : Origin)

/-- Listing the entries of an origin loses none and adds none. -/
theorem entriesOf_perm :
    (registry.entriesOf origin).Perm
      (registry.entries.filter (fun entry => decide (entry.origin = origin))) :=
  List.mergeSort_perm _ _

/-- The entries of the two origins together are all entries. -/
theorem describe_perm : registry.describe.Perm registry.entries := by
  have complement : registry.entries.filter (fun entry => decide (entry.origin = .reference)) =
      registry.entries.filter (fun entry => !decide (entry.origin = .generation)) := by
    refine List.filter_congr ?_
    intro entry _
    cases entry.origin <;> rfl
  have both := (registry.entriesOf_perm .generation).append (registry.entriesOf_perm .reference)
  rw [complement] at both
  exact both.trans (List.filter_append_perm _ _)

/-- The entries of an origin are listed by package and name. -/
theorem entriesOf_sorted :
    (registry.entriesOf origin).Pairwise
      (fun earlier later => ¬ Precedes later.place earlier.place) := by
  have transitive (first second third : Entry) (left : Entry.le first second = true)
      (right : Entry.le second third = true) : Entry.le first third = true := by
    rw [Entry.le_iff] at left right ⊢
    intro before
    obtain next | same | next := Precedes.trichotomy first.place second.place
    · exact right (before.trans next)
    · exact right (same ▸ before)
    · exact left next
  have total (first second : Entry) : (Entry.le first second || Entry.le second first) = true := by
    rw [Bool.or_eq_true, Entry.le_iff, Entry.le_iff]
    by_cases before : Precedes second.place first.place
    · exact .inr (fun after => Precedes.irrefl _ (before.trans after))
    · exact .inl before
  exact (List.pairwise_mergeSort transitive total _).imp
    (fun {earlier later} => (Entry.le_iff earlier later).mp)

/-- Entries of one origin that are in order already are listed as they are. -/
theorem entriesOf_eq_entries (all : ∀ entry ∈ registry.entries, entry.origin = origin)
    (ordered : registry.entries.Pairwise
      (fun earlier later => Entry.le earlier later = true)) :
    registry.entriesOf origin = registry.entries := by
  have kept : registry.entries.filter (fun entry => decide (entry.origin = origin)) =
      registry.entries :=
    List.filter_eq_self.mpr (fun entry member => decide_eq_true (all entry member))
  unfold entriesOf
  rw [kept]
  exact List.mergeSort_of_pairwise ordered

/-- Where no name occurs twice, none is listed twice. -/
theorem entriesOf_distinct (distinct : (registry.entries.map Entry.name).Nodup) :
    ((registry.entriesOf origin).map Entry.name).Nodup := by
  rw [((registry.entriesOf_perm origin).map Entry.name).nodup_iff]
  exact distinct.sublist (List.filter_sublist.map Entry.name)

/-- Where no name occurs twice, each listed entry comes strictly before the next. -/
theorem entriesOf_increasing (distinct : (registry.entries.map Entry.name).Nodup) :
    ((registry.entriesOf origin).map Entry.place).Pairwise Precedes := by
  have listed := registry.entriesOf_distinct origin distinct
  rw [List.pairwise_map]
  refine ((registry.entriesOf_sorted origin).and (List.pairwise_map.mp listed)).imp ?_
  rintro earlier later ⟨sorted, different⟩
  obtain before | same | after := Precedes.trichotomy earlier.place later.place
  · exact before
  · exact absurd (congrArg Prod.snd same) different
  · exact absurd after sorted

end Registry

end SchemaForge
