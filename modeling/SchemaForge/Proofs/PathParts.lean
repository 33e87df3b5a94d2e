import SchemaForge.File.Path

/-!
# Paths, part by part

A path that is put together from texts is decided by the parts of the texts. As long as none
of the texts is absolute it lies below the base, and its parts are those of the base and then
those of each text. A text that is absolute forgets the base and everything before it.

Splitting a text and joining its parts are the operations of lists, so their laws are too.
Double dots stay in a path and nothing is said about what they lead to.
-/

namespace SchemaForge

/-! ## Splitting and joining -/

namespace Text

/-- Splitting a text is splitting a list. -/
theorem splitOn_eq (separator : CodePoint) (text : Text) :
    splitOn separator text = List.splitOn separator text := by
  induction text with
  | nil => rfl
  | cons c rest inductionHypothesis =>
    rw [List.splitOn_cons_eq_if_modifyHead, splitOn, inductionHypothesis]
    by_cases found : c = separator
    · simp [found]
    · obtain ⟨part, parts, split⟩ := List.exists_cons_of_ne_nil (List.splitOn_ne_nil separator rest)
      simp [found, split]

/-- Joining texts is joining lists. -/
theorem join_eq (separator : Text) (parts : List Text) :
    join separator parts = separator.intercalate parts := by
  induction parts with
  | nil => rfl
  | cons part parts inductionHypothesis =>
    cases parts with
    | nil => simp [join]
    | cons next parts =>
      rw [join, inductionHypothesis, List.intercalate_cons_cons]
      exact List.cons_ne_nil next parts

variable (separator : CodePoint)

/-- There is always a part. -/
theorem splitOn_ne_nil (text : Text) : splitOn separator text ≠ [] := by
  rw [splitOn_eq]
  exact List.splitOn_ne_nil separator text

/-- The parts of a text give the text back. -/
theorem join_splitOn (text : Text) : join [separator] (splitOn separator text) = text := by
  rw [join_eq, splitOn_eq]
  exact List.intercalate_splitOn separator

/-- Texts with the same parts are the same. -/
theorem splitOn_inj {text other : Text} (same : splitOn separator text = splitOn separator other) :
    text = other := by
  rw [← join_splitOn separator text, same, join_splitOn]

/-- The parts of two texts with the separator between them are those of the one and then
those of the other. -/
theorem splitOn_append_cons (text more : Text) :
    splitOn separator (text ++ separator :: more) =
      splitOn separator text ++ splitOn separator more := by
  simp only [splitOn_eq]
  exact List.splitOn_append_cons_self text more

/-- A text without the separator is its only part. -/
theorem splitOn_of_not_mem {text : Text} (absent : separator ∉ text) :
    splitOn separator text = [text] := by
  rw [splitOn_eq]
  exact List.splitOn_eq_singleton absent

/-- The separator is in none of the parts. -/
theorem not_mem_of_mem_splitOn {text part : Text} (member : part ∈ splitOn separator text) :
    separator ∉ part := by
  induction text generalizing part with
  | nil =>
    rw [List.mem_singleton.mp member]
    exact List.not_mem_nil
  | cons c rest inductionHypothesis =>
    obtain ⟨first, parts, split⟩ := List.exists_cons_of_ne_nil (splitOn_ne_nil separator rest)
    simp only [splitOn, split] at member inductionHypothesis
    split at member
    · obtain rfl | member := List.mem_cons.mp member
      · exact List.not_mem_nil
      · exact inductionHypothesis member
    · next other =>
      obtain rfl | member := List.mem_cons.mp member
      · intro inside
        obtain same | inside := List.mem_cons.mp inside
        · exact other same.symm
        · exact inductionHypothesis List.mem_cons_self inside
      · exact inductionHypothesis (List.mem_cons_of_mem first member)

/-- What is in a text that is joined is in the separator or in one of the parts. -/
theorem mem_join {c : CodePoint} {separator : Text} {parts : List Text}
    (member : c ∈ join separator parts) : c ∈ separator ∨ ∃ part ∈ parts, c ∈ part := by
  induction parts with
  | nil => cases member
  | cons part parts inductionHypothesis =>
    cases parts with
    | nil => exact .inr ⟨part, List.mem_cons_self, member⟩
    | cons next parts =>
      have member : c ∈ part ++ separator ++ join separator (next :: parts) := member
      rw [List.mem_append, List.mem_append] at member
      obtain (first | between) | rest := member
      · exact .inr ⟨part, List.mem_cons_self, first⟩
      · exact .inl between
      · obtain between | ⟨other, listed, inside⟩ := inductionHypothesis rest
        · exact .inl between
        · exact .inr ⟨other, List.mem_cons_of_mem part listed, inside⟩

end Text

namespace Path

/-! ## Paths below a base -/

/-- An absolute path forgets the base. -/
theorem under_of_absolute {path : Path} (absolute : path.isAbsolute = true) (base : Path) :
    base.under path = path := by
  rw [under, if_pos absolute]

/-- The parts of a relative path come behind those of the base. -/
theorem under_of_relative {path : Path} (relative : path.isAbsolute = false) (base : Path) :
    base.under path = ⟨base.root, base.parts ++ path.parts⟩ := by
  rw [under, relative]
  rfl

/-- A relative path has no root. -/
theorem root_eq_nil {path : Path} (relative : path.isAbsolute = false) : path.root = [] := by
  simpa [isAbsolute] using relative

/-- Without a base a path is itself. -/
@[simp] theorem here_under (path : Path) : here.under path = path := by
  cases absolute : path.isAbsolute with
  | true => exact under_of_absolute absolute here
  | false =>
    rw [under_of_relative absolute, here, ← root_eq_nil absolute]
    rfl

/-- Nothing below a base is the base. -/
@[simp] theorem under_here (base : Path) : base.under here = base := by
  rw [under_of_relative rfl, here, List.append_nil]

/-- A path below a base is absolute if either is. -/
@[simp] theorem isAbsolute_under (base path : Path) :
    (base.under path).isAbsolute = (path.isAbsolute || base.isAbsolute) := by
  cases absolute : path.isAbsolute with
  | true => rw [under_of_absolute absolute, absolute, Bool.true_or]
  | false =>
    rw [under_of_relative absolute, Bool.false_or]
    rfl

/-- It does not matter which of two steps downwards is made first. -/
theorem under_assoc (base middle path : Path) :
    (base.under middle).under path = base.under (middle.under path) := by
  cases absolute : path.isAbsolute with
  | true => simp only [under_of_absolute absolute]
  | false =>
    rw [under_of_relative absolute, under_of_relative absolute]
    cases rooted : middle.isAbsolute with
    | true =>
      have whole : (⟨middle.root, middle.parts ++ path.parts⟩ : Path).isAbsolute = true := rooted
      rw [under_of_absolute rooted, under_of_absolute whole]
    | false =>
      have whole : (⟨middle.root, middle.parts ++ path.parts⟩ : Path).isAbsolute = false := rooted
      rw [under_of_relative rooted, under_of_relative whole, List.append_assoc]

/-- A relative path that is not empty lies below every base. -/
theorem isBelow_under {path : Path} (relative : path.isAbsolute = false) (some : path.parts ≠ [])
    (base : Path) : (base.under path).isBelow base = true := by
  have longer := List.length_pos_iff.mpr some
  rw [under_of_relative relative]
  simp [isBelow, longer]

/-- An absolute path does not lie below a relative one. -/
theorem not_isBelow_here {path : Path} (absolute : path.isAbsolute = true) :
    path.isBelow here = false := by
  have rooted : ¬ path.root = [] := by simpa [isAbsolute] using absolute
  simp [isBelow, here, rooted]

/-- A text spells an absolute path if it begins with a slash. -/
theorem isAbsolute_ofText (text : Text) :
    (ofText text).isAbsolute = decide (text.head? = some (CodePoint.ofChar '/')) := by
  cases text with
  | nil => rfl
  | cons c rest =>
    by_cases slash : c = ('/' : Char)
    · simp only [ofText, isAbsolute, slash, List.takeWhile_cons, decide_true, ↓reduceIte,
        List.length_cons, Nat.succ_ne_zero, List.head?_cons]
      split <;> rfl
    · simp [ofText, isAbsolute, slash]

/-! ## Texts joined to a base -/

/-- Joining texts to a base is joining them to nothing and seeing what comes of it from the
base. -/
theorem foldl_join (base : Path) (texts : List Text) :
    texts.foldl join base = base.under (texts.foldl join here) := by
  induction texts generalizing base with
  | nil => simp
  | cons text texts inductionHypothesis =>
    rw [List.foldl_cons, List.foldl_cons, inductionHypothesis (base.join text),
      inductionHypothesis (here.join text), ← under_assoc]
    simp [join]

/-- What texts are joined to is absolute if one of them is. -/
theorem isAbsolute_foldl (texts : List Text) :
    (texts.foldl join here).isAbsolute = texts.any (fun text => (ofText text).isAbsolute) := by
  induction texts with
  | nil => rfl
  | cons text texts inductionHypothesis =>
    rw [List.foldl_cons, foldl_join, isAbsolute_under, inductionHypothesis]
    simp [join, Bool.or_comm]

/-- Relative texts are joined part by part. -/
theorem parts_foldl {texts : List Text}
    (relative : ∀ text ∈ texts, (ofText text).isAbsolute = false) :
    (texts.foldl join here).parts = texts.flatMap partsOf := by
  induction texts with
  | nil => rfl
  | cons text texts inductionHypothesis =>
    rw [List.forall_mem_cons] at relative
    have others : (texts.foldl join here).isAbsolute = false := by
      rw [isAbsolute_foldl, List.any_eq_false]
      simpa using relative.2
    rw [List.foldl_cons, foldl_join, under_of_relative others, inductionHypothesis relative.2]
    simp [join, ofText]

/-! ## Parts between slashes -/

/-- The parts of texts with slashes between them are the parts of each. -/
theorem partsOf_join {texts : List Text} (some : texts ≠ []) :
    partsOf (Text.join "/" texts) = texts.flatMap partsOf := by
  induction texts with
  | nil => exact absurd rfl some
  | cons text texts inductionHypothesis =>
    cases texts with
    | nil => simp [Text.join]
    | cons next texts =>
      have rest := inductionHypothesis (List.cons_ne_nil next texts)
      have slash : Text.join "/" (text :: next :: texts) =
          text ++ CodePoint.ofChar '/' :: Text.join "/" (next :: texts) :=
        List.append_assoc text _ _
      rw [slash, List.flatMap_cons, ← rest]
      unfold partsOf
      rw [Text.splitOn_append_cons, List.filter_append]

/-- A text with anything but slashes and dots has a part. -/
theorem partsOf_ne_nil {text : Text} {c : CodePoint} (member : c ∈ text)
    (noSlash : c ≠ ('/' : Char)) (noDot : c ≠ ('.' : Char)) : partsOf text ≠ [] := by
  rw [← Text.join_splitOn ('/' : Char) text] at member
  obtain slash | ⟨part, listed, inside⟩ := Text.mem_join member
  · exact absurd (List.mem_singleton.mp slash) noSlash
  · have some : part ≠ [] := List.ne_nil_of_mem inside
    have speaks : part ≠ ("." : Text) := by
      rintro rfl
      exact noDot (List.mem_singleton.mp inside)
    have kept : part ∈ partsOf text := List.mem_filter.mpr ⟨listed, by simp [some, speaks]⟩
    exact List.ne_nil_of_mem kept

/-- A text without slashes that says something is one part. -/
theorem partsOf_of_not_mem {text : Text} (absent : CodePoint.ofChar '/' ∉ text)
    (some : text ≠ []) (speaks : text ≠ ("." : Text)) : partsOf text = [text] := by
  unfold partsOf
  rw [Text.splitOn_of_not_mem _ absent]
  simp [some, speaks]

end Path

end SchemaForge
