import Mathlib.Data.List.TakeWhile
import SchemaForge.Proofs.ModuleFiles
import SchemaForge.Proofs.ResolvedNames
import SchemaForge.Proofs.SpanErasure

/-!
# The layers of an annotation

A type reference is a name inside layers. A layer is the name itself or a list, and it allows
null or does not, however many wrappers say so. The annotation has one bracket for each list,
and behind the name it has one place for each layer, in which stands the null value or nothing.

So an annotation says what the layers are, and nothing but the layers and what the name is
called in generated code. That it can be read in one way only rests on the names: a name has
no bracket and no blank, and ends where one of them comes.
-/

namespace SchemaForge

namespace TypeReference

/-! ## Shapes -/

/-- A type reference under its outermost wrapper without null, if it has one. -/
def unwrapped : TypeReference → TypeReference
  | nonNull inner _ => inner
  | other => other

/-- Adjacent wrappers without null are one. -/
def collapsed : TypeReference → TypeReference
  | named type => named type
  | list element span => list element.collapsed span
  | nonNull inner span => nonNull inner.collapsed.unwrapped span

/-- A type reference with another innermost name. -/
def renamed (rename : Text → Text) : TypeReference → TypeReference
  | named type => named ⟨rename type.name, type.span⟩
  | list element span => list (element.renamed rename) span
  | nonNull inner span => nonNull (inner.renamed rename) span

/-- A type reference as generated code sees it: wrappers that say the same are one, the name is
that of the type in generated code, and places do not matter. -/
def shape (type : TypeReference) : TypeReference :=
  (type.collapsed.renamed annotationName).withoutSpans

/-- How many lists there are around the name. -/
def listDepth : TypeReference → Nat
  | named _ => 0
  | list element _ => element.listDepth + 1
  | nonNull inner _ => inner.listDepth

/-- Which layers allow null, from the outermost one to the name. A wrapper without null takes
it from the layer that it stands around. -/
def layers : TypeReference → List Bool
  | named _ => [true]
  | list element _ => true :: element.layers
  | nonNull inner _ => false :: inner.layers.tail

/-- A type that allows null or does not. -/
def allowing (nullable : Bool) (type : TypeReference) : TypeReference :=
  if nullable then type else nonNull type .unknown

/-- The type reference with the given name inside the given layers. -/
def ofLayers (name : Text) : List Bool → TypeReference
  | [] => named ⟨name, .unknown⟩
  | [nullable] => allowing nullable (named ⟨name, .unknown⟩)
  | nullable :: next :: further =>
    allowing nullable (list (ofLayers name (next :: further)) .unknown)

/-- There is one layer more than there are lists. -/
theorem length_layers (type : TypeReference) : type.layers.length = type.listDepth + 1 := by
  induction type with
  | named type => rfl
  | list element span inductionHypothesis =>
    rw [layers, List.length_cons, inductionHypothesis, listDepth]
  | nonNull inner span inductionHypothesis =>
    rw [layers, List.length_cons, List.length_tail, inductionHypothesis, listDepth]
    omega

/-- There is always a layer. -/
theorem exists_layers (type : TypeReference) :
    ∃ nullable further, type.layers = nullable :: further := by
  apply List.exists_cons_of_length_pos
  rw [length_layers]
  exact Nat.succ_pos _

/-- The shape under a wrapper is the shape of what is under it. -/
theorem shape_unwrapped (type : TypeReference) :
    (type.collapsed.unwrapped.renamed annotationName).withoutSpans = type.shape.unwrapped := by
  unfold shape
  cases type.collapsed <;> rfl

/-- Without null at its outermost layer, a type is the one under the wrapper of it. -/
theorem ofLayers_false (name : Text) (nullable : Bool) (further : List Bool) :
    ofLayers name (false :: further) =
      nonNull (ofLayers name (nullable :: further)).unwrapped .unknown := by
  cases further with
  | nil => cases nullable <;> rfl
  | cons next further => cases nullable <;> rfl

/-- The shape of a type reference is its name inside its layers. -/
theorem shape_eq (type : TypeReference) :
    type.shape = ofLayers (annotationName type.innermost.name) type.layers := by
  induction type with
  | named type => rfl
  | list element span inductionHypothesis =>
    obtain ⟨nullable, further, split⟩ := element.exists_layers
    have inner : (list element span).shape = list element.shape .unknown := rfl
    rw [inner, inductionHypothesis, layers, split]
    rfl
  | nonNull inner span inductionHypothesis =>
    obtain ⟨nullable, further, split⟩ := inner.exists_layers
    have wrapped : (nonNull inner span).shape = nonNull inner.shape.unwrapped .unknown := by
      rw [← shape_unwrapped]
      rfl
    rw [wrapped, inductionHypothesis, layers, split, List.tail_cons,
      ofLayers_false _ nullable]
    rfl

/-- A type of given layers has these layers and no others. -/
theorem layers_ofLayers (name : Text) (nullable : Bool) (further : List Bool) :
    (ofLayers name (nullable :: further)).layers = nullable :: further := by
  induction further generalizing nullable with
  | nil => cases nullable <;> rfl
  | cons next further inductionHypothesis =>
    cases nullable <;> simp [ofLayers, allowing, layers, inductionHypothesis]

/-- A type of given layers has the given name. -/
theorem innermost_ofLayers (name : Text) (nullables : List Bool) :
    (ofLayers name nullables).innermost.name = name := by
  fun_induction ofLayers name nullables with
  | case1 => rfl
  | case2 nullable => cases nullable <;> rfl
  | case3 nullable next further inductionHypothesis =>
    cases nullable <;> exact inductionHypothesis

/-- Two types have one shape exactly if their layers are the same and their names become the
same. -/
theorem shape_eq_iff {type other : TypeReference} :
    type.shape = other.shape ↔ type.layers = other.layers ∧
      annotationName type.innermost.name = annotationName other.innermost.name := by
  rw [shape_eq, shape_eq]
  constructor
  · intro same
    have names := congrArg (fun type => type.innermost.name) same
    have nullables := congrArg layers same
    obtain ⟨nullable, further, split⟩ := type.exists_layers
    obtain ⟨otherNullable, otherFurther, otherSplit⟩ := other.exists_layers
    simp only [innermost_ofLayers] at names
    rw [split, otherSplit, layers_ofLayers, layers_ofLayers] at nullables
    rw [split, otherSplit]
    exact ⟨nullables, names⟩
  · rintro ⟨nullables, names⟩
    rw [nullables, names]

end TypeReference

/-! ## Annotations written down -/

/-- The brackets of lists in front of a name. -/
def listOpeners (count : Nat) : Text := (List.replicate count ("list[" : Text)).flatten

/-- What stands behind a name: for each layer, from the innermost one on, the null value or
nothing, and between two layers the bracket that closes a list. -/
def layerMarks (nullables : List Bool) : Text :=
  Text.join [CodePoint.ofChar ']'] (nullables.reverse.map nullMark)

/-- One more layer outside closes one more list. -/
theorem layerMarks_cons (outer nullable : Bool) (further : List Bool) :
    layerMarks (outer :: nullable :: further) =
      layerMarks (nullable :: further) ++ [CodePoint.ofChar ']'] ++ nullMark outer := by
  have some : ((nullable :: further).reverse.map nullMark) ≠ [] := by simp
  rw [layerMarks, List.reverse_cons, List.map_append, List.map_singleton,
    Text.join_concat _ _ some]
  rfl

/-- A name inside layers is written with a bracket for each list in front of it and the marks
of the layers behind it. Without null outside, the mark of the outermost layer is missing. -/
theorem TypeReference.annotationWhen_eq (type : TypeReference) :
    type.annotationWhen true = Text.concat [listOpeners type.listDepth,
        annotationName type.innermost.name, layerMarks type.layers] ∧
      type.annotationWhen false = Text.concat [listOpeners type.listDepth,
        annotationName type.innermost.name, layerMarks (false :: type.layers.tail)] := by
  induction type with
  | named type => exact ⟨rfl, rfl⟩
  | list element span inductionHypothesis =>
    obtain ⟨nullable, further, split⟩ := element.exists_layers
    have layered (outer : Bool) : (list element span).annotationWhen outer =
        Text.concat [listOpeners (element.listDepth + 1),
          annotationName element.innermost.name, layerMarks (outer :: element.layers)] := by
      rw [annotationWhen, inductionHypothesis.1, split, layerMarks_cons]
      simp only [listOpeners, List.replicate_succ, Text.concat, List.flatten_cons,
        List.flatten_nil, List.append_assoc, List.append_nil]
      rfl
    exact ⟨layered true, layered false⟩
  | nonNull inner span inductionHypothesis =>
    exact ⟨inductionHypothesis.2, inductionHypothesis.2⟩

/-! ## Reading annotations -/

/-- A name in generated code consists of what names consist of, and it is not empty. -/
theorem annotationName_isNameRest {name : Text} (named : name.isName = true) :
    annotationName name ≠ [] ∧ ∀ c ∈ annotationName name, c.isNameRest = true := by
  have all : ∀ c ∈ name, c.isNameRest = true := by
    simp only [Text.isName, Bool.and_eq_true, List.all_eq_true] at named
    exact named.2
  have some : name ≠ [] := by
    rintro rfl
    cases named
  cases scalar : isBuiltinScalar name with
  | true =>
    have builtins : ∀ scalar ∈ builtinScalars,
        scalar.2 ≠ [] ∧ ∀ c ∈ scalar.2, c.isNameRest = true := by decide
    exact builtins _ (annotationName_builtin scalar)
  | false =>
    rw [annotationName_foreign scalar]
    constructor
    · unfold ModuleName.identifier
      split <;> simp [some]
    · exact ModuleName.identifier_all all

/-- The marks of layers are no more of a name. -/
theorem layerMarks_halts (nullables : List Bool) :
    Halts CodePoint.isNameRest (layerMarks nullables) := by
  have mark (nullable : Bool) : Halts CodePoint.isNameRest (nullMark nullable) := by
    cases nullable with
    | false => exact .nil
    | true => exact .cons (by decide)
  unfold layerMarks
  cases nullables.reverse with
  | nil => exact .nil
  | cons nullable further =>
    cases further with
    | nil => exact mark nullable
    | cons next further =>
      rw [List.map_cons, Text.join_cons _ _ (by simp), List.append_assoc]
      exact (mark nullable).append (.cons (by decide))

/-- The marks of layers say what the layers allow. -/
theorem layerMarks_injective {nullables others : List Bool} (some : nullables ≠ [])
    (otherSome : others ≠ []) (same : layerMarks nullables = layerMarks others) :
    nullables = others := by
  have parted {nullables : List Bool} (some : nullables ≠ []) :
      Text.splitOn (CodePoint.ofChar ']') (layerMarks nullables) =
        nullables.reverse.map nullMark := by
    rw [layerMarks, Text.join_eq, Text.splitOn_eq]
    apply List.splitOn_intercalate
    · intro mark member
      obtain ⟨nullable, -, rfl⟩ := List.mem_map.mp member
      cases nullable <;> decide
    · simpa using some
  have injective : Function.Injective nullMark := by
    intro nullable other equal
    revert equal
    cases nullable <;> cases other <;> decide
  have marks := parted some
  rw [same, parted otherSome] at marks
  exact List.reverse_injective (List.map_injective_iff.mpr injective marks.symm)

/-- There are as many opening brackets as lists in front of a name. -/
theorem count_listOpeners (count : Nat) :
    (listOpeners count).count (CodePoint.ofChar '[') = count := by
  have one : ("list[" : Text).count (CodePoint.ofChar '[') = 1 := by decide
  induction count with
  | zero => rfl
  | succ count inductionHypothesis =>
    rw [listOpeners, List.replicate_succ, List.flatten_cons, List.count_append, one]
    rw [listOpeners] at inductionHypothesis
    omega

/-- Neither a name nor the marks of layers have an opening bracket. -/
theorem count_named {name : Text} (named : name.isName = true) (nullables : List Bool) :
    (annotationName name ++ layerMarks nullables).count (CodePoint.ofChar '[') = 0 := by
  rw [List.count_append, List.count_eq_zero_of_not_mem, List.count_eq_zero_of_not_mem]
  · intro bracket
    obtain closer | ⟨mark, member, inside⟩ := Text.mem_join bracket
    · revert closer
      decide
    · obtain ⟨nullable, -, rfl⟩ := List.mem_map.mp member
      revert inside
      cases nullable <;> decide
  · intro bracket
    exact absurd ((annotationName_isNameRest named).2 _ bracket) (by decide)

namespace TypeReference

/-- Annotations that are written alike have the same layers around the same name. -/
theorem annotation_parts {type other : TypeReference}
    (named : type.innermost.name.isName = true)
    (otherNamed : other.innermost.name.isName = true)
    (same : type.annotation = other.annotation) :
    type.layers = other.layers ∧
      annotationName type.innermost.name = annotationName other.innermost.name := by
  unfold annotation at same
  simp only [(annotationWhen_eq _).1, Text.concat, List.flatten_cons, List.flatten_nil,
    List.append_nil] at same
  -- The brackets are counted first, so that what stands behind them can be compared.
  have depth : type.listDepth = other.listDepth := by
    have counted := congrArg (List.count (CodePoint.ofChar '[')) same
    rwa [List.count_append, count_listOpeners, count_named named, List.count_append,
      count_listOpeners, count_named otherNamed] at counted
  rw [depth] at same
  have behind := List.append_cancel_left same
  have run {name : Text} (named : name.isName = true) (nullables : List Bool) :
      (annotationName name ++ layerMarks nullables).takeWhile CodePoint.isNameRest =
        annotationName name := by
    have all := (annotationName_isNameRest named).2
    have whole : (annotationName name).takeWhile CodePoint.isNameRest = annotationName name :=
      List.takeWhile_eq_self_iff.mpr all
    have ended := (layerMarks_halts nullables).takeWhile_append (annotationName name)
    rwa [whole] at ended
  have names : annotationName type.innermost.name = annotationName other.innermost.name := by
    rw [← run named type.layers, behind, run otherNamed]
  rw [names] at behind
  obtain ⟨_, _, some⟩ := type.exists_layers
  obtain ⟨_, _, otherSome⟩ := other.exists_layers
  exact ⟨layerMarks_injective (by simp [some]) (by simp [otherSome])
    (List.append_cancel_left behind), names⟩

/-- Annotations keep the shape of a type. Two type references have one annotation exactly if
they become the same when wrappers that say the same are one and the name is changed to that in
generated code. The annotation of a type has one bracket for each list, then the name, and then
for each layer, from the name outwards, the null value if the layer allows it and nothing if it
does not. -/
theorem annotation_keepsShape (type other : TypeReference)
    (named : type.innermost.name.isName = true)
    (otherNamed : other.innermost.name.isName = true) :
    (type.annotation = other.annotation ↔ type.shape = other.shape) ∧
      type.annotation = Text.concat [listOpeners type.listDepth,
        annotationName type.innermost.name, layerMarks type.layers] ∧
      type.layers.length = type.listDepth + 1 := by
  refine ⟨?_, type.annotationWhen_eq.1, type.length_layers⟩
  rw [shape_eq_iff]
  constructor
  · exact annotation_parts named otherNamed
  · rintro ⟨nullables, names⟩
    have depth : type.listDepth = other.listDepth := by
      have lengths := congrArg List.length nullables
      rw [length_layers, length_layers] at lengths
      omega
    unfold annotation
    rw [(annotationWhen_eq type).1, (annotationWhen_eq other).1, nullables, names, depth]

/-- A list of identities and a list of strings, the one with a wrapper said twice: both become
lists of the same texts, of which only the list itself is never null. -/
theorem annotation_keepsShape_texts :
    let type := nonNull (nonNull (list (named ⟨"ID", .unknown⟩) .unknown) .unknown) .unknown
    let other := nonNull (list (named ⟨"String", .unknown⟩) .unknown) .unknown
    type.innermost.name.isName = true ∧ other.innermost.name.isName = true ∧
      (type.annotation = other.annotation ↔ type.shape = other.shape) ∧
      type.annotation = ("list[str | None]" : Text) := by
  intro type other
  have named : type.innermost.name.isName = true := by decide
  have otherNamed : other.innermost.name.isName = true := by decide
  obtain ⟨same, written, -⟩ := annotation_keepsShape type other named otherNamed
  refine ⟨named, otherNamed, same, ?_⟩
  rw [written]
  decide

end TypeReference

end SchemaForge
