import Mathlib.Data.List.Induction
import SchemaForge.Proofs.DeclaredNames
import SchemaForge.Proofs.ModuleFiles

/-!
# Where the words of a name begin

A module is named after its type in small letters, with an underscore in front of each word
but the first. Words are cut in two passes, of which the second works on what the first has
left. What they cut is decided by three neighbours in the name itself: a word begins at a
capital behind a small letter or a digit, and at a capital behind a capital that a small letter
follows. An underscore of the first pass stands between two capitals, so it neither makes nor
hides a cut of the second.

Where there are no capitals nothing is cut, so the module of a name is its own module.
-/

namespace SchemaForge

/-! ## Small letters -/

/-- The small form of a capital letter of ASCII, and any other code point itself. -/
def CodePoint.small (c : CodePoint) : CodePoint := if c.isUpper then .ofNat (c.val + 32) else c

namespace CodePoint

/-- A code point of ASCII has one small form. -/
theorem toLower_eq_small {c : CodePoint} (ascii : c.val < 0x80) : c.toLower = [c.small] := by
  rw [toLower, if_pos ascii, small]
  split <;> rfl

/-- A small form is no capital. -/
theorem isUpper_small (c : CodePoint) : c.small.isUpper = false := by
  unfold small
  split
  · next upper =>
    simp only [isUpper, between, Bool.and_eq_true, decide_eq_true_eq] at upper
    have first : 65 ≤ c.val := upper.1
    have last : c.val ≤ 90 := upper.2
    have valid : c.val + 32 < 0x110000 := by omega
    simp only [isUpper, between, ofNat, valid, ↓reduceDIte, Bool.and_eq_false_iff,
      decide_eq_false_iff_not]
    right
    change ¬ c.val + 32 ≤ 90
    omega
  · next other => simpa using other

/-- The small form of what begins a name begins one. -/
theorem isNameStart_small {c : CodePoint} (starts : c.isNameStart = true) :
    c.small.isNameStart = true := by
  unfold small
  split
  · next upper =>
    simp only [isUpper, between, Bool.and_eq_true, decide_eq_true_eq] at upper
    have first : 65 ≤ c.val := upper.1
    have last : c.val ≤ 90 := upper.2
    have valid : c.val + 32 < 0x110000 := by omega
    have lower : (ofNat (c.val + 32)).isLower = true := by
      simp only [isLower, between, ofNat, valid, ↓reduceDIte, Bool.and_eq_true,
        decide_eq_true_eq]
      constructor
      · change 97 ≤ c.val + 32
        omega
      · change c.val + 32 ≤ 122
        omega
    simp [isNameStart, lower]
  · exact starts

end CodePoint

/-- A text of ASCII has as many small letters as code points. -/
theorem Text.lower_eq_map {text : Text} (ascii : ∀ c ∈ text, c.val < 0x80) :
    Text.lower text = text.map CodePoint.small := by
  have behind (before : Text) : Text.lowerAfter before text = text.map CodePoint.small := by
    induction text generalizing before with
    | nil => rfl
    | cons c rest inductionHypothesis =>
      rw [List.forall_mem_cons] at ascii
      have first := ascii.1
      have other : c.val ≠ 0x3A3 := by omega
      rw [Text.lowerAfter]
      simp only [other, ↓reduceIte]
      rw [CodePoint.toLower_eq_small first, inductionHypothesis ascii.2, List.map_cons]
      rfl
  exact behind []

namespace ModuleName

/-! ## The rule -/

/-- Whether a word of a name, and not its first, begins at a place: there is a capital, and
in front of it a small letter or a digit, or a capital while a small letter comes next. -/
def startsWord (name : Text) (place : Nat) : Bool :=
  decide (0 < place) && name[place]?.any CodePoint.isUpper &&
    (name[place - 1]?.any (fun before => before.isLower || before.isDigit) ||
      name[place - 1]?.any CodePoint.isUpper && name[place + 1]?.any CodePoint.isLower)

/-- A code point with an underscore in front of it, or without. -/
def marked (starts : Bool) (c : CodePoint) : Text :=
  if starts then [CodePoint.ofChar '_', c] else [c]

/-- A text with one underscore in front of each place where something starts. -/
def underscored (starts : Nat → Bool) (text : Text) : Text :=
  text.zipIdx.flatMap (fun entry => marked (starts entry.2) entry.1)

/-- Marking a place adds nothing but the underscore. -/
theorem filter_marked (starts : Bool) (c : CodePoint) :
    (marked starts c).filter (fun d => decide (d ≠ CodePoint.ofChar '_')) =
      [c].filter (fun d => decide (d ≠ CodePoint.ofChar '_')) := by
  cases starts <;> simp [marked]

/-- Underscores apart, a text stays as it is. -/
theorem filter_underscored (starts : Nat → Bool) (text : Text) :
    (underscored starts text).filter (fun d => decide (d ≠ CodePoint.ofChar '_')) =
      text.filter (fun d => decide (d ≠ CodePoint.ofChar '_')) := by
  have behind (first : Nat) :
      ((text.zipIdx first).flatMap (fun entry => marked (starts entry.2) entry.1)).filter
          (fun d => decide (d ≠ CodePoint.ofChar '_')) =
        text.filter (fun d => decide (d ≠ CodePoint.ofChar '_')) := by
    induction text generalizing first with
    | nil => rfl
    | cons c rest inductionHypothesis =>
      rw [List.zipIdx_cons, List.flatMap_cons, List.filter_append, inductionHypothesis,
        filter_marked, ← List.filter_append]
      rfl
  exact behind 0

/-! ## Both passes at once -/

/-- Whether a word begins at a code point, by its neighbours. -/
def beginsWord (before : Option CodePoint) (here : CodePoint) (next : Option CodePoint) : Bool :=
  here.isUpper && (before.any (fun before => before.isLower || before.isDigit) ||
    before.any CodePoint.isUpper && next.any CodePoint.isLower)

/-- The rest of a name with its words apart. The code point before the rest is given. -/
def cutAll (before : Option CodePoint) : Text → Text
  | [] => []
  | c :: rest => marked (beginsWord before c rest.head?) c ++ cutAll (some c) rest

/-- The two passes cut where a word begins by its neighbours. By the cases of the first pass:
where it has cut, the second one meets an underscore and then a capital behind it. -/
theorem cutWords_cutAcronyms (before : Option CodePoint) (name : Text) :
    cutWords before (cutAcronyms before name) = cutAll before name := by
  have plain (before : Option CodePoint) (c : CodePoint) (rest : Text) :
      cutWords before (c :: rest) =
        marked (before.any (fun before => before.isLower || before.isDigit) && c.isUpper) c ++
          cutWords (some c) rest := by
    rw [cutWords, marked]
    split <;> rfl
  fun_induction cutAcronyms before name with
  | case1 before => rfl
  | case2 before c =>
    rw [plain, cutAll, beginsWord]
    simp [cutWords, cutAll, Bool.and_comm]
  | case3 before c d rest cut cuts inductionHypothesis =>
    have capital : c.isUpper = true := by
      simp only [cut, Bool.and_eq_true] at cuts
      exact cuts.1.2
    have begins : beginsWord before c (some d) = true := by
      simp only [cut, Bool.and_eq_true] at cuts
      simp [beginsWord, cuts]
    have mark : CodePoint.isUpper ('_' : Char) = false := by decide
    have inside : (some (CodePoint.ofChar '_')).any
        (fun before => before.isLower || before.isDigit) = false := by decide
    have whole : cutAll before (c :: d :: rest) =
        marked (beginsWord before c (some d)) c ++ cutAll (some c) (d :: rest) := rfl
    rw [plain, plain, inductionHypothesis, mark, inside, Bool.and_false, Bool.false_and, whole,
      begins]
    rfl
  | case4 before c d rest cut stays inductionHypothesis =>
    have begins : beginsWord before c (some d) =
        (before.any (fun before => before.isLower || before.isDigit) && c.isUpper) := by
      have none : (before.any CodePoint.isUpper && c.isUpper && d.isLower) = false := by
        simpa [cut] using stays
      rw [beginsWord, Option.any_some]
      revert none
      cases before.any (fun before => before.isLower || before.isDigit) <;>
        cases before.any CodePoint.isUpper <;> cases c.isUpper <;> cases d.isLower <;> decide
    rw [plain, inductionHypothesis, ← begins]
    rfl

/-- The neighbours of a place decide whether a word begins there. -/
theorem startsWord_append (front : Text) (c : CodePoint) (rest : Text) :
    startsWord (front ++ c :: rest) front.length = beginsWord front.getLast? c rest.head? := by
  have here : (front ++ c :: rest)[front.length]? = some c := by simp
  have next : (front ++ c :: rest)[front.length + 1]? = rest.head? := by
    simp [List.getElem?_append_right, List.head?_eq_getElem?]
  rw [startsWord, beginsWord, here, next]
  cases front using List.reverseRecOn with
  | nil => simp
  | append_singleton front last =>
    have before : (front ++ [last] ++ c :: rest)[(front ++ [last]).length - 1]? = some last := by
      simp
    rw [before]
    simp

/-- Small letters do not change where words are cut, and the cuts are at the places where words
begin. The part of the name in front is given. -/
theorem map_cutAll (front rest : Text) :
    (cutAll front.getLast? rest).map CodePoint.small =
      ((rest.map CodePoint.small).zipIdx front.length).flatMap
        (fun entry => marked (startsWord (front ++ rest) entry.2) entry.1) := by
  induction rest generalizing front with
  | nil => rfl
  | cons c rest inductionHypothesis =>
    have behind := inductionHypothesis (front ++ [c])
    rw [List.getLast?_concat, List.length_append, List.append_assoc] at behind
    have first (starts : Bool) :
        (marked starts c).map CodePoint.small = marked starts c.small := by
      cases starts <;> rfl
    rw [cutAll, List.map_append, List.map_cons, List.zipIdx_cons, List.flatMap_cons,
      startsWord_append, first]
    exact congrArg _ behind

/-! ## Names of modules -/

/-- A name in snake case has its small letters, with an underscore in front of each word. -/
theorem snake_eq_underscored {name : Text} (ascii : ∀ c ∈ name, c.val < 0x80) :
    snake name = underscored (startsWord name) (Text.lower name) := by
  have underscore : (CodePoint.ofChar '_').val < 0x80 := by decide
  have cuts : ∀ c ∈ cutWords none (cutAcronyms none name), c.val < 0x80 :=
    cutWords_all underscore none (cutAcronyms_all underscore none ascii)
  rw [snake, Text.lower_eq_map cuts, Text.lower_eq_map ascii, cutWords_cutAcronyms]
  exact map_cutAll [] name

/-- Where there are no capitals, nothing is cut. -/
theorem cutAll_eq_self (before : Option CodePoint) {name : Text}
    (small : ∀ c ∈ name, c.isUpper = false) : cutAll before name = name := by
  induction name generalizing before with
  | nil => rfl
  | cons c rest inductionHypothesis =>
    rw [List.forall_mem_cons] at small
    rw [cutAll, inductionHypothesis _ small.2, beginsWord, small.1]
    rfl

/-- A name without capitals is in snake case. -/
theorem snake_eq_self {name : Text} (ascii : ∀ c ∈ name, c.val < 0x80)
    (small : ∀ c ∈ name, c.isUpper = false) : snake name = name := by
  have same : name.map CodePoint.small = name := by
    refine (List.map_congr_left ?_).trans (List.map_id name)
    intro c member
    rw [CodePoint.small, small c member]
    rfl
  rw [snake, cutWords_cutAcronyms, cutAll_eq_self none small, Text.lower_eq_map ascii, same]

/-- There are no capitals in the module of a type. -/
theorem isUpper_ofType {name : Text} (ascii : ∀ c ∈ name, c.val < 0x80) :
    ∀ c ∈ ofType name, c.isUpper = false := by
  have underscore : ∀ c ∈ ("_" : Text), c.isUpper = false := by decide
  have snake : ∀ c ∈ snake name, c.isUpper = false := by
    have mark : (CodePoint.ofChar '_').val < 0x80 := by decide
    have cuts : ∀ c ∈ cutWords none (cutAcronyms none name), c.val < 0x80 :=
      cutWords_all mark none (cutAcronyms_all mark none ascii)
    rw [snake, Text.lower_eq_map cuts]
    intro c member
    obtain ⟨d, -, rfl⟩ := List.mem_map.mp member
    exact d.isUpper_small
  unfold ofType identifier
  split
  · exact List.forall_mem_append.mpr ⟨snake, underscore⟩
  · exact snake

/-- No identifier is reserved. -/
theorem identifier_not_reserved (name : Text) : identifier name ∉ keywords := by
  by_cases reserved : name ∈ keywords
  · rw [identifier_of_mem reserved]
    exact not_mem_keywords name reserved
  · rw [identifier_of_not_mem reserved]
    exact reserved

/-- The module of a name begins like a name. -/
theorem ofType_begins {name : Text} (named : name.isName = true) :
    (ofType name).head?.any CodePoint.isNameStart = true := by
  simp only [Text.isName, Bool.and_eq_true, List.all_eq_true] at named
  obtain ⟨begins, all⟩ := named
  have ascii : ∀ c ∈ name, c.val < 0x80 := fun c member => ascii_of_isNameRest (all c member)
  cases name with
  | nil => cases begins
  | cons c rest =>
    have first : ∃ more, snake (c :: rest) = c.small :: more := by
      rw [snake_eq_underscored ascii, Text.lower_eq_map ascii]
      exact ⟨_, rfl⟩
    obtain ⟨more, split⟩ := first
    have starts := CodePoint.isNameStart_small begins
    rw [ofType, identifier, split]
    split <;> simpa using starts

/-- How the module of a type is called. The name in snake case has the small letters of the
name, with one underscore in front of each place where a word begins and nowhere else; so
underscores apart it has the same letters and digits in the same order. The module has a name
that can be an identifier and is not reserved, and that is the name of its own module. -/
theorem ofType_cutsWords {name : Text} (named : name.isName = true) :
    Text.lower name = name.map CodePoint.small ∧
      snake name = underscored (startsWord name) (Text.lower name) ∧
      (snake name).filter (fun c => decide (c ≠ CodePoint.ofChar '_')) =
        (Text.lower name).filter (fun c => decide (c ≠ CodePoint.ofChar '_')) ∧
      (ofType name).isName = true ∧ ofType name ∉ keywords ∧
      ofType (ofType name) = ofType name := by
  have all : ∀ c ∈ name, c.isNameRest = true := by
    simp only [Text.isName, Bool.and_eq_true, List.all_eq_true] at named
    exact named.2
  have ascii : ∀ c ∈ name, c.val < 0x80 := fun c member => ascii_of_isNameRest (all c member)
  have moduleAll := ofType_all named
  have free : ofType name ∉ keywords := identifier_not_reserved (snake name)
  refine ⟨Text.lower_eq_map ascii, snake_eq_underscored ascii, ?_, ?_, free, ?_⟩
  · rw [snake_eq_underscored ascii]
    exact filter_underscored _ _
  · rw [Text.isName, ofType_begins named, Bool.true_and, List.all_eq_true]
    exact moduleAll
  · have again : snake (ofType name) = ofType name :=
      snake_eq_self (fun c member => ascii_of_isNameRest (moduleAll c member))
        (isUpper_ofType ascii)
    rw [ofType, again, identifier_of_not_mem free]

/-- An acronym, a digit in front of a capital and an underscore of the name itself. -/
theorem ofType_cutsWords_acronym :
    Text.isName "HTTPServer2Go_X" = true ∧
      underscored (startsWord "HTTPServer2Go_X") (Text.lower "HTTPServer2Go_X") =
        ("http_server2_go_x" : Text) ∧
      ofType "HTTPServer2Go_X" = ("http_server2_go_x" : Text) ∧
      ofType "http_server2_go_x" = ("http_server2_go_x" : Text) := by
  have named : Text.isName "HTTPServer2Go_X" = true := by decide
  have rule : underscored (startsWord "HTTPServer2Go_X") (Text.lower "HTTPServer2Go_X") =
      ("http_server2_go_x" : Text) := by decide +kernel
  have called : ofType "HTTPServer2Go_X" = ("http_server2_go_x" : Text) := by decide +kernel
  obtain ⟨-, -, -, -, -, again⟩ := ofType_cutsWords named
  rw [called] at again
  exact ⟨named, rule, called, again⟩

/-- A name that in small letters is reserved. -/
example : ofType "Class" = ("class_" : Text) := by decide +kernel

end ModuleName

end SchemaForge
