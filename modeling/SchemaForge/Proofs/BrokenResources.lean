import SchemaForge.Session

/-!
# Broken resources

A session collects schemas by calls, each for a text or for a file as it is at the time
of the call. A resource is broken if its file cannot be read, its text cannot be cut into
tokens, or its tokens are no document. Such a call answers no, adds its findings and
changes nothing else; in particular no definition of a text that is only partly broken
reaches the registry.

What a call does to the registry depends on the registry alone, and what it adds to the
findings depends on neither. So a generation after any calls is the generation after the
calls for schemas that are well formed, with the findings of the others in front.

One kind of broken resource is an exception. A path that is no path at all, because it
holds the code point zero or has no bytes, cannot be read either, but the call for it fails
with that fault in place of an answer. The session stays as it was, without a finding. Such
calls are part of the sequences considered here.
-/

namespace SchemaForge

/-! ## Calls -/

/-- What a call adds: a text with its name, or a file. -/
inductive Resource where
  | text (source text : Text)
  | file (file : SchemaFile)

/-- A call that adds a resource to a session. -/
structure AddCall where
  /-- The files as they are at the time of the call. -/
  tree : FileTree
  /-- Whether the types are to be generated or only referred to. -/
  origin : Origin
  /-- The resource. -/
  resource : Resource

namespace AddCall

/-- What the call does in a workspace. -/
def action (call : AddCall) (session : Session) : Action (Session × Bool) :=
  match call.resource with
  | .text source text => session.addText call.origin source text
  | .file file => session.addFile call.origin file

/-- The answer of a call: the session afterwards and whether a schema was added, or the
failure of the call. -/
def answer (call : AddCall) (session : Session) : Except Failure (Session × Bool) :=
  (StateT.run (call.action session).run { tree := call.tree }).1

/-- The session behind a call. A call that fails leaves it as it was. -/
def after (call : AddCall) (session : Session) : Session :=
  match call.answer session with
  | .ok (next, _) => next
  | .error _ => session

/-- The session behind some calls. -/
def afterAll (calls : List AddCall) (session : Session) : Session :=
  calls.foldl (fun session call => call.after session) session

/-- The name of the resource in findings. -/
def source (call : AddCall) : Text :=
  match call.resource with
  | .text source _ => source
  | .file file => file.locator

/-- The text of the resource, if it can be read. -/
def content (call : AddCall) : Except FileFault Text :=
  match call.resource with
  | .text _ text => .ok text
  | .file file => file.read call.tree

/-- The resource can be read and is a schema document. -/
def isWellFormed (call : AddCall) : Bool :=
  match call.content with
  | .error _ => false
  | .ok text => (parseDocument text).isOk

/-- The resource is broken, and these are the findings to expect about it: one about a file
that cannot be read or a text that cannot be cut into tokens, and one about each error among
its tokens. -/
inductive Broken (call : AddCall) : List Diagnostic → Prop where
  | unreadable {fault : FileFault} (failed : call.content = .error fault) :
      Broken call [SchemaFile.unreadable call.source fault.message]
  | unscannable {text : Text} {error : LexicalError} (given : call.content = .ok text)
      (failed : tokenize text = .error error) :
      Broken call [(Problem.ofDocumentError (some call.source) (.lexical error)).diagnostic]
  | ungrammatical {text : Text} {tokens : List Token} {first : GrammarError}
      {others : List GrammarError} (given : call.content = .ok text)
      (scanned : tokenize text = .ok tokens)
      (failed : definitionsOfTokens tokens = .error (.grammatical first others)) :
      Broken call ((first :: others).map (fun error =>
        (Problem.grammatical (some call.source) error).diagnostic))

/-- The call names no file, because its path is no path. -/
def Pathless (call : AddCall) : Prop :=
  ∃ fault, call.content = .error fault ∧
    (fault = .embeddedNull ∨ ∃ cause, fault = .unencodable cause)

/-- The findings that a call adds. -/
def findings (call : AddCall) : List Diagnostic :=
  match call.content with
  | .error fault =>
    if fault.isRefusal then [SchemaFile.unreadable call.source fault.message] else []
  | .ok text =>
    match parseDocument text with
    | .error error => Problem.diagnosticsOfDocument (some call.source) error
    | .ok _ => []

/-! ## One call -/

variable {call : AddCall} {session other : Session}

/-- What is told on the way does not change what comes of it. -/
theorem run_logged {α β : Type} (result : Logged α) (next : α → Action β)
    (workspace : Workspace) :
    StateT.run (Action.logged result >>= next).run workspace =
      StateT.run (next result.value).run
        { workspace with log := workspace.log ++ result.log } := rfl

/-- Looking at the files changes nothing. -/
theorem run_tree {β : Type} (next : FileTree → Action β) (workspace : Workspace) :
    StateT.run (Action.tree >>= next).run workspace =
      StateT.run (next workspace.tree).run workspace := rfl

/-- A call for a text that is there adds the text. -/
theorem answer_text {text : Text} (given : call.content = .ok text) :
    call.answer session =
      (session.add call.origin call.source text).value.mapError Failure.problem := by
  obtain ⟨tree, origin, resource⟩ := call
  have added (source : Text) :
      (StateT.run (session.addText origin source text).run { tree := tree }).1 =
        (session.add origin source text).value.mapError Failure.problem := by
    unfold Session.addText
    rw [run_logged]
    cases (session.add origin source text).value <;> rfl
  cases resource with
  | text source held =>
    cases given
    exact added source
  | file file =>
    change file.read tree = .ok text at given
    change (StateT.run (session.addFile origin file).run { tree := tree }).1 = _
    unfold Session.addFile
    rw [run_tree, given]
    exact added file.locator

/-- A file that cannot be read is a finding, or the failure of the call if its path is
no path. -/
theorem answer_fault {fault : FileFault} (failed : call.content = .error fault) :
    call.answer session =
      if fault.isRefusal then
        .ok ({ session with
          diagnostics := session.diagnostics ++
            [SchemaFile.unreadable call.source fault.message] }, false)
      else .error (.file fault) := by
  obtain ⟨tree, origin, resource⟩ := call
  cases resource with
  | text source held => cases failed
  | file file =>
    change file.read tree = .error fault at failed
    change (StateT.run (session.addFile origin file).run { tree := tree }).1 = _
    unfold Session.addFile
    rw [run_tree, failed]
    dsimp only
    cases fault.isRefusal <;> rfl

/-- A text that is no schema is a finding and nothing else. -/
theorem add_error {origin : Origin} {source text : Text} {error : DocumentError}
    (failed : parseDocument text = .error error) :
    (session.add origin source text).value =
      .ok ({ session with
        diagnostics := session.diagnostics ++
          Problem.diagnosticsOfDocument (some source) error }, false) := by
  unfold Session.add
  rw [failed]

/-- A file that cannot be read for another reason than a refusal has no proper path. -/
theorem read_fault {tree : FileTree} {file : SchemaFile} {fault : FileFault}
    (failed : file.read tree = .error fault) (passed : fault.isRefusal = false) :
    fault = .embeddedNull ∨ ∃ cause, fault = .unencodable cause := by
  unfold SchemaFile.read at failed
  split at failed
  · cases failed
    cases passed
  · next undecoded =>
    cases fault with
    | embeddedNull => exact .inl rfl
    | unencodable cause => exact .inr ⟨cause, rfl⟩
    | undecodable cause => exact absurd failed (undecoded cause)
    | _ => cases passed

/-- A resource with a path is refused if it cannot be read. -/
theorem isRefusal_of_fault {fault : FileFault} (failed : call.content = .error fault)
    (given : ¬ call.Pathless) : fault.isRefusal = true := by
  cases refusal : fault.isRefusal with
  | true => rfl
  | false =>
    obtain ⟨tree, origin, source | file⟩ := call
    · cases failed
    · exact absurd ⟨fault, failed, read_fault failed refusal⟩ given

/-- A call for no path fails. -/
theorem answer_pathless (pathless : call.Pathless) :
    ∃ fault, call.answer session = .error (.file fault) := by
  obtain ⟨fault, failed, rfl | ⟨cause, rfl⟩⟩ := pathless
  · exact ⟨_, answer_fault failed⟩
  · exact ⟨_, answer_fault failed⟩

/-- A call for no path adds no findings. -/
theorem findings_pathless (pathless : call.Pathless) : call.findings = [] := by
  unfold findings
  obtain ⟨fault, failed, rfl | ⟨cause, rfl⟩⟩ := pathless
  · rw [failed]
    rfl
  · rw [failed]
    rfl

/-- A broken resource is answered with no, and its findings are all that it leaves. -/
theorem answer_broken {found : List Diagnostic} (broken : Broken call found)
    (given : ¬ call.Pathless) :
    call.answer session =
      .ok ({ session with diagnostics := session.diagnostics ++ found }, false) := by
  cases broken with
  | unreadable failed => rw [answer_fault failed, if_pos (isRefusal_of_fault failed given)]
  | @unscannable text error given failed =>
    have unparsed : parseDocument text = .error (.lexical error) := by
      rw [parseDocument, failed]
    rw [answer_text given, add_error unparsed]
    rfl
  | @ungrammatical text tokens first others given scanned failed =>
    have unparsed : parseDocument text = .error (.grammatical first others) := by
      rw [parseDocument, scanned]
      exact failed
    rw [answer_text given, add_error unparsed]
    rfl

/-- The findings of a broken resource are those it is broken by. -/
theorem findings_broken {found : List Diagnostic} (broken : Broken call found)
    (given : ¬ call.Pathless) : call.findings = found := by
  unfold findings
  cases broken with
  | unreadable failed => simp [failed, isRefusal_of_fault failed given]
  | unscannable given failed =>
    simp [given, parseDocument, failed, Problem.diagnosticsOfDocument]
  | ungrammatical given scanned failed =>
    simp [given, parseDocument, scanned, failed, Problem.diagnosticsOfDocument]

/-- A broken resource is not well formed. -/
theorem isWellFormed_broken {found : List Diagnostic} (broken : Broken call found) :
    call.isWellFormed = false := by
  unfold isWellFormed
  cases broken with
  | unreadable failed => simp [failed]
  | unscannable given failed => simp [given, parseDocument, failed, Except.isOk, Except.toBool]
  | ungrammatical given scanned failed =>
    simp [given, parseDocument, scanned, failed, Except.isOk, Except.toBool]

/-- Tokens that are no document have grammatical errors. -/
theorem definitionsOfTokens_error {tokens : List Token} {error : DocumentError}
    (failed : definitionsOfTokens tokens = .error error) :
    ∃ first others, error = .grammatical first others := by
  unfold definitionsOfTokens at failed
  dsimp only at failed
  split at failed
  · cases failed
  · next first others _ =>
    cases failed
    exact ⟨first, others, rfl⟩

/-- Every call is for a well-formed schema or for a broken one. -/
theorem cases (call : AddCall) : call.isWellFormed = true ∨ ∃ found, Broken call found := by
  cases given : call.content with
  | error fault => exact .inr ⟨_, .unreadable given⟩
  | ok text =>
    cases scanned : tokenize text with
    | error error => exact .inr ⟨_, .unscannable given scanned⟩
    | ok tokens =>
      cases parsed : definitionsOfTokens tokens with
      | error error =>
        obtain ⟨first, others, rfl⟩ := definitionsOfTokens_error parsed
        exact .inr ⟨_, .ungrammatical given scanned parsed⟩
      | ok definitions =>
        left
        simp [isWellFormed, given, parseDocument, scanned, parsed, Except.isOk, Except.toBool]

/-- The registry behind a call, which the findings have no part in. -/
def registryAfter (call : AddCall) (registry : Registry) : Registry :=
  match call.content with
  | .error _ => registry
  | .ok text =>
    match parseDocument text with
    | .error _ => registry
    | .ok definitions =>
      match (registry.addBatch call.origin call.source definitions).value with
      | .ok (next, _) => next
      | .error _ => registry

/-- A call changes the registry by what the registry was, and adds its findings. -/
theorem after_eq (call : AddCall) (session : Session) :
    call.after session =
      { session with
        registry := call.registryAfter session.registry,
        diagnostics := session.diagnostics ++ call.findings } := by
  unfold after registryAfter findings
  cases given : call.content with
  | error fault =>
    rw [answer_fault given]
    cases refusal : fault.isRefusal <;> simp [refusal]
  | ok text =>
    rw [answer_text given]
    cases parsed : parseDocument text with
    | error error =>
      rw [add_error parsed]
      simp only [parsed]
      rfl
    | ok definitions =>
      simp only [Session.add, parsed, List.append_nil]
      cases added : (session.registry.addBatch call.origin call.source definitions).value with
      | error problem => rfl
      | ok pair => rfl

/-- Only a well-formed schema changes the registry. -/
theorem registryAfter_unfit (unfit : call.isWellFormed = false) (registry : Registry) :
    call.registryAfter registry = registry := by
  unfold isWellFormed at unfit
  unfold registryAfter
  cases given : call.content with
  | error fault => rfl
  | ok text =>
    cases parsed : parseDocument text with
    | error error => simp only [parsed]
    | ok definitions => simp [given, parsed, Except.isOk, Except.toBool] at unfit

/-- A well-formed schema adds no findings of its own. -/
theorem findings_wellFormed (fine : call.isWellFormed = true) : call.findings = [] := by
  unfold isWellFormed at fine
  unfold findings
  cases given : call.content with
  | error fault => simp [given] at fine
  | ok text =>
    cases parsed : parseDocument text with
    | error error => simp [given, parsed, Except.isOk, Except.toBool] at fine
    | ok definitions => simp only [parsed]

/-! ## Sequences of calls -/

/-- The registry behind some calls. -/
def registryAfterAll (calls : List AddCall) (registry : Registry) : Registry :=
  calls.foldl (fun registry call => call.registryAfter registry) registry

/-- Calls change the registry by what the registry was, and add their findings in the
order of the calls. -/
theorem afterAll_eq (calls : List AddCall) (session : Session) :
    afterAll calls session =
      { session with
        registry := registryAfterAll calls session.registry,
        diagnostics := session.diagnostics ++ calls.flatMap findings } := by
  induction calls generalizing session with
  | nil => simp [afterAll, registryAfterAll]
  | cons call calls inductionHypothesis =>
    change afterAll calls (call.after session) = _
    rw [inductionHypothesis, after_eq]
    simp [registryAfterAll]

/-- Calls that are not for well-formed schemas can be left out of what the registry
becomes. -/
theorem registryAfterAll_filter (calls : List AddCall) (registry : Registry) :
    registryAfterAll (calls.filter isWellFormed) registry = registryAfterAll calls registry := by
  induction calls generalizing registry with
  | nil => rfl
  | cons call calls inductionHypothesis =>
    change _ = registryAfterAll calls (call.registryAfter registry)
    cases fine : call.isWellFormed with
    | true =>
      rw [List.filter_cons_of_pos fine]
      exact inductionHypothesis _
    | false =>
      rw [List.filter_cons_of_neg (by simp [fine]), registryAfter_unfit fine]
      exact inductionHypothesis _

/-- The calls for well-formed schemas add no findings. -/
theorem findings_filter (calls : List AddCall) :
    (calls.filter isWellFormed).flatMap findings = [] := by
  rw [List.flatMap_eq_nil_iff]
  intro call kept
  exact findings_wellFormed (List.mem_filter.mp kept).2

end AddCall

open AddCall

/-- A session behind some calls. -/
def loadedBy (defaultPackage : Text) (injectionModule : Option Text) (calls : List AddCall) :
    Session :=
  afterAll calls (Session.start defaultPackage injectionModule)

/-- A broken resource is invisible but for its findings, if it has a path. Each call for one
answers no, keeps the registry and adds exactly the findings it is broken by; a call for no
path fails, and nothing is added. A generation after any calls is then the generation after the
calls for well-formed schemas: the same artifacts, the same sink and the same events, with the
findings of loading in the order of the calls in front of its own, which are those of the
registry and then those of the modules. -/
theorem broken_resources_invisible {σ : Type} (defaultPackage : Text)
    (injectionModule : Option Text) (calls : List AddCall) (sink : Option (Sink σ)) (start : σ) :
    (∀ call : AddCall, call.isWellFormed = true ∨ ∃ found, Broken call found) ∧
      (∀ (call : AddCall) (found : List Diagnostic), Broken call found →
        call.isWellFormed = false) ∧
      (∀ (call : AddCall) (found : List Diagnostic), Broken call found → ¬ call.Pathless →
        call.findings = found ∧ ∀ session, call.answer session =
          .ok ({ session with diagnostics := session.diagnostics ++ found }, false)) ∧
      (∀ call : AddCall, call.Pathless → call.findings = [] ∧
        ∀ session, ∃ fault, call.answer session = .error (.file fault)) ∧
      (loadedBy defaultPackage injectionModule calls).registry =
        (loadedBy defaultPackage injectionModule (calls.filter isWellFormed)).registry ∧
      (loadedBy defaultPackage injectionModule calls).diagnostics = calls.flatMap findings ∧
      (loadedBy defaultPackage injectionModule (calls.filter isWellFormed)).diagnostics = [] ∧
      ∃ rest : Generated σ,
        rest = (loadedBy defaultPackage injectionModule (calls.filter isWellFormed)).generate sink
          start ∧
        (loadedBy defaultPackage injectionModule calls).generate sink start =
          { rest with
            outcome := rest.outcome.map (fun result =>
              { result with diagnostics := calls.flatMap findings ++ result.diagnostics }) } := by
  have whole := afterAll_eq calls (Session.start defaultPackage injectionModule)
  have kept := afterAll_eq (calls.filter isWellFormed)
    (Session.start defaultPackage injectionModule)
  rw [registryAfterAll_filter, findings_filter] at kept
  unfold loadedBy
  rw [whole, kept]
  refine ⟨cases, fun _ _ => isWellFormed_broken, ?_, ?_, rfl, rfl, rfl, _, rfl, ?_⟩
  · intro call found broken given
    exact ⟨findings_broken broken given, fun session => answer_broken broken given⟩
  · intro call pathless
    exact ⟨findings_pathless pathless, fun session => answer_pathless pathless⟩
  · unfold Session.generate
    simp only [Session.freeze, Session.start, Session.findings, List.nil_append, List.append_nil]
    generalize Registry.generate _ _ _ _ = generated
    cases generated.outcome <;> simp [Except.map]

/-- A directory in the place of a schema file. -/
def directoryCall : AddCall := ⟨⟨[], []⟩, .generation, .file ⟨⟨[], []⟩, "b"⟩⟩

/-- Calls of which the first and the last are for well-formed schemas. Between them come a
directory, a text with an open string, and a text whose second definition is not closed. -/
def unevenCalls : List AddCall :=
  [⟨⟨[], []⟩, .generation, .text "a" "scalar A"⟩, directoryCall,
    ⟨⟨[], []⟩, .reference, .text "c" "\""⟩,
    ⟨⟨[], []⟩, .generation, .text "d" "scalar D type E \x7b"⟩,
    ⟨⟨[], []⟩, .reference, .text "e" "scalar F"⟩]

/-- Of well-formed and broken resources in turn the well-formed ones are loaded, and each broken
one has its findings. -/
theorem broken_resources_invisible_mixed :
    (loadedBy "ns" none unevenCalls).registry.entries.map Entry.name =
      [("A" : Text), ("F" : Text)] ∧
    (loadedBy "ns" none unevenCalls).diagnostics.map Diagnostic.location =
      [("b" : Text), ("c:[1, 1]" : Text), ("d:[1, 18]" : Text)] ∧
    ∀ session, directoryCall.answer session =
      .ok ({ session with diagnostics := session.diagnostics ++
        [SchemaFile.unreadable "b" (FileFault.isDirectory ".").message] }, false) := by
  obtain ⟨-, -, broken, -, registry, diagnostics, -⟩ :=
    broken_resources_invisible "ns" none unevenCalls (none : Option (Sink Unit)) ()
  refine ⟨?_, ?_, (broken directoryCall _ (.unreadable rfl) ?_).2⟩
  · rw [registry]
    decide +kernel
  · rw [diagnostics]
    decide +kernel
  · rintro ⟨fault, failed, rfl | ⟨cause, rfl⟩⟩ <;> cases failed

/-- A file whose path holds the code point zero. -/
def nullCall : AddCall :=
  ⟨⟨[], []⟩, .generation, .file ⟨⟨[], [[.ofChar 'a', .ofNat 0, .ofChar 'b']]⟩, "x"⟩⟩

/-- The file cannot be read, and yet the call for it neither answers no nor adds a finding. -/
theorem nullCall_fails :
    Broken nullCall [SchemaFile.unreadable "x" FileFault.embeddedNull.message] ∧
    nullCall.findings = [] ∧
    nullCall.answer (Session.start "ns" none) = .error (.file .embeddedNull) := by
  have failed : nullCall.content = .error .embeddedNull := rfl
  exact ⟨.unreadable failed, rfl, answer_fault failed⟩

end SchemaForge
