import SchemaForge.Failure
import SchemaForge.File.Tree
import SchemaForge.Log

/-!
# Workspaces

A workspace is the files a run can see and the events it has told so far. Actions
on a workspace may fail, and what they did before stays done.
-/

namespace SchemaForge

/-- Files and the log of a run. -/
structure Workspace where
  /-- The files and directories. -/
  tree : FileTree
  /-- The events so far, in order. -/
  log : List LogEvent := []

/-- An action on a workspace. -/
abbrev Action (α : Type) := ExceptT Failure (StateM Workspace) α

namespace Action

/-- Fails. -/
def fail {α : Type} (failure : Failure) : Action α := throw failure

/-- The files as they are now. -/
def tree : Action FileTree := return (← get).tree

/-- Tells events. -/
def tellAll (events : List LogEvent) : Action Unit :=
  modify (fun workspace => { workspace with log := workspace.log ++ events })

/-- Tells one event. -/
def tell (event : LogEvent) : Action Unit := tellAll [event]

/-- A result with its events. -/
def logged {α : Type} (result : Logged α) : Action α := do
  tellAll result.log
  pure result.value

/-- A file operation on the files of the workspace. -/
def files {α : Type} (action : FileAction α) : Action α := do
  let workspace ← get
  let (outcome, tree) := StateT.run action.run workspace.tree
  set { workspace with tree := tree }
  match outcome with
  | .ok value => pure value
  | .error fault => fail (.file fault)

/-- A file question about the files of the workspace. -/
def asks {α : Type} (question : FileTree → Except FileFault α) : Action α := do
  match question (← tree) with
  | .ok value => pure value
  | .error fault => fail (.file fault)

end Action

end SchemaForge
