import Localizable.LocalizedMessage

/-!
# Workspaces

A workspace is a registry that functions are entered in over time, with copies of
it taken on the way and messages made in between. A copy never changes. A message
of a shared workspace follows the registry, and any other message keeps the one it
was made with.
-/

namespace Localizable

structure Workspace where
  /-- Whether messages follow the registry as it changes. -/
  shared : Bool
  registry : Registry
  snapshots : Dictionary Registry
  messages : Dictionary LocalizedMessage

namespace Workspace

def empty (shared : Bool) : Workspace := ⟨shared, .empty, .empty, .empty⟩

/-- Changes the registry and nothing that was made from it. -/
def change (workspace : Workspace) (step : Registry → Registry) : Workspace :=
  { workspace with registry := step workspace.registry }

/-- Keeps a copy of the registry under a name. -/
def takeSnapshot (workspace : Workspace) (name : String) : Workspace :=
  { workspace with snapshots := workspace.snapshots.insert name workspace.registry }

/-- The registry, or a copy of it. A copy that was never taken is empty. -/
def registryAt (workspace : Workspace) : Option String → Registry
  | none => workspace.registry
  | some name => (workspace.snapshots.get? name).getD .empty

/-- The registry that a message keeps: a copy that it names, or the registry as it is unless the
workspace is shared. -/
def keptRegistry (workspace : Workspace) (snapshot : Option String) : Option Registry :=
  if snapshot.isNone && workspace.shared then none else some (workspace.registryAt snapshot)

/-- Makes a message under a name. A source that is no message leaves the workspace as it was. -/
def addMessage (workspace : Workspace) (name locale source : String) (snapshot : Option String) :
    Except ParseError (LocalizedMessage × Workspace) :=
  match LocalizedMessage.ofSource locale source (workspace.keptRegistry snapshot) with
  | .error error => .error error
  | .ok localized => .ok (localized, { workspace with messages := workspace.messages.insert name localized })

end Workspace
end Localizable
