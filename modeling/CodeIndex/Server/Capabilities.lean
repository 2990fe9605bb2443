import CodeIndex.Language

set_option autoImplicit false

/-!
# Capabilities

What the client says it can do, and what the server offers in return. A feature that the client
lets register later is not offered at once, but registered once the client is ready.

## Main definitions

* `ClientCapabilities` — what the client can do.
* `ServerCapabilities`, `ClientCapabilities.offer` — what the server offers at once.
* `Registration`, `ClientCapabilities.registrations` — what the server registers later.
-/

namespace CodeIndex

/-- What the client can do. -/
structure ClientCapabilities where
  dynamicDefinition : Bool := false
  dynamicReferences : Bool := false
  dynamicCompletion : Bool := false
  dynamicWatchedFiles : Bool := false
  workDoneProgress : Bool := false
deriving DecidableEq, Repr, Inhabited

/-- What the server offers at once, apart from what it always offers. -/
structure ServerCapabilities where
  definition : Bool
  references : Bool
  completion : Bool
  /-- The patterns of the files whose renaming is reported. -/
  renameGlobs : List String
deriving DecidableEq, Repr, Inhabited

/-- What a registration is about. -/
inductive RegistrationScope where
  /-- The documents of a language under some patterns. -/
  | documents (language : String) (globs : List String)
  /-- The files on disk under some patterns. -/
  | watchers (globs : List String)
deriving DecidableEq, Repr

/-- A feature that is registered later. -/
structure Registration where
  id : String
  method : String
  scope : RegistrationScope
deriving DecidableEq, Repr

namespace ClientCapabilities

variable (c : ClientCapabilities)

/-- What the server offers at once. -/
def offer (language : Language) : ServerCapabilities where
  definition := !c.dynamicDefinition
  references := !c.dynamicReferences
  completion := language.completion.isSome && !c.dynamicCompletion
  renameGlobs := language.globs

/-- What the server registers later. -/
def registrations (language : Language) : List Registration :=
  let documents := RegistrationScope.documents language.id language.globs
  (if c.dynamicDefinition then
    [⟨"arbor-definition", "textDocument/definition", documents⟩] else []) ++
  (if c.dynamicReferences then
    [⟨"arbor-references", "textDocument/references", documents⟩] else []) ++
  (if c.dynamicCompletion && language.completion.isSome then
    [⟨"arbor-completion", "textDocument/completion", documents⟩] else []) ++
  (if c.dynamicWatchedFiles then
    [⟨"arbor-watched-files", "workspace/didChangeWatchedFiles", .watchers language.globs⟩] else [])

end ClientCapabilities

end CodeIndex
