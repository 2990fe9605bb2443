import CodeIndex.Json.Value
import CodeIndex.Server.Handlers

set_option autoImplicit false

/-!
# Messages from the client

How a message is read from its method and its parameters. Only the methods that the server handles
are known; a missing member takes the value that a client means by leaving it out.

## Main definitions

* `Request.decode?` — a message with an answer.
* `Notification.decode?` — a message without one.
-/

namespace CodeIndex

namespace Protocol

/-- The uri that a text denotes; a text that is none stands for itself. -/
def uriOf (text : String) : Uri := (Uri.parse? text).getD ⟨text⟩

/-- The uri under a key. -/
def uriAt (key : String) (j : Json) : Uri := uriOf ((j.stringAt? key).getD "")

/-- The document that the parameters name. -/
def document (params : Json) : Json := params.getAt "textDocument"

/-- The uri of the document that the parameters name. -/
def documentUri (params : Json) : Uri := uriAt "uri" (document params)

/-- The coordinate under a key. -/
def coordinate (key : String) (j : Json) : UInt32 := UInt32.ofNat ((j.natAt? key).getD 0)

/-- The position that the parameters name. -/
def position (params : Json) : Editor.Position :=
  ⟨coordinate "line" (params.getAt "position"), coordinate "character" (params.getAt "position")⟩

/-- The truth value along some keys, false if it is absent. -/
def flagAlong (keys : List String) (j : Json) : Bool :=
  (keys.foldl (fun j key => j.getAt key) j).bool?.getD false

/-- What the client can do. -/
def clientCapabilities (j : Json) : ClientCapabilities where
  dynamicDefinition := flagAlong ["textDocument", "definition", "dynamicRegistration"] j
  dynamicReferences := flagAlong ["textDocument", "references", "dynamicRegistration"] j
  dynamicCompletion := flagAlong ["textDocument", "completion", "dynamicRegistration"] j
  dynamicWatchedFiles := flagAlong ["workspace", "didChangeWatchedFiles", "dynamicRegistration"] j
  workDoneProgress := flagAlong ["window", "workDoneProgress"] j

/-- The uris of some folders. -/
def folderUris (folders : List Json) : List Uri := folders.map (uriAt "uri")

/-- What the client says when it connects. -/
def greeting (params : Json) : Greeting where
  options := params.present? "initializationOptions"
  capabilities := clientCapabilities (params.getAt "capabilities")
  folders := ((params.present? "workspaceFolders").bind Json.array?).map folderUris
  root := (params.stringAt? "rootUri").map uriOf

/-- A change of a text. -/
def textChange (j : Json) : TextChange :=
  ⟨(j.present? "range").isSome, (j.stringAt? "text").getD ""⟩

/-- What happened to a watched file. -/
def fileEvent (j : Json) : Uri × FileEvent :=
  (uriAt "uri" j, if j.natAt? "type" = some 3 then .deleted else .touched)

/-- The old and the new name of a renamed file. -/
def renamedFile (j : Json) : String × String :=
  ((j.stringAt? "oldUri").getD "", (j.stringAt? "newUri").getD "")

end Protocol

open Protocol

/-- Read a message with an answer. -/
def Request.decode? (method : String) (params : Json) : Option Request :=
  match method with
  | "initialize" => some (.connect (greeting params))
  | "shutdown" => some .shutdown
  | "textDocument/hover" => some (.hover (documentUri params) (position params))
  | "textDocument/definition" => some (.definition (documentUri params) (position params))
  | "textDocument/references" =>
    some (.references (documentUri params) (position params)
      (flagAlong ["context", "includeDeclaration"] params))
  | "textDocument/completion" => some (.completion (documentUri params) (position params))
  | "textDocument/documentSymbol" => some (.outline (documentUri params))
  | "workspace/symbol" => some (.symbols ((params.stringAt? "query").getD ""))
  | _ => none

/-- Read a message without an answer. -/
def Notification.decode? (method : String) (params : Json) : Option Notification :=
  let version := ((document params).intAt? "version").getD 0
  match method with
  | "initialized" => some .ready
  | "workspace/didChangeConfiguration" => some (.configured (params.getAt "settings"))
  | "textDocument/didOpen" =>
    some (.opened (documentUri params) (((document params).stringAt? "text").getD "") version)
  | "textDocument/didChange" =>
    some (.changed (documentUri params) ((params.arrayAt "contentChanges").map textChange) version)
  | "textDocument/didSave" => some (.saved (documentUri params) (params.stringAt? "text"))
  | "textDocument/didClose" => some (.closed (documentUri params))
  | "workspace/didChangeWorkspaceFolders" =>
    let event := params.getAt "event"
    some (.foldersChanged (folderUris (event.arrayAt "added"))
      (folderUris (event.arrayAt "removed")))
  | "workspace/didChangeWatchedFiles" =>
    some (.watched ((params.arrayAt "changes").map fileEvent))
  | "workspace/didRenameFiles" => some (.renamed ((params.arrayAt "files").map renamedFile))
  | _ => none

end CodeIndex
