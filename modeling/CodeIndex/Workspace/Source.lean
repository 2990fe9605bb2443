import CodeIndex.Disk.Basic
import CodeIndex.Uri.Basic

set_option autoImplicit false

/-!
# Reading source files

Access to the text of files on disk, by path or by uri, with an optional size limit.

## Main definitions

* `ReadError` — why a file could not be read, with `ReadError.message` as its wording.
* `readSource`, `readUri` — the text of a file.
-/

namespace CodeIndex

/-- Why a file could not be read. -/
inductive ReadError where
  | io (path : Path) (cause : DiskError)
  | notAFile (uri : Uri)
  | tooLarge (path : Path) (size limit : Nat)
deriving DecidableEq, Repr

/-- The wording of an error. -/
def ReadError.message : ReadError → String
  | io path cause => "failed to read " ++ path.display ++ ": " ++ cause.text
  | notAFile uri => uri.text ++ " is not a local file uri"
  | tooLarge path size limit =>
    path.display ++ " is " ++ toString size ++ " bytes, above the " ++ toString limit ++
      " byte indexing limit"

/-- The text of the file at a path. A file above the limit is refused before it is read. -/
def readSource (disk : Disk) (path : Path) (limit : Option Nat) : Except ReadError String :=
  let read : Except ReadError String :=
    match disk.readText path with
    | .ok text => .ok text
    | .error e => .error (.io path e)
  match limit with
  | none => read
  | some limit =>
    match disk.sizeAt path with
    | .error e => .error (.io path e)
    | .ok size => if limit < size then .error (.tooLarge path size limit) else read

/-- The text of the file that a uri names. -/
def readUri (disk : Disk) (uri : Uri) : Except ReadError String :=
  match uri.toPath? with
  | none => .error (.notAFile uri)
  | some path => readSource disk path none

end CodeIndex
