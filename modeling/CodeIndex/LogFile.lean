import CodeIndex.CommandLine
import CodeIndex.Disk.Edit

set_option autoImplicit false

/-!
# The log file

Where a program writes its log: the file that the command line names, else one in a hidden
directory of the home directory, else one in the directory for temporary files.

## Main definitions

* `LogFile.prepare` — choose the log file and create it with the directories it needs.
-/

namespace CodeIndex

namespace LogFile

/-- The log file of a program when the command line names none. The hidden directory is created on
the way. -/
def default (disk : Disk) (home temporary : Path) (name : String) : Disk × Path :=
  let file := Path.ofText (name ++ ".log")
  let directory := home.join (Path.ofText ("." ++ name))
  match disk.makeDirectories directory with
  | .ok (disk, _) => (disk, directory.join file)
  | .error _ => (disk, temporary.join file)

/-- Create an empty file with its directories, unless it exists. -/
def touch (disk : Disk) (p : Path) : Disk :=
  match disk.canonical p with
  | .ok _ => disk
  | .error _ =>
    match disk.put p (.file (.text "")) with
    | .ok disk => disk
    | .error _ => disk

/-- Choose the log file of a program and create it. A path without a file name of its own gets the
file in its parent. -/
def prepare (disk : Disk) (home temporary : Path) (name : String) (options : CommandLine) :
    Disk × Path :=
  let (disk, path) :=
    match options.logFile with
    | some text => (disk, Path.ofText text)
    | none => default disk home temporary name
  let file := path.fileName?.getD (FileName.ofText (name ++ ".log"))
  (touch disk ((path.parent?.getD ".").join file.path), path)

end LogFile

end CodeIndex
