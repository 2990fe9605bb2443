import CodeIndex.Path
import CodeIndex.Text.Percent

set_option autoImplicit false

/-!
# Resource identifiers

A uri names a document. It is kept in its normalised written form, so that two uris are equal
exactly when their texts are. Its parts are read off that text.

## Main definitions

* `Uri` — an identifier in normalised form.
* `Uri.host?` — its host, without user and service number.
* `Uri.path` — its path, without query and fragment.
* `Uri.toPath?` — the file that it names, if it names a local file.
* `Uri.ofPath` — the identifier of a file.
* `Uri.shortName` — the last segment of its path.
-/

namespace CodeIndex

/-- A resource identifier in normalised form. -/
structure Uri where
  text : String
deriving DecidableEq, Repr, Inhabited

namespace Uri

/-- Everything after the scheme and its colon. -/
def afterScheme (u : Uri) : List Char := (u.text.toList.dropWhile (· ≠ ':')).drop 1

/-- Whether a character ends the authority of a uri. -/
def endsAuthority (c : Char) : Bool := c == '/' || c == '?' || c == '#'

/-- Whether a character ends the path of a uri. -/
def endsPath (c : Char) : Bool := c == '?' || c == '#'

/-- The authority between a double slash and the path, if there is one. -/
def authority? (u : Uri) : Option (List Char) :=
  match u.afterScheme with
  | '/' :: '/' :: cs => some (cs.takeWhile fun c => !endsAuthority c)
  | _ => none

/-- The host: what is left of the authority without a user before it and a service number after
it. -/
def host? (u : Uri) : Option (List Char) :=
  u.authority?.map fun cs => (cs.reverse.takeWhile (· ≠ '@')).reverse.takeWhile (· ≠ ':')

/-- The path with its escapes. A path that begins with two slashes is written after a dot segment,
so that it does not read as an authority. -/
def path (u : Uri) : List Char :=
  let cs :=
    match u.afterScheme with
    | '/' :: '/' :: cs => cs.dropWhile fun c => !endsAuthority c
    | '/' :: '.' :: '/' :: '/' :: cs => '/' :: '/' :: cs
    | cs => cs
  cs.takeWhile fun c => !endsPath c

/-- Whether the uri has no host, or the local one. -/
def isLocal (u : Uri) : Bool :=
  match u.host? with
  | none => true
  | some host => host.isEmpty || String.ofList host == "localhost"

/-- Whether a path ends in a drive letter, which needs a slash after it. -/
def endsInDrive (bs : List UInt8) : Bool :=
  match bs.reverse.map fun b => Char.ofNat b.toNat with
  | c :: d :: _ :: _ => d.isAlpha && (c == ':' || c == '|')
  | _ => false

/-- The file that the uri names: the path with its escapes resolved. Only local uris with a path
from the root name a file. -/
def toPath? (u : Uri) : Option Path :=
  match u.isLocal, u.path with
  | true, '/' :: cs =>
    let bytes := Text.percentDecode ('/' :: cs)
    some ⟨if endsInDrive bytes then bytes ++ [Path.slash] else bytes⟩
  | _, _ => none

/-- Whether a character stands unescaped in a path segment of a file. -/
def keptInFileSegment (c : Char) : Bool :=
  !(c == ' ' || c == '"' || c == '#' || c == '<' || c == '>' || c == '?' || c == '\x60' ||
    c == '\x7b' || c == '\x7d' || c == '%' || c == '\\' || c == '/')

/-- The identifier of the file at a path from the root. -/
def ofPath (p : Path) : Uri :=
  let segments := p.components.flatMap fun c => '/' :: Text.percentEncode keptInFileSegment c.bytes
  ⟨"file://" ++ String.ofList (if segments.isEmpty then ['/'] else segments)⟩

/-- The identifier of the file at a path, which has to start at the root. -/
def ofPath? (p : Path) : Option Uri := if p.isAbsolute then some (ofPath p) else none

/-- The last segment of the path. -/
def shortName (u : Uri) : String :=
  String.ofList ((Text.pieces '/' u.path).getLast?.getD u.path)

end Uri

end CodeIndex
