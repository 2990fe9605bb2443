import CodeIndex.Uri.Basic

set_option autoImplicit false

/-!
# Reading resource identifiers

A written identifier is brought to normal form while it is read: the scheme and the host in lower
case, dots in the path resolved, the usual service number dropped, and characters that may not stand
in a part escaped. Escapes that are already there stay as they are written.

## Main definitions

* `Uri.parse?` — the identifier that a text spells, if it spells one.

## Implementation notes

Hosts of web and file identifiers are ASCII names. The web schemes and `file` treat a backslash
like a slash.
-/

namespace CodeIndex

namespace Uri

namespace Parser

/-- A text with the characters escaped that `keep` refuses. -/
def escape (keep : Char → Bool) (cs : List Char) : List Char :=
  Text.percentEncode keep (Text.encodeUtf8 cs)

/-- The ways in which the part after the scheme is read. -/
inductive Kind where
  | file
  | web
  | other
deriving DecidableEq, Repr

/-- The schemes of the web and the usual service number of each. -/
def webServices : List (String × Nat) :=
  [("http", 80), ("https", 443), ("ws", 80), ("wss", 443), ("ftp", 21)]

/-- How identifiers of a scheme are read. -/
def kindOf (scheme : String) : Kind :=
  if scheme == "file" then .file
  else if webServices.any (·.1 == scheme) then .web
  else .other

/-- The text without spaces and control characters at its ends, tabs and line breaks left out. -/
def clean (cs : List Char) : List Char :=
  let outer (c : Char) : Bool := decide (c.toNat ≤ 0x20)
  ((cs.dropWhile outer).reverse.dropWhile outer).reverse.filter fun c =>
    !(c == '\t' || c == '\n' || c == '\r')

/-- Split off the scheme, in lower case. -/
def scheme? (cs : List Char) : Option (String × List Char) :=
  let name := cs.takeWhile (· ≠ ':')
  let isSchemeChar (c : Char) : Bool := c.isAlphanum || c == '+' || c == '-' || c == '.'
  match name, cs.dropWhile (· ≠ ':') with
  | c :: _, _ :: rest =>
    if c.isAlpha && name.all isSchemeChar then some (String.ofList (name.map Char.toLower), rest)
    else none
  | _, _ => none

/-- Whether a character counts as a slash. -/
def isSlash (kind : Kind) (c : Char) : Bool := c == '/' || (kind != .other && c == '\\')

/-- Whether a character may not stand in any host. -/
def forbiddenInHost (c : Char) : Bool :=
  c == '\x00' || c == '\t' || c == '\n' || c == '\r' || c == ' ' || c == '#' || c == '/' ||
    c == ':' || c == '<' || c == '>' || c == '?' || c == '@' || c == '[' || c == '\\' ||
    c == ']' || c == '^' || c == '|'

/-- The normal form of a host. -/
def host? (kind : Kind) (cs : List Char) : Option (List Char) :=
  match kind with
  | .other => if cs.any forbiddenInHost then none else some (escape (fun _ => true) cs)
  | _ =>
    let name := (Text.decodeUtf8Lossy (Text.percentDecode cs)).map Char.toLower
    let refused (c : Char) : Bool :=
      forbiddenInHost c || c == '%' || decide (c.toNat ≤ 0x1F) || decide (0x7F ≤ c.toNat)
    if name.any refused then none else some name

/-- The normal form of the service number after a host: no leading zeros, and nothing for the usual
number of the scheme. -/
def service? (scheme : String) (cs : List Char) : Option (List Char) :=
  if cs.isEmpty then some []
  else if !cs.all Char.isDigit then none
  else
    let n := cs.foldl (fun n c => n * 10 + (c.toNat - '0'.toNat)) 0
    if 65535 < n then none
    else if webServices.lookup scheme == some n then some []
    else some (':' :: (toString n).toList)

/-- Whether a character stands unescaped in the user part of an authority. -/
def keptInUser (c : Char) : Bool :=
  keptInFileSegment c && !(c == ':' || c == ';' || c == '=' || c == '@' || c == '[' || c == ']' ||
    c == '^' || c == '|') || c == '%'

/-- The normal form of what precedes the last at sign of an authority. -/
def user (cs : List Char) : List Char :=
  let name := cs.takeWhile (· ≠ ':')
  let secret := (cs.dropWhile (· ≠ ':')).drop 1
  let written := escape keptInUser name ++
    (if secret.isEmpty then [] else ':' :: escape keptInUser secret)
  if written.isEmpty then [] else written ++ ['@']

/-- The normal form of an authority. -/
def authority? (kind : Kind) (scheme : String) (cs : List Char) : Option (List Char) :=
  let hostAndService := (cs.reverse.takeWhile (· ≠ '@')).reverse
  let userPart := cs.take (cs.length - hostAndService.length - 1)
  let hostPart := hostAndService.takeWhile (· ≠ ':')
  let servicePart := (hostAndService.dropWhile (· ≠ ':')).drop 1
  match host? kind hostPart, service? scheme servicePart with
  | some host, some service =>
    if host.isEmpty && (kind == .web || cs.contains '@' || !servicePart.isEmpty) then none
    else some (user userPart ++ host ++ service)
  | _, _ => none

/-- Whether a segment stands for the enclosing directory. -/
def isDoubleDot (cs : List Char) : Bool :=
  ["..", ".%2e", "%2e.", "%2e%2e"].contains (String.ofList (cs.map Char.toLower))

/-- Whether a segment stands for the directory itself. -/
def isSingleDot (cs : List Char) : Bool :=
  [".", "%2e"].contains (String.ofList (cs.map Char.toLower))

/-- Whether a segment is a drive letter. -/
def isDrive : List Char → Bool
  | [c, d] => c.isAlpha && (d == ':' || d == '|')
  | _ => false

/-- Whether a character stands unescaped in a path. -/
def keptInPath (c : Char) : Bool :=
  !(c == ' ' || c == '"' || c == '#' || c == '<' || c == '>' || c == '?' || c == '\x60' ||
    c == '\x7b' || c == '\x7d')

/-- Leave the innermost directory; a drive letter at the root of a file path stays. -/
def shorten (kind : Kind) (done : List (List Char)) : List (List Char) :=
  match done with
  | [] => []
  | [c] => if kind == .file && isDrive c then [c] else []
  | _ :: rest => rest

/-- Resolve the dots among the segments of a path; `done` holds the segments so far, reversed. -/
def resolve (kind : Kind) (done : List (List Char)) : List (List Char) → List (List Char)
  | [] => done.reverse
  | s :: rest =>
    let ended (done : List (List Char)) := if rest.isEmpty then [] :: done else done
    if isDoubleDot s then resolve kind (ended (shorten kind done)) rest
    else if isSingleDot s then resolve kind (ended done) rest
    else
      let s := if kind == .file && done.isEmpty && isDrive s then s.take 1 ++ [':'] else s
      resolve kind (escape keptInPath s :: done) rest

/-- The normal form of a path from the root, whose first slash may be missing. -/
def hierarchical (kind : Kind) (cs : List Char) : List Char :=
  let cs := cs.map fun c => if isSlash kind c then '/' else c
  let body :=
    match cs with
    | '/' :: rest => rest
    | rest => rest
  (resolve kind [] (Text.pieces '/' body)).flatMap ('/' :: ·)

/-- Whether a character stands unescaped in a query. -/
def keptInQuery (kind : Kind) (c : Char) : Bool :=
  !(c == ' ' || c == '"' || c == '#' || c == '<' || c == '>' || (kind != .other && c == '\x27'))

/-- Whether a character stands unescaped in a fragment. -/
def keptInFragment (c : Char) : Bool :=
  !(c == ' ' || c == '"' || c == '<' || c == '>' || c == '\x60')

/-- The normal form of the query and the fragment. -/
def tail (kind : Kind) (cs : List Char) : List Char :=
  let query := cs.takeWhile (· ≠ '#')
  let fragment := cs.dropWhile (· ≠ '#')
  (match query with
    | '?' :: q => '?' :: escape (keptInQuery kind) q
    | _ => []) ++
  (match fragment with
    | '#' :: f => '#' :: escape keptInFragment f
    | _ => [])

/-- The characters before and from the first one that a predicate accepts. -/
def breakAt (stop : Char → Bool) (cs : List Char) : List Char × List Char :=
  (cs.takeWhile fun c => !stop c, cs.dropWhile fun c => !stop c)

/-- The normal form of what follows `file:`. A drive letter is never a host. -/
def file? (cs : List Char) : Option (List Char) :=
  let slash := isSlash .file
  let after (host rest : List Char) :=
    let (path, rest) := breakAt endsPath rest
    some ('/' :: '/' :: host ++ hierarchical .file path ++ tail .file rest)
  match cs with
  | a :: b :: rest =>
    if slash a && slash b then
      let (host, path) := breakAt (fun c => slash c || endsPath c) rest
      if isDrive host then after [] rest
      else
        match host? .file host with
        | some name => after (if String.ofList name == "localhost" then [] else name) path
        | none => none
    else after [] cs
  | _ => after [] cs

/-- The normal form of what follows a web scheme: any number of slashes, then an authority. -/
def web? (scheme : String) (cs : List Char) : Option (List Char) :=
  let slash := isSlash .web
  let (auth, rest) := breakAt (fun c => slash c || endsPath c) (cs.dropWhile slash)
  let (path, rest) := breakAt endsPath rest
  (authority? .web scheme auth).map fun auth =>
    '/' :: '/' :: auth ++ hierarchical .web path ++ tail .web rest

/-- The normal form of what follows any other scheme: an authority, a path from the root, or plain
text. -/
def other? (scheme : String) (cs : List Char) : Option (List Char) :=
  match cs with
  | '/' :: '/' :: rest =>
    let (auth, rest) := breakAt endsAuthority rest
    let (path, rest) := breakAt endsPath rest
    (authority? .other scheme auth).map fun auth =>
      '/' :: '/' :: auth ++ (if path.isEmpty then [] else hierarchical .other path) ++
        tail .other rest
  | '/' :: _ =>
    let (path, rest) := breakAt endsPath cs
    let path := hierarchical .other path
    let path := if "//".toList.isPrefixOf path then "/.".toList ++ path else path
    some (path ++ tail .other rest)
  | _ =>
    let (text, rest) := breakAt endsPath cs
    some (escape (fun _ => true) text ++ tail .other rest)

end Parser

/-- The identifier that a text spells, in normal form, if it spells one. -/
def parse? (s : String) : Option Uri :=
  match Parser.scheme? (Parser.clean s.toList) with
  | none => none
  | some (scheme, rest) =>
    let body :=
      match Parser.kindOf scheme with
      | .file => Parser.file? rest
      | .web => Parser.web? scheme rest
      | .other => Parser.other? scheme rest
    body.map fun cs => ⟨scheme ++ ":" ++ String.ofList cs⟩

end Uri

end CodeIndex
