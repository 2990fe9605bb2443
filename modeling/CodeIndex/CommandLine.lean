set_option autoImplicit false

/-!
# The command line

The options that every adapter program takes: whether to log in detail, and where. Arguments are
taken one after the other, and the first problem ends the reading.

## Main definitions

* `CommandLine` — the options.
* `UsageProblem` — why there are none.
* `ArgumentReading` — what was read so far.
* `CommandLine.parse` — read arguments, the program name first.

## Implementation notes

The value of an option that stands in an argument of its own is only taken over when the next
option is recognised, or at the end. Until then an argument that is not recognised is reported
first.
-/

namespace CodeIndex

/-- The options of a program. -/
structure CommandLine where
  verbose : Bool := false
  logFile : Option String := none
deriving DecidableEq, Repr, Inhabited

/-- Why the options could not be read, or what was asked for instead. -/
inductive UsageProblem where
  /-- An option lacks its value, or the value is empty. -/
  | missingValue
  /-- An argument is neither an option nor the value of one. -/
  | unknownArgument
  /-- An option is given twice. -/
  | repeated
  /-- An option without a value is given one. -/
  | superfluousValue
  /-- The help text was asked for. -/
  | helpRequested
  /-- The version was asked for. -/
  | versionRequested
deriving DecidableEq, Repr, Inhabited

/-- The options that are recognised, apart from the log file. -/
inductive Switch where
  | verbose
  | help
  | version
deriving DecidableEq, Repr

/-- The switch with a long name. -/
def Switch.long? : String → Option Switch
  | "verbose" => some .verbose
  | "help" => some .help
  | "version" => some .version
  | _ => none

/-- The switch with a letter. -/
def Switch.short? : Char → Option Switch
  | 'v' => some .verbose
  | 'h' => some .help
  | 'V' => some .version
  | _ => none

/-- The value of the log file option, while it is being read. -/
inductive PendingValue where
  /-- No value is expected. -/
  | idle
  /-- The next argument is the value. -/
  | awaited
  /-- The value was read, and is not taken over yet. -/
  | given (value : String)
deriving DecidableEq, Repr

/-- What was read so far. -/
structure ArgumentReading where
  taken : CommandLine
  pending : PendingValue
deriving DecidableEq, Repr

namespace ArgumentReading

/-- Take over a log file, which is not empty and given once. -/
def takeLogFile (r : ArgumentReading) (value : String) : Except UsageProblem ArgumentReading :=
  if r.taken.logFile.isSome then .error .repeated
  else if value = "" then .error .missingValue
  else .ok { taken := { r.taken with logFile := some value }, pending := .idle }

/-- Take over a value that was read. -/
def settle (r : ArgumentReading) : Except UsageProblem ArgumentReading :=
  match r.pending with
  | .idle => .ok r
  | .awaited => .error .missingValue
  | .given value => r.takeLogFile value

/-- Obey a switch. -/
def obey (r : ArgumentReading) (s : Switch) : Except UsageProblem ArgumentReading :=
  match r.settle with
  | .error e => .error e
  | .ok r =>
    match s with
    | .help => .error .helpRequested
    | .version => .error .versionRequested
    | .verbose =>
      if r.taken.verbose then .error .repeated
      else .ok { r with taken := { r.taken with verbose := true } }

/-- Read an option by its long name, with the value attached to it. -/
def readLong (r : ArgumentReading) (name : String) (value : Option String) :
    Except UsageProblem ArgumentReading :=
  if name = "log-file" then
    match r.settle, value with
    | .error e, _ => .error e
    | .ok r, some value => r.takeLogFile value
    | .ok r, none => .ok { r with pending := .awaited }
  else
    match Switch.long? name, value with
    | none, _ => .error .unknownArgument
    | some _, some _ => .error .superfluousValue
    | some s, none => r.obey s

/-- Read a cluster of switches by their letters. -/
def readShort (r : ArgumentReading) : List Char → Except UsageProblem ArgumentReading
  | [] => .ok r
  | c :: cs =>
    match Switch.short? c with
    | none => .error .unknownArgument
    | some s =>
      match r.obey s with
      | .error e => .error e
      | .ok r => readShort r cs

/-- Read an argument that is no option. -/
def readPlain (r : ArgumentReading) (arg : String) : Except UsageProblem ArgumentReading :=
  match r.pending with
  | .awaited => .ok { r with pending := .given arg }
  | .idle | .given _ => .error .unknownArgument

/-- Read one argument. -/
def read (r : ArgumentReading) (arg : String) : Except UsageProblem ArgumentReading :=
  match arg.toList with
  | '-' :: '-' :: body =>
    r.readLong (String.ofList (body.takeWhile (· ≠ '=')))
      (match body.dropWhile (· ≠ '=') with
      | [] => none
      | _ :: value => some (String.ofList value))
  | '-' :: c :: cs => r.readShort (c :: cs)
  | _ => r.readPlain arg

/-- Read all arguments. Nothing is expected after a lone double dash. -/
def readAll (r : ArgumentReading) : List String → Except UsageProblem ArgumentReading
  | [] => r.settle
  | "--" :: args => if args.isEmpty then r.settle else .error .unknownArgument
  | arg :: args =>
    match r.read arg with
    | .error e => .error e
    | .ok r => readAll r args

end ArgumentReading

/-- Read the arguments of a program, its name first. -/
def CommandLine.parse (argv : List String) : Except UsageProblem CommandLine :=
  match ArgumentReading.readAll ⟨{}, .idle⟩ argv.tail with
  | .error e => .error e
  | .ok r => .ok r.taken

end CodeIndex
