/-!
# The command line

The arguments are read from the first to the last.  A short option may be joined with others after
one dash, and its value may follow at once, after an equals sign or as the next argument.  A value
is stored only when the next option begins, so that a missing value is reported then.  Help and
version end the reading at once.
-/

namespace ScrobbleRelay.CommandLine

/-- An option of the command line. -/
inductive Flag
  | config
  | verbose
  | authLastfm
  | help
  | version
  deriving Repr, DecidableEq

namespace Flag

/-- All options in their order. -/
def all : List Flag := [config, verbose, authLastfm, help, version]

def long : Flag → String
  | config => "config"
  | verbose => "verbose"
  | authLastfm => "auth-lastfm"
  | help => "help"
  | version => "version"

def short? : Flag → Option Char
  | config => some 'c'
  | verbose => some 'v'
  | authLastfm => none
  | help => some 'h'
  | version => some 'V'

/-- An option as messages show it. -/
def shown : Flag → String
  | config => "--config <CONFIG>"
  | flag => "--" ++ flag.long

/-- Whether an option asks for a run of the program; help and version end the reading instead. -/
def setsRun : Flag → Bool
  | config | verbose | authLastfm => true
  | help | version => false

def ofLong? (name : String) : Option Flag := all.find? fun flag => flag.long == name

def ofShort? (c : Char) : Option Flag := all.find? fun flag => flag.short? == some c

end Flag

/-- What a command line asks for. -/
structure Options where
  config : Option String
  verbose : Bool
  authLastfm : Bool
  deriving Repr, DecidableEq

/-- Why a command line was refused. -/
inductive UsageError
  | missingValue
  | repeated (flag : Flag)
  | unknown (argument : String) (similar : Option Flag) (used : List Flag)
  | unneededValue (value : String) (flag : Flag) (used : List Flag)
  deriving Repr, DecidableEq

/-- Why no program is run. -/
inductive Refusal
  | help
  | version
  | usage (error : UsageError)
  deriving Repr, DecidableEq

/-! ### Similar names -/

/-- Mark the first free place, from `least` to below `most`, at which a character stands; `place` is
the number of the first entry. -/
def markFirst (c : Char) (least most : Nat) : Nat → List (Char × Bool) → Option (List (Char × Bool))
  | _, [] => none
  | place, (d, taken) :: rest =>
    if place < most && least ≤ place && c == d && !taken then some ((d, true) :: rest)
    else (markFirst c least most (place + 1) rest).map fun rest => (d, taken) :: rest

/-- The characters of a name that also stand in another one, not too far off, and the other name
with these marked. -/
def common (range : Nat) : Nat → List Char → List (Char × Bool) → List Char × List (Char × Bool)
  | _, [], other => ([], other)
  | place, c :: rest, other =>
    match markFirst c (place - range) (place + range + 1) 0 other with
    | some other =>
      let (shared, other) := common range (place + 1) rest other
      (c :: shared, other)
    | none => common range (place + 1) rest other

/-- The Jaro similarity of two names as a fraction: numerator and denominator. -/
def similarity (a b : String) : Nat × Nat :=
  let x := a.toList
  let y := b.toList
  let (shared, marked) := common (max x.length y.length / 2 - 1) 0 x (y.map fun c => (c, false))
  let partner := (marked.filter (·.2)).map (·.1)
  let m := shared.length
  let swaps := ((shared.zip partner).filter fun (c, d) => c != d).length / 2
  if m = 0 then (0, 1)
  else
    (m * m * y.length + m * m * x.length + (m - swaps) * x.length * y.length,
      3 * m * x.length * y.length)

/-- Whether one fraction is at most as great as another. -/
def atMost (p q : Nat × Nat) : Bool := p.1 * q.2 ≤ q.1 * p.2

/-- The option with the name most similar to a text, if it is similar enough; the last one of
several. -/
def similar? (name : String) : Option Flag :=
  let scored := (Flag.all.map fun flag => (similarity name flag.long, flag)).filter fun (p, _) =>
    7 * p.2 < 10 * p.1
  (scored.foldl
    (fun best entry =>
      match best with
      | some (p, flag) => if atMost p entry.1 then some entry else some (p, flag)
      | none => some entry) none).map (·.2)

/-! ### Reading -/

/-- A value on its way to its option: awaited, or given and not yet stored. -/
inductive Pending
  | awaited
  | given (value : String)
  deriving Repr, DecidableEq

/-- The options read so far, in the order in which they were given, and the value on its way. -/
structure Scan where
  options : Options
  used : List Flag
  pending : Option Pending
  deriving Repr, DecidableEq

/-- The scan before the first argument. -/
def Scan.start : Scan := ⟨⟨none, false, false⟩, [], none⟩

/-- The flags of a scan with one more used. -/
def Scan.uses (s : Scan) (flag : Flag) : List Flag :=
  if flag ∈ s.used then s.used else s.used ++ [flag]

/-- Store the path of the settings file. -/
def Scan.store (s : Scan) (value : String) : Except Refusal Scan :=
  if .config ∈ s.used then .error (.usage (.repeated .config))
  else if value.isEmpty then .error (.usage .missingValue)
  else .ok ⟨{ s.options with config := some value }, s.uses .config, none⟩

/-- Store the value on its way. -/
def Scan.settle (s : Scan) : Except Refusal Scan :=
  match s.pending with
  | none => .ok s
  | some .awaited => .error (.usage .missingValue)
  | some (.given value) => { s with pending := none }.store value

/-- The options counted as used once the value on its way has been tried: a path that is stored
counts, also an empty one that is then refused, and a second path takes the first one away. -/
def Scan.usedOnceSettled (s : Scan) : List Flag :=
  match s.pending with
  | some (.given _) => if .config ∈ s.used then s.used.erase .config else s.uses .config
  | _ => s.used

/-- An option without a value. -/
def Scan.set (s : Scan) (flag : Flag) : Except Refusal Scan := do
  let s ← s.settle
  match flag with
  | .help => .error .help
  | .version => .error .version
  | .config => return { s with pending := some .awaited }
  | .verbose =>
    if .verbose ∈ s.used then .error (.usage (.repeated .verbose))
    else return { s with options := { s.options with verbose := true }, used := s.uses .verbose }
  | .authLastfm =>
    if .authLastfm ∈ s.used then .error (.usage (.repeated .authLastfm))
    else
      return { s with options := { s.options with authLastfm := true }, used := s.uses .authLastfm }

/-- An option with a value joined to it. -/
def Scan.assign (s : Scan) (value : String) : Except Refusal Scan := do
  let s ← s.settle
  s.store value

/-- An argument that means nothing. -/
def unknown {α : Type} (argument : String) : Except Refusal α :=
  .error (.usage (.unknown argument none []))

def Scan.long (s : Scan) (name : String) (value : Option String) : Except Refusal Scan :=
  match Flag.ofLong? name with
  | some .config =>
    match value with
    | some value => s.assign value
    | none => s.set .config
  | some flag =>
    match value with
    | some value => .error (.usage (.unneededValue value flag s.used))
    | none => s.set flag
  | none =>
    let similar := similar? name
    let used := s.usedOnceSettled
    let used := match similar with
      | some flag => if flag ∈ used then used else used ++ [flag]
      | none => used
    .error (.usage (.unknown ("--" ++ name) similar used))

/-- Short options after one dash. -/
def Scan.short (s : Scan) : List Char → Except Refusal Scan
  | [] => .ok s
  | c :: rest =>
    match Flag.ofShort? c with
    | none => unknown ("-" ++ c.toString)
    | some .config =>
      match rest with
      | [] => s.set .config
      | '=' :: value => s.assign (String.ofList value)
      | value => s.assign (String.ofList value)
    | some flag => do
      let s ← s.set flag
      s.short rest

/-- A long option cut at its equals sign. -/
def cutLong (cs : List Char) : String × Option String :=
  let name := String.ofList (cs.takeWhile (· != '='))
  match cs.dropWhile (· != '=') with
  | [] => (name, none)
  | _ :: value => (name, some (String.ofList value))

/-- An argument that is no option: a value that is awaited, or nothing known. -/
def Scan.plain (s : Scan) (argument : String) : Except Refusal Scan :=
  if s.pending = some .awaited then .ok { s with pending := some (.given argument) }
  else unknown argument

def Scan.read (s : Scan) : List String → Except Refusal Scan
  | [] => s.settle
  | argument :: rest =>
    match argument.toList with
    | ['-', '-'] =>
      match rest with
      | [] => s.settle
      | positional :: _ => unknown positional
    | '-' :: '-' :: cs => do
      let (name, value) := cutLong cs
      let s ← s.long name value
      s.read rest
    | ['-'] => do
      let s ← s.plain argument
      s.read rest
    | '-' :: cs => do
      let s ← s.short cs
      s.read rest
    | _ => do
      let s ← s.plain argument
      s.read rest

def parse (arguments : List String) : Except Refusal Options :=
  (Scan.start.read arguments).map (·.options)

/-! ### Messages -/

def programName : String := "cmus-scrobbler"

def helpText : String :=
  String.join <| List.map (· ++ "\n")
    ["A small daemon that scrobbles tracks announced on cmus' D-Bus NowPlaying signal",
      "",
      "Usage: cmus-scrobbler [OPTIONS]",
      "",
      "Options:",
      "  -c, --config <CONFIG>  Path to the configuration file",
      "  -v, --verbose          Log debug output from this program",
      "      --auth-lastfm      " ++
        "Obtain a Last.fm session key interactively and store it in the config",
      "  -h, --help             Print help",
      "  -V, --version          Print version"]

def versionText : String := "cmus-scrobbler 0.1.0\n"

/-- The first line of a message. -/
def UsageError.headline : UsageError → String
  | missingValue => s!"a value is required for '{Flag.config.shown}' but none was supplied"
  | repeated flag => s!"the argument '{flag.shown}' cannot be used multiple times"
  | unknown argument _ _ => s!"unexpected argument '{argument}' found"
  | unneededValue value flag _ =>
    s!"unexpected value '{value}' for '{flag.shown}' found; no more were expected"

/-- How the program is used: in general, or with the arguments that are shown. -/
def usageLine (arguments : List String) : String :=
  let shown := if arguments.isEmpty then "[OPTIONS]" else " ".intercalate arguments
  s!"Usage: {programName} {shown}"

/-- The choice between all options that ask for a run. -/
def runChoice : String :=
  "<" ++ "|".intercalate ((Flag.all.filter Flag.setsRun).map Flag.shown) ++ ">"

/-- The arguments shown where an option was given a value it does not take: the option alone, or,
once options have been stored, the choice between those that ask for a run, which shows the option
itself unless it stands outside of the choice. -/
def shownWith (flag : Flag) (used : List Flag) : List String :=
  if used.isEmpty then [flag.shown]
  else (if flag.setsRun then [] else [flag.shown]) ++ [runChoice]

/-- The paragraphs between the first line and the last one. -/
def UsageError.hints : UsageError → List String
  | missingValue => []
  | repeated _ => [usageLine []]
  | unknown _ similar used =>
    (similar.map fun flag => s!"  tip: a similar argument exists: '--{flag.long}'").toList ++
      [usageLine (used.map Flag.shown)]
  | unneededValue _ flag used => [usageLine (shownWith flag used)]

def UsageError.message (e : UsageError) : String :=
  "\n\n".intercalate
    (["error: " ++ e.headline] ++ e.hints ++ ["For more information, try '--help'."]) ++ "\n"

end ScrobbleRelay.CommandLine
