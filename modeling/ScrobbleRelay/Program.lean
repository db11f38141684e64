import ScrobbleRelay.CommandLine
import ScrobbleRelay.Log.Filter
import ScrobbleRelay.Log.Record
import ScrobbleRelay.Relay.Run
import ScrobbleRelay.Service.Lastfm.Login
import ScrobbleRelay.Service.Selection

/-!
# The program

A run goes through its stages in a fixed order: the arguments are read, the settings file is found
and the settings are loaded, and then either a login is made and the program ends, or the services
are built, the bus is subscribed to, and scrobbles are relayed until the program is told to stop.  A stage that fails ends the run,
and no later stage does anything.
-/

namespace ScrobbleRelay.Program

open Bus (Broker MatchRule Signal)
open CommandLine (Options)
open Log (Line Filter)
open Relay (Stop)
open Service (Submitter)
open Service.Audioscrobbler (Uplink)
open Service.Lastfm (Desk)
open Time (Instant)

/-- All that a run works on; without a broker there is no bus. -/
structure World where
  files : Files
  console : Console
  uplink : Uplink
  bus : Option Broker

/-- What a run is given besides its arguments: the directories of the user, as far as there are any,
the specification of the log, the signals that arrive and how they end, and the time at which the
event with a number is submitted. -/
structure Surroundings where
  home : Option String
  settingsDirectory : Option String
  logSpecification : Option String
  signals : List Signal
  stop : Stop
  clock : Nat → Instant

/-- Do something on the files alone. -/
def onFiles {ε α : Type} (t : Task ε Files α) : Task ε World α :=
  t.within (·.files) fun files world => { world with files }

/-- Do something with the services alone. -/
def onUplink {ε α : Type} (t : Task ε Uplink α) : Task ε World α :=
  t.within (·.uplink) fun uplink world => { world with uplink }

/-- Do something on the bus alone. -/
def onBus {ε α : Type} (t : Task ε (Option Broker) α) : Task ε World α :=
  t.within (·.bus) fun bus world => { world with bus }

/-- What a login with some settings works on. -/
def deskOf (settings : Settings) (world : World) : Desk :=
  ⟨world.console, world.uplink.network, world.files, settings⟩

def afterLogin (desk : Desk) (world : World) : World :=
  { world with
    console := desk.console
    files := desk.files
    uplink := { world.uplink with network := desk.network } }

/-- Log in to Last.fm. -/
def login (settings : Settings) (path : String) : Task Failure World Unit :=
  (Service.Lastfm.login path).within (deskOf settings) afterLogin

/-- The failure of services whose building crashed. -/
def setupCrash : Failure := ⟨"Service setup panicked", ["task panicked"]⟩

def buildServices (settings : Settings) : Task Failure World (Submitter Uplink) := do
  match ← (onUplink (Service.ofSettings settings)).settled with
  | .done submitter => return submitter
  | .failed failure => Task.fail failure
  | .crashed => Task.fail setupCrash

/-- The path of the settings file of a run, if there is one. -/
def settingsPath? (s : Surroundings) (options : Options) : Option String :=
  options.config.or (Settings.filePath? s.home s.settingsDirectory)

/-- The failure of a run that has no place for its settings file. -/
def noDirectory : Failure := .plain "Failed to get config directory"

/-- Find the path of the settings file. -/
def locate (s : Surroundings) (options : Options) : Task Failure World String :=
  match settingsPath? s options with
  | some path => pure path
  | none => Task.fail noDirectory

/-- The stages before relaying, with the settings file at a path; a login leaves nothing to relay. -/
def prepareAt (options : Options) (path : String) :
    Task Failure World (Option (Submitter Uplink × MatchRule)) := do
  let settings ← (onFiles (Settings.load path)).mapError Settings.LoadError.failure
  if options.authLastfm then
    login settings path
    return none
  else
    let submitter ← buildServices settings
    let rule ← onBus (Bus.connect settings.bus)
    return some (submitter, rule)

def prepare (s : Surroundings) (options : Options) :
    Task Failure World (Option (Submitter Uplink × MatchRule)) := do
  prepareAt options (← locate s options)

/-- A finished run: its exit code, the lines that it wrote besides its log, the log of the stages
and of the reader, the log of the worker, and the world it left. -/
structure Outcome where
  exit : Nat
  complaints : List String
  reader : List Line
  worker : List Line
  world : World

def exitSuccess : Nat := 0

def exitFailure : Nat := 1

/-- The exit code of a refused command line. -/
def exitUsage : Nat := 2

def exitCrash : Nat := 101

def failureLines (failure : Failure) : List String := ("Error: " ++ failure.report).splitOn "\n"

/-- The world with more text printed. -/
def World.printing (world : World) (text : String) : World :=
  { world with console := { world.console with printed := world.console.printed ++ text } }

/-- The lines of a text that ends in a line feed. -/
def messageLines (message : String) : List String := (message.splitOn "\n").dropLast

/-- The end of a run that a command line prevented. -/
def refused (world : World) : CommandLine.Refusal → Outcome
  | .help => ⟨exitSuccess, [], [], [], world.printing CommandLine.helpText⟩
  | .version => ⟨exitSuccess, [], [], [], world.printing CommandLine.versionText⟩
  | .usage e => ⟨exitUsage, messageLines e.message, [], [], world⟩

/-- Relay scrobbles, after the stages that wrote the given lines. -/
def relay (s : Surroundings) (submitter : Submitter Uplink) (rule : MatchRule)
    (before : List Line) (world : World) : Outcome :=
  let report := Relay.run submitter s.clock rule s.signals s.stop world.uplink
  let after := { world with uplink := report.world }
  match report.outcome with
  | .ok () => ⟨exitSuccess, [], before ++ report.reader, report.worker, after⟩
  | .error failure =>
    ⟨exitFailure, failureLines failure, before ++ report.reader, report.worker, after⟩

/-- The run of accepted options, with its whole log. -/
def runOptions (s : Surroundings) (options : Options) (world : World) : Outcome :=
  let prepared := (prepare s options).run world
  match prepared.ending with
  | .done none => ⟨exitSuccess, [], prepared.lines, [], prepared.world⟩
  | .done (some (submitter, rule)) => relay s submitter rule prepared.lines prepared.world
  | .failed failure => ⟨exitFailure, failureLines failure, prepared.lines, [], prepared.world⟩
  | .crashed => ⟨exitCrash, [], prepared.lines, [], prepared.world⟩

/-- The filter of the log, and the warnings about its specification. -/
def logFilter (s : Surroundings) (options : Options) : Filter × List String :=
  match s.logSpecification with
  | some specification => Filter.ofText specification
  | none => (Filter.standard options.verbose, [])

/-- A run of the program, with the lines of the log that are shown, as they are written. -/
def run (s : Surroundings) (arguments : List String) (world : World) : Outcome :=
  match CommandLine.parse arguments with
  | .error refusal => refused world refusal
  | .ok options =>
    let (filter, warnings) := logFilter s options
    let outcome := runOptions s options world
    let reader := outcome.reader.filter filter.shows
    let worker := outcome.worker.filter filter.shows
    { outcome with
      complaints := warnings ++ (reader ++ worker).flatMap Line.further ++ outcome.complaints
      reader := reader.map Line.head
      worker := worker.map Line.head }

end ScrobbleRelay.Program
