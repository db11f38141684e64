import ScrobbleRelay.Decimal.Shortest
import ScrobbleRelay.Settings.Basic
import ScrobbleRelay.Text.Quoted
import ScrobbleRelay.Toml.Place
import ScrobbleRelay.Toml.Writer

/-!
# Settings as a TOML document

`Settings.ofText` reads the text of a settings file.  The entries of a table are looked at in the
order of the document, and the first value that does not fit is the one reported; only then is it
asked whether an entry is missing.  A table may also be given as an array of its values in their
fixed order.  Entries with other names mean nothing.

`Settings.text` writes settings: filters that are not set and sections that are absent are left out.
-/

namespace ScrobbleRelay.Settings

open Toml (Value Entries Step)

/-- A table of the settings: its name in messages, and the names of its entries in their order. -/
structure Shape where
  name : String
  fields : List String
  deriving Repr, DecidableEq

def busShape : Shape := ⟨"struct BusConfig", ["signal_name", "interface", "path", "sender"]⟩

def audioscrobblerShape : Shape :=
  ⟨"struct AudioscrobblerConfig",
    ["enabled", "username", "password", "handshake_url", "client_id", "client_version"]⟩

def lastfmShape : Shape :=
  ⟨"struct LastFmConfig", ["enabled", "api_key", "api_secret", "session_key"]⟩

def listenbrainzShape : Shape :=
  ⟨"struct ListenBrainzConfig", ["enabled", "name", "token", "api_url"]⟩

/-- Why a document does not fit the settings. -/
inductive Misfit
  | wrongType (found : Value) (expected : String)
  | tooShort (length : Nat) (shape : Shape)
  | missing (field : String)
  deriving Repr

def valueText : Value → String
  | .string s => "string " ++ Text.quoted s
  | .integer n => s!"integer `{n}`"
  | .float bits => s!"floating point `{Decimal.textOfBits bits}`"
  | .boolean b => s!"boolean `{b}`"
  | .datetime => "map"
  | .array _ => "sequence"
  | .table _ => "map"

def Misfit.message : Misfit → String
  | wrongType found expected => s!"invalid type: {valueText found}, expected {expected}"
  | tooShort length shape =>
    s!"invalid length {length}, expected {shape.name} with {shape.fields.length} elements"
  | missing field => s!"missing field `{field}`"

/-- A misfit, and the way to the value that does not fit. -/
structure Fault where
  path : List Step
  cause : Misfit
  deriving Repr

/-- A fault of a part, seen from the whole. -/
def Fault.within (step : Step) (fault : Fault) : Fault := { fault with path := step :: fault.path }

/-- Read a part of a value, which is a step away from it. -/
def atStep {α : Type} (step : Step) (result : Except Fault α) : Except Fault α :=
  result.mapError (Fault.within step)

/-- A fault of a value itself. -/
def misfit {α : Type} (cause : Misfit) : Except Fault α := .error ⟨[], cause⟩

def readText : Value → Except Fault String
  | .string s => .ok s
  | v => misfit (.wrongType v "a string")

def readFlag : Value → Except Fault Bool
  | .boolean b => .ok b
  | v => misfit (.wrongType v "a boolean")

/-- The value of an entry fits: `enabled` is a truth value, every other known entry a text. -/
def checkValue (shape : Shape) (entry : String × Value) : Except Fault Unit :=
  if entry.1 ∈ shape.fields then
    if entry.1 = "enabled" then (readFlag entry.2).map fun _ => ()
    else (readText entry.2).map fun _ => ()
  else .ok ()

/-- An entry of a table fits. -/
def checkField (shape : Shape) (entry : String × Value) : Except Fault Unit :=
  atStep (.name entry.1) (checkValue shape entry)

/-- An item of an array that stands for an entry fits. -/
def checkItem (shape : Shape) (item : (String × Value) × Nat) : Except Fault Unit :=
  atStep (.index item.2) (checkValue shape item.1)

/-- The entries of a table of the given shape, each of them fitting.  A date stands for a table
without known entries. -/
def readFields (shape : Shape) : Value → Except Fault Entries
  | .table entries => do
    entries.forM (checkField shape)
    return entries
  | .array items => do
    let entries := shape.fields.zip items
    entries.zipIdx.forM (checkItem shape)
    if items.length < shape.fields.length then misfit (.tooShort items.length shape)
    return entries
  | .datetime => .ok []
  | v => misfit (.wrongType v shape.name)

/-- The text of an entry that must be there. -/
def textOf (entries : Entries) (name : String) : Except Fault String :=
  match entries.lookup name with
  | some v => readText v
  | none => misfit (.missing name)

/-- The text of an entry that may be absent. -/
def textOf? (entries : Entries) (name : String) : Except Fault (Option String) :=
  match entries.lookup name with
  | some v => (readText v).map some
  | none => .ok none

/-- The truth value of an entry that must be there. -/
def flagOf (entries : Entries) (name : String) : Except Fault Bool :=
  match entries.lookup name with
  | some v => readFlag v
  | none => misfit (.missing name)

def BusSettings.ofValue (v : Value) : Except Fault BusSettings := do
  let entries ← readFields busShape v
  let signalName ← textOf entries "signal_name"
  let interface ← textOf? entries "interface"
  let path ← textOf? entries "path"
  let sender ← textOf? entries "sender"
  return { signalName, interface, path, sender }

def AudioscrobblerSettings.ofValue (v : Value) : Except Fault AudioscrobblerSettings := do
  let entries ← readFields audioscrobblerShape v
  let enabled ← flagOf entries "enabled"
  let username ← textOf entries "username"
  let password ← textOf entries "password"
  let handshakeUrl ← textOf entries "handshake_url"
  let clientId ← textOf entries "client_id"
  let clientVersion ← textOf entries "client_version"
  return { enabled, username, password, handshakeUrl, clientId, clientVersion }

/-- The Last.fm account of a value. -/
def LastfmSettings.ofValue (v : Value) : Except Fault LastfmSettings := do
  let entries ← readFields lastfmShape v
  let enabled ← flagOf entries "enabled"
  let apiKey ← textOf entries "api_key"
  let apiSecret ← textOf entries "api_secret"
  let sessionKey ← textOf entries "session_key"
  return { enabled, apiKey, apiSecret, sessionKey }

def ListenbrainzSettings.ofValue (v : Value) : Except Fault ListenbrainzSettings := do
  let entries ← readFields listenbrainzShape v
  let enabled ← flagOf entries "enabled"
  let name ← textOf entries "name"
  let token ← textOf entries "token"
  let apiUrl ← textOf entries "api_url"
  return { enabled, name, token, apiUrl }

def listenbrainzOfValue : Value → Except Fault (List ListenbrainzSettings)
  | .array items => items.zipIdx.mapM fun (item, i) =>
      atStep (.index i) (ListenbrainzSettings.ofValue item)
  | v => misfit (.wrongType v "a sequence")

end ScrobbleRelay.Settings

namespace ScrobbleRelay.Settings

open Toml (Value Entries Step Literal Entry Part Sheet)

/-- The settings of an empty document. -/
def initial : Settings := ⟨defaultBus, none, none, []⟩

/-- The settings with the value of one more entry of the document. -/
def withValue (s : Settings) (entry : String × Value) : Except Fault Settings :=
  if entry.1 = "bus" then (BusSettings.ofValue entry.2).map fun bus => { s with bus }
  else if entry.1 = "audioscrobbler" then
    (AudioscrobblerSettings.ofValue entry.2).map fun account =>
      { s with audioscrobbler := some account }
  else if entry.1 = "lastfm" then
    (LastfmSettings.ofValue entry.2).map fun account => { s with lastfm := some account }
  else if entry.1 = "listenbrainz" then
    (listenbrainzOfValue entry.2).map fun accounts => { s with listenbrainz := accounts }
  else .ok s

/-- The settings with one more entry of the document. -/
def withEntry (s : Settings) (entry : String × Value) : Except Fault Settings :=
  atStep (.name entry.1) (s.withValue entry)

def ofEntries (entries : Entries) : Except Fault Settings := entries.foldlM withEntry initial

/-- Why the text of a settings file was refused. -/
inductive TextFault
  | notToml
  | misfit (fault : Fault)
  deriving Repr

/-- The words for a fault of the text of a settings file, without its place. -/
def TextFault.message : TextFault → String
  | notToml => "TOML parse error"
  | misfit fault => fault.cause.message

/-- All that is told about a fault of a text: the line that is meant, and the message. -/
def TextFault.report (text : String) : TextFault → String
  | notToml => TextFault.message .notToml
  | misfit fault =>
    match Toml.spanOf? (Toml.placesOfText text) fault.path with
    | some span => span.excerpt text fault.cause.message
    | none => fault.cause.message ++ "
"

def ofText (s : String) : Except TextFault Settings :=
  match Entries.ofText? s with
  | none => .error .notToml
  | some entries => (ofEntries entries).mapError .misfit

def textEntry (name value : String) : Entry := ⟨name, .text value⟩

/-- A line with a truth value. -/
def flagEntry (name : String) (value : Bool) : Entry := ⟨name, .flag value⟩

/-- The line of a text that may be absent. -/
def optionalEntry (name : String) (value : Option String) : List Entry :=
  (value.map (textEntry name)).toList

def busPart (s : BusSettings) : Part :=
  ⟨"bus", false,
    [textEntry "signal_name" s.signalName] ++ optionalEntry "interface" s.interface ++
      optionalEntry "path" s.path ++ optionalEntry "sender" s.sender⟩

def audioscrobblerPart (s : AudioscrobblerSettings) : Part :=
  ⟨"audioscrobbler", false,
    [flagEntry "enabled" s.enabled, textEntry "username" s.username,
      textEntry "password" s.password, textEntry "handshake_url" s.handshakeUrl,
      textEntry "client_id" s.clientId, textEntry "client_version" s.clientVersion]⟩

/-- The Last.fm account as a part of a document. -/
def lastfmPart (s : LastfmSettings) : Part :=
  ⟨"lastfm", false,
    [flagEntry "enabled" s.enabled, textEntry "api_key" s.apiKey,
      textEntry "api_secret" s.apiSecret, textEntry "session_key" s.sessionKey]⟩

def listenbrainzPart (s : ListenbrainzSettings) : Part :=
  ⟨"listenbrainz", true,
    [flagEntry "enabled" s.enabled, textEntry "name" s.name, textEntry "token" s.token,
      textEntry "api_url" s.apiUrl]⟩

/-- Settings as a document; a list without accounts is an empty array on a line of its own. -/
def sheet (s : Settings) : Sheet where
  entries := if s.listenbrainz.isEmpty then [⟨"listenbrainz", .nothing⟩] else []
  parts :=
    [busPart s.bus] ++ (s.audioscrobbler.map audioscrobblerPart).toList ++
      (s.lastfm.map lastfmPart).toList ++ s.listenbrainz.map listenbrainzPart

def text (s : Settings) : String := s.sheet.text

end ScrobbleRelay.Settings
