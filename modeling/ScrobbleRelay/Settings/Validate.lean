import ScrobbleRelay.Bus.MatchRule
import ScrobbleRelay.Settings.Basic
import ScrobbleRelay.Task
import ScrobbleRelay.Text.Quoted

/-!
# Validation of settings

The names of the subscription must be names of the bus, and a service that is switched on needs its
credentials and addresses.  Settings with no service switched on are accepted with a warning.  The
subscription is checked before the warning, the services after it; the first fault is the one
reported.
-/

namespace ScrobbleRelay.Settings

open Bus (NameError)

/-- Why settings are refused. -/
inductive Invalid
  | signalName (name : String) (cause : NameError)
  | interface (name : String) (cause : NameError)
  | path (name : String) (cause : NameError)
  | sender (name : String) (cause : NameError)
  | audioscrobblerUsername
  | audioscrobblerUrl
  | lastfmKey
  | lastfmSecret
  | listenbrainzToken (instanceName : String)
  | listenbrainzUrl (instanceName : String)
  deriving Repr, DecidableEq

def Invalid.failure : Invalid → Failure
  | signalName name cause => ⟨"Invalid signal name " ++ Text.quoted name, [cause.message]⟩
  | interface name cause => ⟨"Invalid interface " ++ Text.quoted name, [cause.message]⟩
  | path name cause => ⟨"Invalid object path " ++ Text.quoted name, [cause.message]⟩
  | sender name cause => ⟨"Invalid sender " ++ Text.quoted name, [cause.message]⟩
  | audioscrobblerUsername =>
    .plain "Audioscrobbler username is required when Audioscrobbler is enabled"
  | audioscrobblerUrl =>
    .plain "Audioscrobbler handshake_url is required when Audioscrobbler is enabled"
  | lastfmKey => .plain "Last.fm api_key is required when Last.fm is enabled"
  | lastfmSecret => .plain "Last.fm api_secret is required when Last.fm is enabled"
  | listenbrainzToken name =>
    .plain s!"ListenBrainz token is required when enabled (instance: {name})"
  | listenbrainzUrl name => .plain s!"ListenBrainz api_url is required (instance: {name})"

/-- The check of one name, its error told together with the name. -/
def checkName (check : String → Except NameError Unit) (refusal : String → NameError → Invalid)
    (name : String) : Except Invalid Unit :=
  (check name).mapError (refusal name)

/-- The check of one name that may be unset. -/
def checkFilter (check : String → Except NameError Unit) (refusal : String → NameError → Invalid) :
    Option String → Except Invalid Unit
  | none => .ok ()
  | some name => checkName check refusal name

def checkSender (name : String) : Except NameError Unit :=
  (Bus.SenderName.ofText name).map fun _ => ()

/-- The names of a subscription are names of the bus. -/
def BusSettings.validate (s : BusSettings) : Except Invalid Unit := do
  checkName Bus.MatchRule.checkMemberName .signalName s.signalName
  checkFilter Bus.MatchRule.checkInterfaceName .interface s.interface
  checkFilter Bus.MatchRule.checkPath .path s.path
  checkFilter checkSender .sender s.sender

/-- An account has a user name and an address. -/
def AudioscrobblerSettings.validate (s : AudioscrobblerSettings) : Except Invalid Unit :=
  if s.username.isEmpty then .error .audioscrobblerUsername
  else if s.handshakeUrl.isEmpty then .error .audioscrobblerUrl
  else .ok ()

/-- An account has a key and its secret. -/
def LastfmSettings.validate (s : LastfmSettings) : Except Invalid Unit :=
  if s.apiKey.isEmpty then .error .lastfmKey
  else if s.apiSecret.isEmpty then .error .lastfmSecret
  else .ok ()

/-- An account has a token and an address. -/
def ListenbrainzSettings.validate (s : ListenbrainzSettings) : Except Invalid Unit :=
  if s.token.isEmpty then .error (.listenbrainzToken s.name)
  else if s.apiUrl.isEmpty then .error (.listenbrainzUrl s.name)
  else .ok ()

/-- Every account of a list passes its check. -/
def validateEach : List ListenbrainzSettings → Except Invalid Unit
  | [] => .ok ()
  | s :: rest => do
    s.validate
    validateEach rest

end ScrobbleRelay.Settings

namespace ScrobbleRelay

namespace Settings

def anyActive (s : Settings) : Bool :=
  s.activeAudioscrobbler.isSome || s.activeLastfm.isSome || !s.activeListenbrainz.isEmpty

/-- The services that are switched on have what they need. -/
def validateServices (s : Settings) : Except Invalid Unit := do
  match s.activeAudioscrobbler with
  | some account => account.validate
  | none => .ok ()
  match s.activeLastfm with
  | some account => account.validate
  | none => .ok ()
  validateEach s.activeListenbrainz

/-- The check of all settings, with the warning that no service is switched on. -/
def validate {σ : Type} (s : Settings) : Task Invalid σ Unit := do
  Task.ofExcept s.bus.validate
  if !s.anyActive then
    Task.log .warn .settings "No scrobbling services are enabled"
  Task.ofExcept s.validateServices

/-- Settings that pass every check. -/
def Valid (s : Settings) : Prop := s.bus.validate = .ok () ∧ s.validateServices = .ok ()

end Settings

end ScrobbleRelay
