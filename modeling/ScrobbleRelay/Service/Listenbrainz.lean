import ScrobbleRelay.Service.Submitter
import ScrobbleRelay.Settings.Basic
import ScrobbleRelay.Web.Http
import ScrobbleRelay.Web.Json

/-!
# Clients of ListenBrainz

A client shows its token to the server before it is used at all, and then tells the server about
scrobbles in JSON.  The public server is addressed by its root alone; the address of any other
server is used as it is given.
-/

namespace ScrobbleRelay.Service.Listenbrainz

open Settings (ListenbrainzSettings)
open Web (Json Network Request Response WebError)

/-- Why the server was not satisfied. -/
inductive Fault
  | web (cause : WebError)
  | refused (code : Nat) (reason : String)
  | notJson
  | badToken
  deriving Repr, DecidableEq

def Fault.failure : Fault → Failure
  | web cause => cause.failure.context "HTTP error"
  | refused code reason => .plain s!"API error ({code}): {reason}"
  | notJson => .plain "could not convert HTTP response into JSON"
  | badToken => .plain "invalid authentication token"

/-- What the calls of a server begin with. -/
def root (apiUrl : String) : String :=
  if apiUrl = Settings.publicListenbrainzUrl then apiUrl ++ "/1/" else apiUrl

/-- The credentials in the head of a request; a token that cannot stand there is a crash. -/
def credentials {ε σ : Type} (token : String) : Task ε σ String :=
  let text := "Token " ++ token
  if Web.isHeaderText text then Task.done text else Task.crash

/-- The code and the words of a refusal. -/
def refusalIn? (value : Json) : Option (Nat × String) := do
  let code ← (← value.field? "code").word?
  let reason ← (← value.field? "error").string?
  return (code, reason)

/-- What an answer says, by the given reading of its value, or why the server refused. -/
def answerOf {α : Type} (read : Json → Option α) (response : Response) : Except Fault α := do
  let text ← response.text.mapError Fault.web
  match Json.ofText? text with
  | none => .error .notJson
  | some value =>
    if response.isRefusal then
      match refusalIn? value with
      | some (code, reason) => .error (.refused code reason)
      | none => .error .notJson
    else
      match read value with
      | some report => return report
      | none => .error .notJson

/-- Call the server and wait for its answer. -/
def call {α : Type} (read : Json → Option α) (account : ListenbrainzSettings)
    (method : Web.Method) (endpoint body : String) : Task Fault Network α := do
  let url ← Web.demandUrl (root account.apiUrl ++ endpoint)
  let authorization ← credentials account.token
  let response ← (Web.send ⟨method, url, some authorization, body⟩).mapError Fault.web
  Task.ofExcept (answerOf read response)

/-- What the server says about a token: whether it is valid, and whose it is. -/
structure TokenReport where
  code : Nat
  message : String
  valid : Bool
  userName : Option String

def nameIn? : Option Json → Option (Option String)
  | none => some none
  | some .null => some none
  | some (.string name) => some (some name)
  | some _ => none

/-- The report on a token in the value of an answer. -/
def TokenReport.ofJson? (value : Json) : Option TokenReport := do
  let code ← (← value.field? "code").word?
  let message ← (← value.field? "message").string?
  let valid ← (← value.field? "valid").bool?
  let userName ← nameIn? (value.field? "user_name")
  return { code, message, valid, userName }

/-- Whether a token is valid and its user is known. -/
def TokenReport.vouches (report : TokenReport) : Bool := report.valid && report.userName.isSome

/-- Show the token to the server. -/
def authenticate (account : ListenbrainzSettings) : Task Fault Network Unit := do
  let report ← call TokenReport.ofJson? account .get "validate-token" ""
  if report.vouches then pure () else Task.fail .badToken

/-- The status in the value of an answer to a submission. -/
def statusIn? (value : Json) : Option String := (value.field? "status").bind (·.string?)

/-- What is told about a scrobble: artist, track, release and second. -/
def listen (scrobble : Scrobble) : String × String × Option String × Int :=
  (scrobble.artist, scrobble.title, scrobble.album?, scrobble.playedAt.seconds)

/-- A scrobble in JSON. -/
def submission (scrobble : Scrobble) : Json :=
  let (artist, track, release, second) := listen scrobble
  let about := [("artist_name", Json.string artist), ("track_name", Json.string track)]
    ++ (release.map fun name => ("release_name", Json.string name)).toList
  .object
    [("listen_type", .string "import"),
      ("payload", .array
        [.object [("listened_at", .number (toString second)), ("track_metadata", .object about)]])]

def clientName (account : ListenbrainzSettings) : String := s!"ListenBrainz ({account.name})"

def submit (account : ListenbrainzSettings) (scrobble : Scrobble) : Task Failure Network Unit := do
  let name := clientName account
  Task.log .debug .listenbrainz s!"Scrobbling to {name}: {scrobble.artist} - {scrobble.title}"
  let _ ← (call statusIn? account .post "submit-listens" (submission scrobble).text).mapError
    fun fault => fault.failure.context s!"Failed to scrobble to {name}"
  Task.log .info .listenbrainz s!"{name}: Scrobbled successfully"

def client (account : ListenbrainzSettings) : Submitter Network where
  name := clientName account
  submit := submit account

/-- A submitter for an account whose token the server accepts. -/
def connect (account : ListenbrainzSettings) : Task Failure Network (Submitter Network) := do
  (authenticate account).mapError fun fault =>
    fault.failure.context s!"Failed to authenticate with ListenBrainz ({account.name})"
  return client account

end ScrobbleRelay.Service.Listenbrainz
