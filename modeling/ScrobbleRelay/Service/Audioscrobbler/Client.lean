import ScrobbleRelay.Service.Audioscrobbler.Protocol
import ScrobbleRelay.Service.Submitter
import ScrobbleRelay.Settings.Basic
import ScrobbleRelay.Web.Http

/-!
# Clients of the Audioscrobbler protocol

A client shakes hands before its first submission and keeps the session for the later ones.  It
forgets the session when the server no longer knows it, and only then.
-/

namespace ScrobbleRelay.Service.Audioscrobbler

open Settings (AudioscrobblerSettings)
open Web (Network Request Response)

/-- What a client works on: the network, and the session it keeps. -/
structure Uplink where
  network : Network
  session : Option Session

/-- Do something on the network alone. -/
def onNetwork {ε α : Type} (t : Task ε Network α) : Task ε Uplink α :=
  t.within (·.network) fun network uplink => { uplink with network }

/-- Send a request; a failure is told under the given words. -/
def sent (words : String) (r : Request) : Task Failure Network Response :=
  (Web.send r).mapError fun e => e.failure.context words

/-- The text of a successful answer; `activity` names what was answered. -/
def bodyOf {σ : Type} (activity : String) (response : Response) : Task Failure σ String :=
  if response.isSuccess then
    Task.ofExcept <| response.text.mapError fun e =>
      e.failure.context s!"Failed to read Audioscrobbler {activity} response"
  else Task.fail (.plain s!"Audioscrobbler {activity} HTTP error ({response.statusText})")

def handshake (account : AudioscrobblerSettings) : Task Failure Network Session := do
  Task.log .debug .audioscrobbler
    s!"Audioscrobbler handshake for {account.username} at {account.handshakeUrl}"
  let url ← Web.demandUrl account.handshakeUrl
  let url := url.withPairs (greeting account.clientId account.clientVersion account.username)
  let response ← sent "Failed to send Audioscrobbler handshake" ⟨.get, url, none, ""⟩
  let body ← bodyOf "handshake" response
  (readHandshake body).mapError fun fault => .plain fault.message

def submissionBody (account : AudioscrobblerSettings) (session : Session) (scrobble : Scrobble) :
    String :=
  Web.formText
    (submissionForm account.username (sessionToken account.password session.challenge) scrobble)

/-- Submit a scrobble in a session. -/
def post (account : AudioscrobblerSettings) (session : Session) (scrobble : Scrobble) :
    Task Failure Network Receipt := do
  let url ← Web.demandUrl session.submitUrl
  let response ← sent "Failed to send Audioscrobbler submission"
    ⟨.post, url, none, submissionBody account session scrobble⟩
  let body ← bodyOf "submission" response
  Task.ofExcept ((readReceipt body).mapError fun fault => .plain fault.message)

/-- The session to submit in: the one that is kept, or a new one. -/
def currentSession (account : AudioscrobblerSettings) : Task Failure Uplink Session := do
  match (← Task.world).session with
  | some session => return session
  | none =>
    let session ← onNetwork (handshake account)
    Task.change fun uplink => { uplink with session := some session }
    return session

def submit (account : AudioscrobblerSettings) (scrobble : Scrobble) : Task Failure Uplink Unit := do
  let session ← currentSession account
  match ← onNetwork (post account session scrobble) with
  | .accepted =>
    Task.log .info .audioscrobbler
      s!"Audioscrobbler: Scrobbled {scrobble.artist} - {scrobble.title}"
  | .badAuth =>
    Task.change fun uplink => { uplink with session := none }
    Task.fail (.plain "Audioscrobbler rejected the session (BADAUTH)")

def client (account : AudioscrobblerSettings) : Submitter Uplink where
  name := "Audioscrobbler"
  submit := submit account

end ScrobbleRelay.Service.Audioscrobbler
