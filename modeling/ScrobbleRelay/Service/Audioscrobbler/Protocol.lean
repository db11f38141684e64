import ScrobbleRelay.Digest.Md5
import ScrobbleRelay.Scrobble
import ScrobbleRelay.Task
import ScrobbleRelay.Text.Blank
import ScrobbleRelay.Text.Lines
import ScrobbleRelay.Text.Opening
import ScrobbleRelay.Text.Quoted

/-!
# The Audioscrobbler protocol 1.1

A client first shakes hands: it tells who it is, and the server answers with a challenge and the
address for submissions.  A submission carries the scrobble and a token made of the challenge and
the password.  Answers are lines of text whose first line tells the outcome; blanks at the ends of
lines mean nothing.
-/

namespace ScrobbleRelay.Service.Audioscrobbler

/-- What a handshake gives: the challenge, and the address for submissions. -/
structure Session where
  challenge : String
  submitUrl : String
  deriving Repr, DecidableEq

def protocolVersion : String := "1.1"

/-- What a client tells about itself in a handshake. -/
def greeting (clientId clientVersion username : String) : List (String × String) :=
  [("hs", "true"), ("p", protocolVersion), ("c", clientId), ("v", clientVersion), ("u", username)]

/-- The token of a password and a challenge: the digest of the digest of the password, followed by
the challenge. -/
def sessionToken (password challenge : String) : String :=
  Digest.md5Hex (Digest.md5Hex password ++ challenge)

def submissionForm (username token : String) (scrobble : Scrobble) : List (String × String) :=
  [("u", username),
    ("s", token),
    ("a[0]", scrobble.artist),
    ("t[0]", scrobble.title),
    ("b[0]", scrobble.album),
    ("m[0]", scrobble.mbid),
    ("l[0]", toString scrobble.length.toInt),
    ("i[0]", scrobble.datePlayed)]

/-- The lines of an answer without the blanks at their ends. -/
def answerLines (body : String) : List String := (Text.lines body).map Text.trim

/-- Why a handshake failed. -/
inductive HandshakeFault
  | unknownUser
  | refused (reason : String)
  | unexpected (status : String)
  | noChallenge
  | noUrl
  deriving Repr, DecidableEq

/-- The words for a failed handshake. -/
def HandshakeFault.message : HandshakeFault → String
  | unknownUser => "Audioscrobbler handshake failed: unknown user"
  | refused reason => "Audioscrobbler handshake failed: " ++ reason
  | unexpected status => "Unexpected Audioscrobbler handshake response: " ++ Text.quoted status
  | noChallenge => "Audioscrobbler handshake response has no challenge"
  | noUrl => "Audioscrobbler handshake response has no submit URL"

/-- The first line of a handshake answer: whether the handshake succeeded, and where there is a
newer client, if the server says so. -/
def readStatus (status : String) : Except HandshakeFault (Option String) :=
  if status = "UPTODATE" then .ok none
  else
    match Text.after? "UPDATE" status with
    | some url => .ok (some (Text.trim url))
    | none =>
      if status = "BADUSER" then .error .unknownUser
      else
        match Text.after? "FAILED" status with
        | some reason => .error (.refused (Text.trim reason))
        | none => .error (.unexpected status)

/-- A line that must be there and must not be empty. -/
def demandLine (fault : HandshakeFault) : Option String → Except HandshakeFault String
  | some line => if line.isEmpty then .error fault else .ok line
  | none => .error fault

/-- The session that a handshake answer gives. -/
def readHandshake {σ : Type} (body : String) : Task HandshakeFault σ Session := do
  let answer := answerLines body
  match ← Task.ofExcept (readStatus (answer[0]?.getD "")) with
  | some url =>
    Task.log .info .audioscrobbler s!"Audioscrobbler reports a client update at {url}"
  | none => pure ()
  let challenge ← Task.ofExcept (demandLine .noChallenge answer[1]?)
  let submitUrl ← Task.ofExcept (demandLine .noUrl answer[2]?)
  match answer[3]?.bind (Text.after? "INTERVAL") with
  | some interval =>
    let seconds := Text.trim interval
    Task.log .debug .audioscrobbler s!"Audioscrobbler interval: {seconds}s"
  | none => pure ()
  return ⟨challenge, submitUrl⟩

/-- How a server took a submission. -/
inductive Receipt
  | accepted
  | badAuth
  deriving Repr, DecidableEq

/-- Why a submission failed. -/
inductive SubmissionFault
  | refused (reason : String)
  | unexpected (status : String)
  deriving Repr, DecidableEq

/-- The words for a failed submission. -/
def SubmissionFault.message : SubmissionFault → String
  | refused reason => "Audioscrobbler submission failed: " ++ reason
  | unexpected status => "Unexpected Audioscrobbler submission response: " ++ Text.quoted status

/-- What the answer to a submission says. -/
def readReceipt (body : String) : Except SubmissionFault Receipt :=
  let status := (answerLines body)[0]?.getD ""
  if status = "OK" then .ok .accepted
  else if status = "BADAUTH" then .ok .badAuth
  else
    match Text.after? "FAILED" status with
    | some reason => .error (.refused (Text.trim reason))
    | none => .error (.unexpected status)

end ScrobbleRelay.Service.Audioscrobbler
