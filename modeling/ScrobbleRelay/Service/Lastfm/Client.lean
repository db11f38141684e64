import ScrobbleRelay.Service.Lastfm.Call
import ScrobbleRelay.Service.Submitter
import ScrobbleRelay.Settings.Basic

/-!
# Clients of Last.fm

A client that has a session key tells the service about scrobbles.  The service counts seconds from
the beginning of 1970 and knows nothing before.
-/

namespace ScrobbleRelay.Service.Lastfm

open Settings (LastfmSettings)
open Web (Network)

/-- The parameters that describe a scrobble. -/
def scrobbleParameters (scrobble : Scrobble) : List (String × String) :=
  [("artist", scrobble.artist), ("track", scrobble.title)]
    ++ (scrobble.album?.map fun album => ("album", album)).toList
    ++ [("timestamp", toString scrobble.playedAt.seconds.toNat)]

def submissionParameters (account : LastfmSettings) (scrobble : Scrobble) :
    List (String × String) :=
  scrobbleParameters scrobble ++ [("api_key", account.apiKey), ("sk", account.sessionKey)]

def submit (account : LastfmSettings) (scrobble : Scrobble) : Task Failure Network Unit := do
  let submission := do
    let answer ← call account.apiSecret "track.scrobble" (submissionParameters account scrobble)
    match (answer.field? "scrobbles").bind (·.field? "scrobble") with
    | some _ => pure ()
    | none => Task.fail (missing "scrobbles")
  submission.mapError fun reason =>
    (Failure.plain ("Scrobble request failed: " ++ reason)).context "Failed to scrobble to Last.fm"
  Task.log .info .lastfm s!"Last.fm: Scrobbled {scrobble.artist} - {scrobble.title}"

def client (account : LastfmSettings) : Submitter Network where
  name := "Last.fm"
  submit := submit account

end ScrobbleRelay.Service.Lastfm
