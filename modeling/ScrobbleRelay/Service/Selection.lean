import ScrobbleRelay.Service.Audioscrobbler.Client
import ScrobbleRelay.Service.Bundle
import ScrobbleRelay.Service.Lastfm.Client
import ScrobbleRelay.Service.Listenbrainz

/-!
# The services of the settings

The services that are switched on, in their fixed order: Audioscrobbler, Last.fm, then the
ListenBrainz servers in the order of the settings.  Each ListenBrainz server is asked about its
token while the services are built, and the first that refuses ends the building.
-/

namespace ScrobbleRelay.Service

open Audioscrobbler (Uplink onNetwork)
open Settings (AudioscrobblerSettings LastfmSettings ListenbrainzSettings)
open Web (Network)

/-- A submitter that needs the network only, among others. -/
def shared (s : Submitter Network) : Submitter Uplink :=
  s.within (·.network) fun network uplink => { uplink with network }

def ofAudioscrobbler : Option AudioscrobblerSettings → Task Failure Uplink (List (Submitter Uplink))
  | none => pure []
  | some account => do
    Task.log .info .services s!"Audioscrobbler enabled for user {account.username}"
    return [Audioscrobbler.client account]

/-- The service of a Last.fm account, if it has a session key. -/
def ofLastfm : Option LastfmSettings → Task Failure Uplink (List (Submitter Uplink))
  | none => pure []
  | some account =>
    if account.sessionKey.isEmpty then do
      Task.log .warn .services
        "Last.fm is enabled but has no session key; run with --auth-lastfm"
      return []
    else do
      Task.log .info .services "Last.fm enabled"
      return [shared (Lastfm.client account)]

def ofListenbrainz : List ListenbrainzSettings → Task Failure Uplink (List (Submitter Uplink))
  | [] => pure []
  | account :: rest => do
    Task.log .info .services s!"ListenBrainz ({account.name}) enabled"
    let submitter ← onNetwork (Listenbrainz.connect account)
    let others ← ofListenbrainz rest
    return shared submitter :: others

/-- All services of the settings. -/
def select (settings : Settings) : Task Failure Uplink (List (Submitter Uplink)) := do
  let first ← ofAudioscrobbler settings.activeAudioscrobbler
  let second ← ofLastfm settings.activeLastfm
  let third ← ofListenbrainz settings.activeListenbrainz
  let all := first ++ second ++ third
  if all.isEmpty then
    Task.log .warn .services "No scrobbling services are enabled; records will only be logged"
  return all

/-- The services of the settings as one submitter. -/
def ofSettings (settings : Settings) : Task Failure Uplink (Submitter Uplink) := do
  return Submitter.bundle (← select settings)

end ScrobbleRelay.Service
