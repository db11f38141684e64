/-!
# Settings

What the program is told by its configuration file: which signal to listen for, and which services
to send scrobbles to.  A service can be present and still be switched off; what a switched-off
section says has no meaning.
-/

namespace ScrobbleRelay.Settings

/-- Which signal to subscribe to; a filter that is not set matches everything. -/
structure BusSettings where
  signalName : String
  interface : Option String
  path : Option String
  sender : Option String
  deriving Repr, DecidableEq

/-- An account with a service of the Audioscrobbler protocol 1.1. -/
structure AudioscrobblerSettings where
  enabled : Bool
  username : String
  password : String
  handshakeUrl : String
  clientId : String
  clientVersion : String
  deriving Repr, DecidableEq

/-- An account with Last.fm. -/
structure LastfmSettings where
  enabled : Bool
  apiKey : String
  apiSecret : String
  sessionKey : String
  deriving Repr, DecidableEq

/-- An account with one ListenBrainz server. -/
structure ListenbrainzSettings where
  enabled : Bool
  name : String
  token : String
  apiUrl : String
  deriving Repr, DecidableEq

end ScrobbleRelay.Settings

namespace ScrobbleRelay

open Settings

/-- All settings. -/
structure Settings where
  bus : BusSettings
  audioscrobbler : Option AudioscrobblerSettings
  lastfm : Option LastfmSettings
  listenbrainz : List ListenbrainzSettings
  deriving Repr, DecidableEq

namespace Settings

def publicListenbrainzUrl : String := "https://api.listenbrainz.org"

/-- The subscription where the file does not name one. -/
def defaultBus : BusSettings := ⟨"NowPlaying", none, none, none⟩

/-- The settings that are written to a new file. -/
def default : Settings where
  bus := defaultBus
  audioscrobbler := some
    { enabled := true
      username := "dbus-cmus"
      password := "dbus-cmus"
      handshakeUrl := "http://post.audioscrobbler.com/"
      clientId := "tst"
      clientVersion := "1.0" }
  lastfm := some { enabled := false, apiKey := "", apiSecret := "", sessionKey := "" }
  listenbrainz :=
    [{ enabled := false, name := "Primary", token := "", apiUrl := publicListenbrainzUrl }]

def activeAudioscrobbler (s : Settings) : Option AudioscrobblerSettings :=
  s.audioscrobbler.filter (·.enabled)

/-- The Last.fm account, where it is switched on. -/
def activeLastfm (s : Settings) : Option LastfmSettings := s.lastfm.filter (·.enabled)

/-- The ListenBrainz accounts that are switched on, in their order. -/
def activeListenbrainz (s : Settings) : List ListenbrainzSettings :=
  s.listenbrainz.filter (·.enabled)

/-- The settings without their switched-off sections. -/
def withoutInactive (s : Settings) : Settings :=
  { s with
    audioscrobbler := s.activeAudioscrobbler
    lastfm := s.activeLastfm
    listenbrainz := s.activeListenbrainz }

end Settings

end ScrobbleRelay
