import ScrobbleRelay.Console
import ScrobbleRelay.Service.Lastfm.Call
import ScrobbleRelay.Settings.Store

/-!
# Logging in to Last.fm

A person types a user name and a password, the service gives a session key for them, and the key is
kept in the settings, which are saved.  The settings in memory change as soon as the key is there,
and stay changed when saving fails.
-/

namespace ScrobbleRelay.Service.Lastfm

open Settings (LastfmSettings SaveError)
open Web (Json Network)

/-- What a login works on. -/
structure Desk where
  console : Console
  network : Network
  files : Files
  settings : Settings

/-- Do something on the console alone. -/
def onConsole {ε α : Type} (t : Task ε Console α) : Task ε Desk α :=
  t.within (·.console) fun console desk => { desk with console }

/-- Do something on the network alone. -/
def onNetwork {ε α : Type} (t : Task ε Network α) : Task ε Desk α :=
  t.within (·.network) fun network desk => { desk with network }

/-- Do something on the files alone. -/
def onFiles {ε α : Type} (t : Task ε Files α) : Task ε Desk α :=
  t.within (·.files) fun files desk => { desk with files }

def loginParameters (account : LastfmSettings) (username password : String) :
    List (String × String) :=
  [("username", username), ("password", password), ("api_key", account.apiKey)]

/-- The session key in an answer that also names the user and tells of a subscription. -/
def keyIn? (answer : Json) : Option String := do
  let session ← answer.field? "session"
  let key ← (← session.field? "key").string?
  let _ ← (← session.field? "name").string?
  let _ ← (← session.field? "subscriber").long?
  return key

/-- Ask the service for a session key. -/
def sessionKey (account : LastfmSettings) (username password : String) :
    Task String Network String :=
  if username.isEmpty || password.isEmpty then Task.fail "Invalid authentication credentials"
  else
    (do
      let answer ← call account.apiSecret "auth.getMobileSession"
        (loginParameters account username password)
      match keyIn? answer with
      | some key => return key
      | none => Task.fail (missing "session")).mapError fun reason =>
        "Authentication failed: " ++ reason

/-- Ask a person for user name and password, and the service for a session key. -/
def authenticate (account : LastfmSettings) : Task Failure Desk String := do
  let username ← onConsole (Console.ask "Last.fm Username: ")
  let password ← onConsole (Console.ask "Last.fm Password: ")
  onConsole (Console.print "\nAuthenticating with Last.fm...\n")
  onNetwork ((sessionKey account username password).mapError fun reason =>
    (Failure.plain reason).context "Last.fm rejected the credentials")

/-- The settings with a session key, and Last.fm switched on. -/
def withKey (settings : Settings) (key : String) : Settings :=
  { settings with
    lastfm := settings.lastfm.map fun account =>
      { account with sessionKey := key, enabled := true } }

/-- Log in and keep the session key in the settings file. -/
def login (path : String) : Task Failure Desk Unit := do
  match (← Task.world).settings.lastfm with
  | none => Task.fail (.plain "No [lastfm] section in the config file")
  | some account =>
    if account.apiKey.isEmpty || account.apiSecret.isEmpty then
      Task.fail (.plain
        ("Set lastfm.api_key and lastfm.api_secret in " ++ Text.quoted path ++ " first"))
    else
      let key ← authenticate account
      Task.change fun desk => { desk with settings := withKey desk.settings key }
      let settings := (← Task.world).settings
      onFiles ((settings.save path).mapError SaveError.failure)
      onConsole (Console.print ("Session key saved to " ++ Text.quoted path ++ "\n"))

end ScrobbleRelay.Service.Lastfm
