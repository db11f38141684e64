import ScrobbleRelay.Proofs.Service.Login
import ScrobbleRelay.Proofs.Service.Telling
import ScrobbleRelay.Proofs.Settings.Careful

/-!
# What becomes of a session key

The settings in memory take a session key exactly where the service granted
one, whatever becomes of the file.  Where the login is done the file holds the
same settings, and they are loaded and used as they are; where it is not, no
file has changed, unless the device failed while the settings were saved.
-/

namespace ScrobbleRelay.Service.Lastfm

open Settings (Invalid LastfmSettings SaveError)
open Web (Json Network Response)

variable {desk : Desk}

theorem withKey_of_usable {account : LastfmSettings} (key : String)
    (h : Usable desk account) :
    withKey desk.settings key =
      { desk.settings with
        lastfm := some { account with sessionKey := key, enabled := true } } := by
  rw [withKey, h.present]
  rfl

theorem valid_withKey {account : LastfmSettings} {key : String}
    (h : Usable desk account) (hvalid : desk.settings.Valid) :
    (withKey desk.settings key).Valid := by
  obtain ⟨hbus, hservices⟩ := hvalid
  rw [Settings.validateServices_eq_ok_iff] at hservices
  obtain ⟨haudioscrobbler, -, hlistenbrainz⟩ := hservices
  rw [withKey_of_usable key h]
  refine ⟨hbus, ?_⟩
  rw [Settings.validateServices_eq_ok_iff]
  refine ⟨haudioscrobbler, ?_, hlistenbrainz⟩
  intro active hactive
  obtain rfl := Option.some.inj hactive
  simp [LastfmSettings.validate, h.apiKey, h.apiSecret]

/-- The services of settings with a key that is not empty include Last.fm with
that key. -/
theorem lastfm_mem_services {settings : Settings} {account : LastfmSettings}
    {u v : Audioscrobbler.Uplink} {s : Submitter Audioscrobbler.Uplink}
    (haccount : settings.lastfm = some account)
    (henabled : account.enabled = true) (hkey : account.sessionKey ≠ "")
    (h : (ofSettings settings).Ends u (.done s) v) :
    ∃ submitters, s = Submitter.bundle submitters ∧
      shared (client account) ∈ submitters := by
  refine ⟨_, ofSettings_done h, ?_⟩
  apply List.mem_map.mpr
  refine ⟨.lastfm account, ?_, rfl⟩
  have hactive : settings.activeLastfm = some account := by
    rw [Settings.activeLastfm, haccount, Option.filter_some, if_pos henabled]
  simp [accountsOf, hactive, hkey]

theorem readPairs?_loginBody (account : LastfmSettings)
    (username password : String) :
    ∃ pairs, Web.readPairs? (loginBody account username password) = some pairs ∧
      only? "username" pairs = some username ∧
      only? "password" pairs = some password := by
  have hperm := signed_perm account.apiSecret "auth.getMobileSession"
    (loginParameters account username password)
  refine ⟨_, Web.readPairs?_formText _, only?_of_perm hperm ?_,
    only?_of_perm hperm ?_⟩
  · simp [valuesOf, loginParameters]
  · simp [valuesOf, loginParameters]

/-- How a login leaves the settings in memory, the files and the service. -/
structure Settled (path : String) (desk : Desk) (ending : Ending Failure Unit)
    (after : Desk) : Prop where
  unchanged : grantedKey? (desk.network.heard after.network) = none →
    after.settings = desk.settings
  changed : ∀ key, grantedKey? (desk.network.heard after.network) = some key →
    ∃ account, desk.settings.lastfm = some account ∧
      after.settings = { desk.settings with
        lastfm := some { account with sessionKey := key, enabled := true } }
  spared : ending ≠ .done () →
    desk.files.Spares [] after.files ∨
      ∃ cause part, ending = .failed (brokenOff cause) ∧
        (∃ key, grantedKey? (desk.network.heard after.network) = some key) ∧
        Files.Begins part after.settings.text.toUTF8 ∧
        after.files.find path = .ok (.file part) ∧
        desk.files.Spares [path] after.files
  asked : ∀ r ∈ desk.network.since after.network,
    ∃ account username password, Usable desk account ∧
      desk.console.GivesBoth username password ∧ r.method = .post ∧
        ∃ pairs, Web.readPairs? r.body = some pairs ∧
          only? "username" pairs = some username ∧
          only? "password" pairs = some password
  saved : ending = .done () →
    (∃ key, grantedKey? (desk.network.heard after.network) = some key) ∧
      ∃ text, after.files.read path = .ok text ∧
        Settings.ofText text = .ok after.settings
  loaded : ending = .done () →
    (desk.settings.validate : Task Invalid Files Unit).Ends desk.files
      (.done ()) desk.files →
    (Settings.load path).Ends after.files (.done after.settings) after.files
  served : ∀ key, grantedKey? (desk.network.heard after.network) = some key →
    key ≠ "" → ∀ (u v : Audioscrobbler.Uplink) s,
      (ofSettings after.settings).Ends u (.done s) v →
        ∃ account submitters, after.settings.lastfm = some account ∧
          account.sessionKey = key ∧ s = Submitter.bundle submitters ∧
          shared (client account) ∈ submitters

/-- Every login settles.  Where the service grants a key, the settings in
memory differ from those before by this key and by Last.fm being switched on;
where it grants none, they are those before. -/
theorem login_settles (path : String) (desk : Desk) :
    Settled path desk ((login path).run desk).ending
      ((login path).run desk).world := by
  obtain ⟨x, hcourse⟩ : ∃ x, LoginCourse path desk x
      ((login path).run desk).ending ((login path).run desk).world :=
    login_course ⟨rfl, rfl⟩
  obtain ⟨hsame, hkey⟩ := hcourse.settings_eq
  have hheard := hcourse.heard_eq
  constructor
  case unchanged =>
    rw [hheard]
    exact hsame
  case changed =>
    rw [hheard]
    intro key hgranted
    obtain ⟨account, husable, hsettings⟩ := hkey key hgranted
    rw [withKey_of_usable key husable] at hsettings
    exact ⟨account, husable.present, hsettings⟩
  case spared =>
    rw [hheard]
    exact hcourse.not_done
  case asked =>
    intro r hr
    rw [hcourse.gives.2, Network.since_after] at hr
    obtain ⟨hop, hhop, rfl⟩ := List.mem_map.mp hr
    obtain ⟨account, username, password, url, husable, htyped, hrequest⟩ :=
      hcourse.asked hop hhop
    rw [hrequest]
    exact ⟨account, username, password, husable, htyped, rfl,
      readPairs?_loginBody account username password⟩
  case saved =>
    intro hdone
    rw [hdone] at hcourse
    obtain ⟨_, key, -, hgranted, hsettings, hfind⟩ := hcourse.saved
    rw [hheard, hsettings]
    exact ⟨⟨key, hgranted⟩, _, Files.read_of_find hfind,
      Settings.ofText_text _⟩
  case loaded =>
    intro hdone hvalid
    rw [hdone] at hcourse
    obtain ⟨_, key, husable, -, hsettings, hfind⟩ := hcourse.saved
    rw [hsettings]
    exact Settings.load_of_find
      (valid_withKey husable (Settings.valid_of_validate hvalid)) hfind
  case served =>
    rw [hheard]
    intro key hgranted hne u v s hservices
    obtain ⟨account, husable, hsettings⟩ := hkey key hgranted
    rw [withKey_of_usable key husable] at hsettings
    have haccount := congrArg Settings.lastfm hsettings
    obtain ⟨submitters, hs, hmem⟩ :=
      lastfm_mem_services haccount rfl hne hservices
    exact ⟨_, submitters, haccount, rfl, hs, hmem⟩

/-- What the service says where it grants a session key. -/
def grantBody : String :=
  "\x7b\"session\":\x7b\"subscriber\":0,\"name\":\"user\",\"key\":\"granted\"\x7d\x7d"

/-- An answer that grants a session key. -/
def grant : Response := ⟨200, none, grantBody.toUTF8, false⟩

def grantValue : Json :=
  .object [("session", .object [("subscriber", .number "0"),
    ("name", .string "user"), ("key", .string "granted")])]

/-- The account of a person who has not logged in before. -/
def newAccount : LastfmSettings := ⟨false, "application", "hidden", ""⟩

/-- That person at the console. -/
def newcomer : Desk where
  console := ⟨"user\nsecret\n".toUTF8.data.toList, ""⟩
  network := ⟨true, [.answer grant], []⟩
  files := Files.empty
  settings := { Settings.default with lastfm := some newAccount }

theorem newcomer_is_granted : ∃ network,
    (sessionKey newAccount "user" "secret").Ends newcomer.network
      (.done "granted") network := by
  obtain ⟨url, hcheck, hdemand⟩ := exists_demandUrl_ends newcomer.network
  have hcall {secret operation : String} {parameters : List (String × String)} :
      (call secret operation parameters).Ends newcomer.network (.done grantValue)
        (newcomer.network.after
          [(⟨.post, url, none, callBody secret operation parameters⟩,
            .answer grant)]) := by
    have hsend := Web.send_done_of_answer (n := newcomer.network)
      (r := ⟨.post, url, none, callBody secret operation parameters⟩)
      rfl hcheck rfl rfl
    exact hdemand.bind ((hsend.mapError _).bind ⟨rfl, rfl⟩)
  exact ⟨_, (hcall.bind ⟨rfl, rfl⟩).mapError _⟩

theorem newcomer_authenticates (files : Files) : ∃ asked,
    (authenticate newAccount).Ends { newcomer with files } (.done "granted")
        asked ∧
      asked.files = files ∧ asked.settings = newcomer.settings := by
  obtain ⟨network, hkey⟩ := newcomer_is_granted
  have hfirst : (onConsole (Console.ask "Last.fm Username: ")).Ends
      { newcomer with files } (.done "user")
      { newcomer with
        files
        console := ⟨"secret\n".toUTF8.data.toList, "Last.fm Username: "⟩ } :=
    ⟨rfl, rfl⟩
  have hsecond : (onConsole (Console.ask "Last.fm Password: ")).Ends
      { newcomer with
        files
        console := ⟨"secret\n".toUTF8.data.toList, "Last.fm Username: "⟩ }
      (.done "secret")
      { newcomer with
        files
        console := ⟨[], "Last.fm Username: Last.fm Password: "⟩ } :=
    ⟨rfl, rfl⟩
  have hasked := hkey.mapError fun reason =>
    (Failure.plain reason).context "Last.fm rejected the credentials"
  exact ⟨_, hfirst.bind (hsecond.bind
    (.bind (.within (.change _ _)) (.within hasked))), rfl, rfl⟩

def newcomerWithKey : Settings := withKey newcomer.settings "granted"

theorem newcomer_logs_in : ∃ after,
    (login "s").Ends newcomer (.done ()) after ∧
      after.settings = newcomerWithKey := by
  obtain ⟨asked, hasked, hfiles, hsettings⟩ := newcomer_authenticates Files.empty
  obtain ⟨files, hsave⟩ := Settings.save_s (withKey asked.settings "granted")
  rw [← hfiles] at hsave
  have hsaved := hsave.mapError SaveError.failure
  refine ⟨_, .bind (.world _) (hasked.bind (.bind (.change _ _)
    (.bind (.world _) (.bind (.within hsaved) (.within (.change _ _)))))), ?_⟩
  exact congrArg (withKey · "granted") hsettings

/-- After a first login the file holds the settings with the key. -/
theorem newcomer_settles : ∃ after,
    (login "s").Ends newcomer (.done ()) after ∧
      after.settings.lastfm =
        some ⟨true, "application", "hidden", "granted"⟩ ∧
      (Settings.load "s").Ends after.files (.done after.settings)
        after.files := by
  obtain ⟨after, hlogin, hsettings⟩ := newcomer_logs_in
  have hsettled := login_settles "s" newcomer
  rw [hlogin.1, hlogin.2] at hsettled
  have hvalid : newcomer.settings.Valid := ⟨rfl, rfl⟩
  have hload := hsettled.loaded rfl (Settings.validate_of_valid hvalid _)
  exact ⟨after, hlogin, congrArg Settings.lastfm hsettings, hload⟩

/-- On a full device a login empties the file that was there. -/
theorem newcomer_spoils_file : ∃ after,
    (login "s").Ends { newcomer with files := Settings.keptFile }
        (.failed (brokenOff .full)) after ∧
      Settings.keptFile.fileAt? ["s"] = some Settings.default.text.toUTF8 ∧
      after.files.fileAt? ["s"] = some .empty ∧
      0 < Settings.default.text.toUTF8.size := by
  obtain ⟨asked, hasked, hfiles, hsettings⟩ :=
    newcomer_authenticates Settings.keptFile
  obtain ⟨files, hsave, hempty⟩ := Settings.save_keptFile
    (withKey asked.settings "granted")
  rw [← hfiles] at hsave
  have hsaved := hsave.mapError SaveError.failure
  refine ⟨_, .bind (.world _) (hasked.bind (.bind (.change _ _)
    (.bind (.world _) (.bind_failed (.within hsaved))))), rfl, hempty,
    Settings.default.text_size_pos⟩

end ScrobbleRelay.Service.Lastfm
