import Mathlib.Data.Bool.AllAny
import ScrobbleRelay.Proofs.Console
import ScrobbleRelay.Proofs.Service.Requests
import ScrobbleRelay.Proofs.Settings.Stored
import ScrobbleRelay.Proofs.Web.PlainNames

/-!
# How a login goes

A login types two lines into one request and reads a session key off the
answer.  `LoginCourse` says how this can go and what is left behind: nothing is
asked for but session keys, a key is kept in memory exactly where the service
granted one, and the settings file holds the settings with the key, or a
beginning of their text where the device failed, or no file has changed.
-/

namespace ScrobbleRelay.Service.Lastfm

open Settings (LastfmSettings SaveError)
open Web (Exchange Json Network Request Response Url)

/-! ## Calls of the service -/

/-- The name of the service, and what its address asks it for. -/
def serviceName : List Char := "ws.audioscrobbler.com".toList

def serviceTarget : List Char := "//ws.audioscrobbler.com/2.0/".toList

theorem hostOf?_serviceName : Web.hostOf? true serviceName = some serviceName := by
  have hsmall : ∀ c ∈ serviceName, Web.Domain.IsSmall c :=
    List.all_iff_forall_prop.mp (by decide)
  have hname := Web.Domain.asciiName?_of_small hsmall (by decide)
  exact Web.hostOf?_of_name (c := 'w') (by decide) (by decide +kernel) hname
    (by decide +kernel) (by decide +kernel)

/-- The address of the service is one that a request can be sent to. -/
theorem exists_url :
    ∃ url, Url.ofText? address = some url ∧ Web.checkUrl url = .ok () := by
  have hscheme : Web.splitScheme? (Web.cleaned address) =
      some ("https".toList, serviceTarget ++ "?format=json".toList) := by
    decide +kernel
  have hspecial : Web.isSpecial "https".toList = true := by decide
  have hfragment : Web.cutAt '#' (serviceTarget ++ "?format=json".toList) =
      (serviceTarget ++ "?format=json".toList, none) := by
    decide +kernel
  have hquery : Web.cutAt '?' (serviceTarget ++ "?format=json".toList) =
      (serviceTarget, some "format=json".toList) := by
    decide +kernel
  have hread := Url.ofText?_of_special hscheme hspecial hfragment hquery
  have hauthority : ((serviceTarget.dropWhile (Web.isSlash true)).takeWhile
      fun c => !Web.isSlash true c) = serviceName := by
    decide +kernel
  obtain ⟨url, hurl⟩ := Web.exists_withAuthority?_eq
    ((some "format=json".toList).map (Web.queryChars true)) none hspecial
    hauthority (by decide) (by decide +kernel) (by decide +kernel)
    hostOf?_serviceName
  have htext : Url.ofText? address = some url := hread.trans hurl
  have hweb : url.isWeb = true := by
    rw [Url.isWeb, (Web.host_isSome_of_withAuthority? hurl).1]
    decide
  exact ⟨url, htext, Url.checkUrl_eq_ok_of_isWeb htext hweb⟩

theorem exists_demandUrl_ends (n : Network) :
    ∃ url, Web.checkUrl url = .ok () ∧
      (Web.demandUrl address : Task String Network Url).Ends n (.done url) n := by
  obtain ⟨url, hurl, hcheck⟩ := exists_url
  refine ⟨url, hcheck, ?_⟩
  rw [Web.demandUrl, hurl]
  exact ⟨rfl, rfl⟩

def answerIn? (response : Response) : Option Json :=
  if response.status = 200 then response.text.toOption.bind Json.ofText?
  else none

/-- The session key that the service granted in an exchange. -/
def grantedKey? (x : Exchange) : Option String :=
  (x.final?.bind answerIn?).bind keyIn?

/-- An exchange on a network in which one body is posted to the service. -/
structure Exchanged (body : String) (n : Network) (x : Exchange) : Prop where
  gives : n.Gives x
  posted : ∀ hop ∈ x, ∃ url, hop.1 = ⟨.post, url, none, body⟩

theorem Exchanged.nil (body : String) (n : Network) : Exchanged body n [] :=
  ⟨n.gives_nil, by simp⟩

theorem call_yields (secret operation : String)
    (parameters : List (String × String)) (n : Network) :
    ∃ x, Exchanged (callBody secret operation parameters) n x ∧
      (call secret operation parameters).Yields n (x.final?.bind answerIn?)
        (n.after x) := by
  obtain ⟨url, -, hdemand⟩ := exists_demandUrl_ends n
  obtain ⟨x, result, hsent, hgives, hsend⟩ := Web.send_yields
    ⟨.post, url, none, callBody secret operation parameters⟩ n
  refine ⟨x, ⟨hgives, ?_⟩, ?_⟩
  · intro hop hhop
    rcases hsent.eq_nil_or_followed with rfl | hfollowed
    · cases hhop
    · exact ⟨_, hfollowed.eq_with_url hop hhop⟩
  · unfold call
    apply Task.Yields.done_bind hdemand
    rw [hsent.final?_eq]
    apply (hsend.mapError _).bind
    intro response
    unfold answerIn?
    by_cases hstatus : response.status = 200
    · rw [if_neg (by simp [hstatus]), if_pos hstatus]
      cases response.text with
      | error e => exact .fail _ _
      | ok text =>
          apply Task.Yields.bind (.pure text _)
          intro text
          cases Json.ofText? text with
          | none => exact .fail _ _
          | some value => exact .pure value _
    · rw [if_pos (by simp [hstatus]), if_neg hstatus]
      exact .fail _ _

/-- Asking for a session key is an exchange, which may be an empty one, and
yields the key that is granted in it. -/
theorem sessionKey_yields (account : LastfmSettings)
    (username password : String) (n : Network) :
    ∃ x, Exchanged (loginBody account username password) n x ∧
      (sessionKey account username password).Yields n (grantedKey? x)
        (n.after x) := by
  unfold sessionKey
  by_cases hempty : (username.isEmpty || password.isEmpty) = true
  · rw [if_pos hempty]
    refine ⟨[], .nil _ n, ?_⟩
    rw [Network.after_nil]
    exact .fail _ n
  · rw [if_neg hempty]
    obtain ⟨x, hexchanged, hcall⟩ := call_yields account.apiSecret
      "auth.getMobileSession" (loginParameters account username password) n
    refine ⟨x, hexchanged, (hcall.bind ?_).mapError _⟩
    intro answer
    cases keyIn? answer with
    | none => exact .fail _ _
    | some key => exact .pure key _

/-! ## Questions and requests -/

/-- A dialogue with a person and with the service, and how it ended. -/
structure Dialogue (account : LastfmSettings) (desk after : Desk)
    (ending : Ending Failure String) (x : Exchange) : Prop where
  gives : desk.network.Gives x
  network : after.network = desk.network.after x
  files : after.files = desk.files
  settings : after.settings = desk.settings
  granted : ∀ key, ending = .done key ↔ grantedKey? x = some key
  typed : ∀ hop ∈ x, ∃ username password url,
    desk.console.GivesBoth username password ∧
      hop.1 = ⟨.post, url, none, loginBody account username password⟩

/-- Something is done on the console, and then the rest; or nothing else is
done. -/
theorem onConsole_bind_ends {α β : Type} {desk after : Desk}
    {t : Task Failure Console α} {next : α → Task Failure Desk β}
    {ending : Ending Failure β}
    (h : (onConsole t >>= next).Ends desk ending after) :
    (∃ v console, t.Ends desk.console (.done v) console ∧
        (next v).Ends { desk with console } ending after) ∨
      ((∀ v, ending ≠ .done v) ∧ ∃ console, after = { desk with console }) := by
  rcases Task.Ends.of_bind_or_stops h with
    ⟨v, asked, ⟨hdone, rfl⟩, hnext⟩ | ⟨first, ⟨-, rfl⟩, -, hstops⟩
  · exact .inl ⟨v, _, ⟨hdone, rfl⟩, hnext⟩
  · exact .inr ⟨hstops, _, rfl⟩

section Dialogue

variable {account : LastfmSettings} {desk after : Desk}
  {ending : Ending Failure String}

theorem dialogue_nil {console : Console} (h : ∀ key, ending ≠ .done key) :
    Dialogue account desk { desk with console } ending [] where
  gives := desk.network.gives_nil
  network := desk.network.after_nil.symm
  files := rfl
  settings := rfl
  granted key := iff_of_false (h key) (by simp [grantedKey?, Exchange.final?])
  typed := by simp

theorem Dialogue.ungranted {x : Exchange}
    (h : Dialogue account desk after ending x) (hnot : ∀ key, ending ≠ .done key) :
    grantedKey? x = none := by
  rw [Option.eq_none_iff_forall_ne_some]
  intro key hkey
  exact hnot key ((h.granted key).mpr hkey)

theorem authenticate_dialogue
    (h : (authenticate account).Ends desk ending after) :
    ∃ x, Dialogue account desk after ending x := by
  rcases onConsole_bind_ends h with
    ⟨username, _, hfirst, h⟩ | ⟨hnot, console, rfl⟩
  swap
  · exact ⟨[], dialogue_nil hnot⟩
  rcases onConsole_bind_ends h with
    ⟨password, _, hsecond, h⟩ | ⟨hnot, console, rfl⟩
  swap
  · exact ⟨[], dialogue_nil hnot⟩
  rcases onConsole_bind_ends h with
    ⟨_, console, -, h⟩ | ⟨hnot, console, rfl⟩
  swap
  · exact ⟨[], dialogue_nil hnot⟩
  obtain ⟨rfl, rfl⟩ := h
  obtain ⟨x, hexchanged, hkey⟩ :=
    sessionKey_yields account username password desk.network
  have hended := hkey.mapError fun reason =>
    (Failure.plain reason).context "Last.fm rejected the credentials"
  refine ⟨x, hexchanged.gives, hended.world_eq, rfl, rfl, hended.done_iff, ?_⟩
  intro hop hhop
  obtain ⟨url, hrequest⟩ := hexchanged.posted hop hhop
  exact ⟨username, password, url, Console.givesBoth_of_asks hfirst hsecond,
    hrequest⟩

end Dialogue

/-! ## Logging in -/

/-- How a device that fails while settings are saved is told. -/
def brokenOff (cause : Files.DeviceError) : Failure :=
  SaveError.failure (.file (.device cause))

/-- Settings were kept in a file, or that failed.  No request was made, and the
settings in memory stay. -/
structure Kept (path : String) (s : Settings) (desk : Desk)
    (ending : Ending Failure Unit) (after : Desk) : Prop where
  network : after.network = desk.network
  settings : after.settings = desk.settings
  files : Files.Writing path s.text.toUTF8 brokenOff desk.files ending after.files

section Kept

variable {path : String} {s : Settings} {desk after : Desk}
  {ending : Ending Failure Unit}

theorem save_kept
    (h : (onFiles ((s.save path).mapError SaveError.failure)).Ends desk
      ending after) : Kept path s desk ending after := by
  obtain ⟨hending, rfl⟩ := h
  obtain ⟨inner, hinner, rfl⟩ := Task.Ends.of_mapError ⟨hending, rfl⟩
  exact ⟨rfl, rfl, (Settings.save_writing hinner).mapError SaveError.failure⟩

theorem keep_kept
    (h : (do
      onFiles ((s.save path).mapError SaveError.failure)
      onConsole (Console.print ("Session key saved to " ++ Text.quoted path ++ "\n")) :
        Task Failure Desk Unit).Ends desk ending after) :
    Kept path s desk ending after := by
  rcases Task.Ends.of_bind h with
    ⟨_, saved, hdone, hprint⟩ | ⟨e, hfailed, rfl⟩ | ⟨hcrashed, rfl⟩
  · obtain ⟨rfl, rfl⟩ := hprint
    obtain ⟨hnetwork, hsettings, hfiles⟩ := save_kept hdone
    exact ⟨hnetwork, hsettings, hfiles⟩
  · exact save_kept hfailed
  · exact save_kept hcrashed

end Kept

/-- An account that a login can use: it has the key and the secret of an
application. -/
structure Usable (desk : Desk) (account : LastfmSettings) : Prop where
  present : desk.settings.lastfm = some account
  apiKey : account.apiKey ≠ ""
  apiSecret : account.apiSecret ≠ ""

/-- How a login can go, with the exchange that was made: it stops before
anything is done, or without a key, or it has a key, which is in the settings
in memory from then on, and keeps it in the file or fails to. -/
inductive LoginCourse (path : String) (desk : Desk) :
    Exchange → Ending Failure Unit → Desk → Prop
  | refused {ending : Ending Failure Unit} (stops : ending ≠ .done ()) :
      LoginCourse path desk [] ending desk
  | unanswered {account : LastfmSettings} {x : Exchange} {after : Desk}
      {outcome : Ending Failure String} {ending : Ending Failure Unit}
      (usable : Usable desk account)
      (dialogue : Dialogue account desk after outcome x)
      (ungranted : grantedKey? x = none) (stops : ending ≠ .done ()) :
      LoginCourse path desk x ending after
  | granted {account : LastfmSettings} {key : String} {x : Exchange}
      {asked after : Desk} {ending : Ending Failure Unit}
      (usable : Usable desk account)
      (dialogue : Dialogue account desk asked (.done key) x)
      (kept : Kept path (withKey desk.settings key)
        { asked with settings := withKey desk.settings key } ending after) :
      LoginCourse path desk x ending after

variable {path : String} {desk after : Desk} {x : Exchange}
  {ending : Ending Failure Unit}

theorem login_course (h : (login path).Ends desk ending after) :
    ∃ x, LoginCourse path desk x ending after := by
  have hfailed {error : Failure}
      (hfail : (Task.fail error : Task Failure Desk Unit).Ends desk ending after) :
      ∃ x, LoginCourse path desk x ending after := by
    obtain ⟨rfl, rfl⟩ := hfail
    exact ⟨[], .refused (by simp)⟩
  have hrest := Task.Ends.of_world_bind h
  split at hrest
  · exact hfailed hrest
  next account haccount =>
  split at hrest
  · exact hfailed hrest
  next hkeys =>
  have husable : Usable desk account := by
    simp only [Bool.or_eq_true, String.isEmpty_iff, not_or] at hkeys
    exact ⟨haccount, hkeys.1, hkeys.2⟩
  rcases Task.Ends.of_bind_or_stops hrest with
    ⟨key, asked, hasked, hkeep⟩ | ⟨first, hasked, hnot, hstops⟩
  · obtain ⟨x, hdialogue⟩ := authenticate_dialogue hasked
    have hkept := keep_kept
      (Task.Ends.of_world_bind (Task.Ends.of_change_bind hkeep))
    rw [hdialogue.settings] at hkept
    exact ⟨x, .granted husable hdialogue hkept⟩
  · obtain ⟨x, hdialogue⟩ := authenticate_dialogue hasked
    have hungranted := hdialogue.ungranted hnot
    exact ⟨x, .unanswered husable hdialogue hungranted (hstops ())⟩

namespace LoginCourse

theorem gives (h : LoginCourse path desk x ending after) :
    desk.network.Gives x ∧ after.network = desk.network.after x := by
  cases h with
  | refused => exact ⟨desk.network.gives_nil, desk.network.after_nil.symm⟩
  | unanswered _ dialogue => exact ⟨dialogue.gives, dialogue.network⟩
  | granted _ dialogue kept =>
      exact ⟨dialogue.gives, kept.network.trans dialogue.network⟩

theorem heard_eq (h : LoginCourse path desk x ending after) :
    desk.network.heard after.network = x := by
  rw [h.gives.2]
  exact Network.heard_after h.gives.1

/-- A key is kept in memory exactly where one was granted. -/
theorem settings_eq (h : LoginCourse path desk x ending after) :
    (grantedKey? x = none → after.settings = desk.settings) ∧
      ∀ key, grantedKey? x = some key → ∃ account, Usable desk account ∧
        after.settings = withKey desk.settings key := by
  cases h with
  | refused => exact ⟨fun _ => rfl, fun key hkey => nomatch hkey⟩
  | unanswered _ dialogue ungranted =>
      refine ⟨fun _ => dialogue.settings, ?_⟩
      intro key hkey
      cases ungranted.symm.trans hkey
  | granted usable dialogue kept =>
      have hgranted := (dialogue.granted _).mp rfl
      constructor
      · intro hnone
        cases hnone.symm.trans hgranted
      · intro key hkey
        obtain rfl := Option.some.inj (hgranted.symm.trans hkey)
        exact ⟨_, usable, kept.settings⟩

theorem asked (h : LoginCourse path desk x ending after) :
    ∀ hop ∈ x, ∃ account username password url, Usable desk account ∧
      desk.console.GivesBoth username password ∧
        hop.1 = ⟨.post, url, none, loginBody account username password⟩ := by
  intro hop hhop
  cases h with
  | refused => cases hhop
  | unanswered usable dialogue =>
      obtain ⟨username, password, url, htyped⟩ := dialogue.typed hop hhop
      exact ⟨_, username, password, url, usable, htyped⟩
  | granted usable dialogue =>
      obtain ⟨username, password, url, htyped⟩ := dialogue.typed hop hhop
      exact ⟨_, username, password, url, usable, htyped⟩

/-- A login that is not done has changed no file, or the device failed while
the settings with the granted key were saved. -/
theorem not_done (h : LoginCourse path desk x ending after)
    (hnot : ending ≠ .done ()) :
    desk.files.Spares [] after.files ∨
      ∃ cause part, ending = .failed (brokenOff cause) ∧
        (∃ key, grantedKey? x = some key) ∧
        Files.Begins part after.settings.text.toUTF8 ∧
        after.files.find path = .ok (.file part) ∧
        desk.files.Spares [path] after.files := by
  cases h with
  | refused => exact .inl (Std.Refl.refl desk.files)
  | unanswered _ dialogue =>
      rw [dialogue.files]
      exact .inl (Std.Refl.refl desk.files)
  | granted _ dialogue kept =>
      have hwriting := kept.files
      simp only [dialogue.files] at hwriting
      rw [kept.settings]
      rcases hwriting.not_done hnot with
        hspares | ⟨cause, part, hending, hbegins, hholds⟩
      · exact .inl hspares
      · exact .inr ⟨cause, part, hending, ⟨_, (dialogue.granted _).mp rfl⟩,
          hbegins, hholds, hwriting.spares_path⟩

/-- A login that is done has kept a key, and its file holds the settings. -/
theorem saved (h : LoginCourse path desk x (.done ()) after) :
    ∃ account key, Usable desk account ∧ grantedKey? x = some key ∧
      after.settings = withKey desk.settings key ∧
      after.files.find path =
        .ok (.file (withKey desk.settings key).text.toUTF8) := by
  cases h with
  | refused stops => exact absurd rfl stops
  | unanswered _ _ _ stops => exact absurd rfl stops
  | granted usable dialogue kept =>
      exact ⟨_, _, usable, (dialogue.granted _).mp rfl, kept.settings,
        kept.files.find_of_done⟩

end LoginCourse

/-- A login only asks for a session key, and writes no file but the one of the
settings, with such a key in them. -/
theorem login_ends {P : Request → Prop}
    (h : ∀ account username password url,
      P ⟨.post, url, none, loginBody account username password⟩)
    (hlogin : (login path).Ends desk ending after) :
    desk.network.Asking P after.network ∧
    ∃ key, Files.Writing path (withKey desk.settings key).text.toUTF8 brokenOff
      desk.files ending after.files := by
  obtain ⟨x, hcourse⟩ := login_course hlogin
  constructor
  · rw [hcourse.gives.2]
    refine ⟨x.map Prod.fst, rfl, ?_⟩
    intro r hr
    obtain ⟨hop, hhop, rfl⟩ := List.mem_map.mp hr
    obtain ⟨account, username, password, url, -, -, hrequest⟩ :=
      hcourse.asked hop hhop
    rw [hrequest]
    exact h account username password url
  · cases hcourse with
    | refused stops => exact ⟨"", .spared stops (Std.Refl.refl desk.files)⟩
    | unanswered _ dialogue _ stops =>
        rw [dialogue.files]
        exact ⟨"", .spared stops (Std.Refl.refl desk.files)⟩
    | granted _ dialogue kept =>
        rw [← dialogue.files]
        exact ⟨_, kept.files⟩

end ScrobbleRelay.Service.Lastfm
