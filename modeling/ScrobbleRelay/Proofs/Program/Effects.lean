import ScrobbleRelay.Proofs.Program.Stages
import ScrobbleRelay.Proofs.Service.Login
import ScrobbleRelay.Proofs.Service.Submissions

/-!
# What a run can do

Every stage works on its own part of the world, so that what a run did not
reach it did not touch: without services no rule is given to the bus, without
a subscription no scrobble is submitted, without settings nothing is asked of
the network, and without a login a settings file stays as it is.
-/

namespace ScrobbleRelay.Program

open Bus (MatchRule)
open CommandLine (Options)
open Service (Submitter Submits)

variable {s : Surroundings} {arguments : List String} {w : World}

/-! ## What each stage leaves alone -/

theorem Stops.world_eq {α : Type} {stage : Task Failure World α} {exit : Nat}
    {w' : World} (h : Stops stage w exit w') : (stage.run w).world = w' := by
  cases h with
  | failed ends => exact ends.2
  | crashed ends => exact ends.2

theorem Stops.exists_ends {α : Type} {stage : Task Failure World α} {exit : Nat}
    {w' : World} (h : Stops stage w exit w') :
    ∃ ending, stage.Ends w ending w' ∧ ∀ value, ending ≠ .done value := by
  cases h with
  | failed ends => exact ⟨_, ends, by simp⟩
  | crashed ends => exact ⟨_, ends, by simp⟩

theorem loading_world (path : String) (w : World) :
    ((loading path).run w).world =
      { w with files := ((Settings.load path).run w.files).world } :=
  rfl

theorem buildServices_world (settings : Settings) (w : World) :
    ((buildServices settings).run w).world =
      { w with uplink := ((Service.ofSettings settings).run w.uplink).world } := by
  let built := (Service.ofSettings settings).run w.uplink
  have hsettled : (((onUplink (Service.ofSettings settings)).settled :
      Task Failure World _).run w) =
    ⟨.done built.ending, { w with uplink := built.world }, built.lines⟩ := rfl
  rw [buildServices, Task.run_bind, hsettled]
  cases built.ending <;> rfl

theorem subscribing_world (settings : Settings) (w : World) :
    ((subscribing settings).run w).world =
      { w with bus := ((Bus.connect settings.bus).run w.bus).world } :=
  rfl

theorem Loaded.world_eq {options : Options} {path : String} {settings : Settings}
    {w₁ : World} (h : Loaded s arguments w options path settings w₁) :
    w₁ = { w with files := ((Settings.load path).run w.files).world } :=
  h.load.2.symm

theorem Loaded.valid {options : Options} {path : String} {settings : Settings}
    {w₁ : World} (h : Loaded s arguments w options path settings w₁) :
    settings.Valid :=
  Settings.valid_of_load ⟨(Task.Ends.of_mapError_done h.load).1, rfl⟩

/-- A settings file that is there stays as it is while it is loaded. -/
theorem loading_find {path : String} {entry : Files.Entry}
    (hfind : w.files.find path = .ok entry) :
    ((loading path).run w).world.files.find path = .ok entry := by
  have hthere : w.files.isThere path = true := by
    rw [Files.isThere, hfind]
    rfl
  rw [loading_world, Settings.load_of_isThere hthere]
  exact hfind

/-- A login makes no submissions, and writes no file but the one of the
settings, with a session key in them. -/
theorem login_ends {settings : Settings} {path : String} {w' : World}
    {ending : Ending Failure Unit}
    (h : (login settings path).Ends w ending w') :
    w.uplink.network.Asking (fun r => ¬ Submits r) w'.uplink.network ∧
    ∃ key, Files.Writing path
      (Service.Lastfm.withKey settings key).text.toUTF8
      Service.Lastfm.brokenOff w.files ending w'.files := by
  have hbody (account) (username password : String) (url) :
      ¬ Submits ⟨.post, url, none,
        Service.Lastfm.loginBody account username password⟩ := by
    rintro ⟨-, scrobble, htells⟩
    exact Service.not_tells_loginBody account username password scrobble htells
  obtain ⟨rfl, rfl⟩ := h
  exact Service.Lastfm.login_ends hbody ⟨rfl, rfl⟩

theorem buildServices_asking (settings : Settings) (w : World) :
    w.uplink.network.Asking (fun r => ¬ Submits r)
      ((buildServices settings).run w).world.uplink.network := by
  rw [buildServices_world]
  exact Service.ofSettings_leads settings
    (fun url authorization => Service.not_submits_get rfl) w.uplink

/-- A login broke off while it wrote the settings with a session key: the file
at the path holds a beginning of their text. -/
def BrokenOff (s : Surroundings) (arguments : List String) (w : World)
    (options : Options) (path : String) (w' : World) : Prop :=
  ∃ settings w₁ key part, Loaded s arguments w options path settings w₁ ∧
    Files.Begins part (Service.Lastfm.withKey settings key).text.toUTF8 ∧
    w'.files.find path = .ok (.file part)

namespace Course

variable {exit : Nat} {w' : World}

/-- Only a run that built its services touches the bus. -/
theorem bus_eq (h : Course s arguments w exit w')
    (hbuilt : ∀ settings submitter w₂,
      ¬ Built s arguments w settings submitter w₂) : w'.bus = w.bus := by
  cases h with
  | @refused refusal unaccepted => cases refusal <;> rfl
  | unlocated => rfl
  | unloaded accepted located stops =>
      rw [← stops.world_eq]
      rfl
  | loggedIn loggedIn =>
      obtain ⟨loaded, asked, login⟩ := loggedIn
      rw [← login.2, loaded.world_eq]
      rfl
  | notLoggedIn loaded asked stops =>
      rw [← stops.world_eq, loaded.world_eq]
      rfl
  | unbuilt loaded unasked stops =>
      rw [← stops.world_eq, buildServices_world, loaded.world_eq]
  | unsubscribed built stops => exact absurd built (hbuilt _ _ _)
  | relayed subscribed =>
      obtain ⟨built, subscribe⟩ := subscribed
      exact absurd built (hbuilt _ _ _)

/-- Only a run that loaded its settings makes requests. -/
theorem uplink_eq (h : Course s arguments w exit w')
    (hloaded : ∀ options path settings w₁,
      ¬ Loaded s arguments w options path settings w₁) :
    w'.uplink = w.uplink := by
  cases h with
  | @refused refusal unaccepted => cases refusal <;> rfl
  | unlocated => rfl
  | unloaded accepted located stops =>
      rw [← stops.world_eq]
      rfl
  | loggedIn loggedIn =>
      obtain ⟨loaded, asked, login⟩ := loggedIn
      exact absurd loaded (hloaded _ _ _ _)
  | notLoggedIn loaded asked stops => exact absurd loaded (hloaded _ _ _ _)
  | unbuilt loaded unasked stops => exact absurd loaded (hloaded _ _ _ _)
  | unsubscribed built stops =>
      obtain ⟨loaded, unasked, build⟩ := built
      exact absurd loaded (hloaded _ _ _ _)
  | relayed subscribed =>
      obtain ⟨⟨loaded, unasked, build⟩, subscribe⟩ := subscribed
      exact absurd loaded (hloaded _ _ _ _)

theorem asking (h : Course s arguments w exit w')
    (hsubscribed : ∀ submitter rule w₃,
      ¬ Subscribed s arguments w submitter rule w₃) :
    w.uplink.network.Asking (fun r => ¬ Submits r) w'.uplink.network := by
  cases h with
  | @refused refusal unaccepted =>
      cases refusal <;> exact Std.Refl.refl w.uplink.network
  | unlocated => exact Std.Refl.refl w.uplink.network
  | unloaded accepted located stops =>
      rw [← stops.world_eq]
      exact Std.Refl.refl w.uplink.network
  | loggedIn loggedIn =>
      obtain ⟨loaded, asked, login⟩ := loggedIn
      have hasking := (login_ends login).1
      rw [loaded.world_eq] at hasking
      exact hasking
  | notLoggedIn loaded asked stops =>
      obtain ⟨ending, hends, -⟩ := stops.exists_ends
      have hasking := (login_ends hends).1
      rw [loaded.world_eq] at hasking
      exact hasking
  | unbuilt loaded unasked stops =>
      rw [← stops.world_eq, loaded.world_eq]
      exact buildServices_asking _ _
  | unsubscribed built stops =>
      obtain ⟨loaded, unasked, build⟩ := built
      rw [← stops.world_eq, subscribing_world, ← build.2, loaded.world_eq]
      exact buildServices_asking _ _
  | relayed subscribed => exact absurd subscribed (hsubscribed _ _ _)

/-- A settings file that is there at the beginning is the same at the end,
unless a login was asked for: then it may hold a beginning of the settings with
a key. -/
theorem find_eq (h : Course s arguments w exit w') {options : Options}
    {path : String} {bytes : ByteArray}
    (haccepted : CommandLine.parse arguments = .ok options)
    (hlocated : settingsPath? s options = some path)
    (hfind : w.files.find path = .ok (.file bytes))
    (hlogin : ∀ settings w₂, ¬ LoggedIn s arguments w settings w₂) :
    w'.files.find path = .ok (.file bytes) ∨
      options.authLastfm = true ∧ exit = exitFailure ∧
        BrokenOff s arguments w options path w' := by
  have hloading := loading_find hfind
  have hoptions {other : Options} {elsewhere : String}
      (hother : CommandLine.parse arguments = .ok other)
      (hpath : settingsPath? s other = some elsewhere) :
      other = options ∧ elsewhere = path := by
    obtain rfl := Except.ok.inj (hother.symm.trans haccepted)
    exact ⟨rfl, Option.some.inj (hpath.symm.trans hlocated)⟩
  have hloaded {other : Options} {elsewhere : String} {settings : Settings}
      {w₁ : World} (loaded : Loaded s arguments w other elsewhere settings w₁) :
      w₁.files.find path = .ok (.file bytes) := by
    obtain ⟨rfl, rfl⟩ := hoptions loaded.accepted loaded.located
    rw [← loaded.load.2]
    exact hloading
  cases h with
  | @refused refusal unaccepted => cases refusal <;> exact .inl hfind
  | unlocated => exact .inl hfind
  | unloaded accepted located stops =>
      obtain ⟨rfl, rfl⟩ := hoptions accepted located
      rw [← stops.world_eq]
      exact .inl hloading
  | loggedIn loggedIn => exact absurd loggedIn (hlogin _ _)
  | notLoggedIn loaded asked stops =>
      have hfile := hloaded loaded
      obtain ⟨rfl, rfl⟩ := hoptions loaded.accepted loaded.located
      cases stops with
      | failed ends =>
          obtain ⟨key, hwriting⟩ := (login_ends ends).2
          rcases hwriting.not_done (by simp) with
            hspares | ⟨cause, part, -, hbegins, hholds⟩
          · exact .inl (hspares.find_file (by simp) hfile)
          · exact .inr ⟨asked, rfl, _, _, key, part, loaded, hbegins, hholds⟩
      | crashed ends =>
          obtain ⟨key, hwriting⟩ := (login_ends ends).2
          rcases hwriting.not_done (by simp) with
            hspares | ⟨cause, part, hbroken, -⟩
          · exact .inl (hspares.find_file (by simp) hfile)
          · cases hbroken
  | unbuilt loaded unasked stops =>
      have hfile := hloaded loaded
      rw [← stops.world_eq, buildServices_world]
      exact .inl hfile
  | unsubscribed built stops =>
      obtain ⟨loaded, unasked, build⟩ := built
      have hfile := hloaded loaded
      rw [← stops.world_eq, subscribing_world, ← build.2, buildServices_world]
      exact .inl hfile
  | relayed subscribed =>
      obtain ⟨⟨loaded, unasked, build⟩, subscribe⟩ := subscribed
      have hfile := hloaded loaded
      rw [Program.relayed, ← subscribe.2, subscribing_world, ← build.2,
        buildServices_world]
      exact .inl hfile

end Course

/-- After a login the settings file holds the settings with a session key. -/
theorem LoggedIn.exists_key {settings : Settings} {options : Options}
    {path : String} {w₂ : World} (h : LoggedIn s arguments w settings w₂)
    (haccepted : CommandLine.parse arguments = .ok options)
    (hlocated : settingsPath? s options = some path) :
    ∃ key, w₂.files.find path =
      .ok (.file (Service.Lastfm.withKey settings key).text.toUTF8) := by
  obtain ⟨loaded, asked, login⟩ := h
  obtain rfl := Except.ok.inj (loaded.accepted.symm.trans haccepted)
  obtain rfl := Option.some.inj (loaded.located.symm.trans hlocated)
  obtain ⟨key, hwriting⟩ := (login_ends login).2
  exact ⟨key, hwriting.find_of_done⟩

/-- A run that goes through its stages in their order, and in which a stage that
does not let it go on keeps it from the effects of the later ones. -/
structure Orderly (s : Surroundings) (arguments : List String) (w : World) :
    Prop where
  /-- Each stage begins in the world that the one before it left. -/
  course : Course s arguments w (run s arguments w).exit (run s arguments w).world
  /-- With a login, or without settings or services, no rule is given to the
  bus. -/
  bus : (∀ settings submitter w₂, ¬ Built s arguments w settings submitter w₂) →
    (run s arguments w).world.bus = w.bus
  /-- Without a subscription no scrobble is submitted. -/
  submissions :
    (∀ submitter rule w₃, ¬ Subscribed s arguments w submitter rule w₃) →
    w.uplink.network.Asking (fun r => ¬ Submits r)
      (run s arguments w).world.uplink.network
  /-- Without settings no request is made. -/
  requests :
    (∀ options path settings w₁,
      ¬ Loaded s arguments w options path settings w₁) →
    (run s arguments w).world.uplink = w.uplink
  /-- Settings that were loaded passed their check. -/
  valid : ∀ options path settings w₁,
    Loaded s arguments w options path settings w₁ → settings.Valid
  /-- The run succeeds exactly if it printed the help or the version, logged in,
  or relayed until it was told to stop, whatever became of the submissions. -/
  success : (run s arguments w).exit = exitSuccess ↔
    CommandLine.parse arguments = .error .help ∨
    CommandLine.parse arguments = .error .version ∨
    (∃ settings w₂, LoggedIn s arguments w settings w₂) ∨
    (∃ submitter rule w₃, Subscribed s arguments w submitter rule w₃) ∧
      s.stop = .cancelled
  /-- A bus that goes away is a failure. -/
  closed : ∀ submitter rule w₃, Subscribed s arguments w submitter rule w₃ →
    s.stop = .closed → (run s arguments w).exit = exitFailure
  /-- A settings file that is there stays as it is, unless a login was done or
  broke off while the file was written. -/
  unchanged : ∀ options path bytes, CommandLine.parse arguments = .ok options →
    settingsPath? s options = some path →
    w.files.find path = .ok (.file bytes) →
    (∀ settings w₂, ¬ LoggedIn s arguments w settings w₂) →
    (run s arguments w).world.files.find path = .ok (.file bytes) ∨
      options.authLastfm = true ∧ (run s arguments w).exit = exitFailure ∧
        BrokenOff s arguments w options path (run s arguments w).world
  /-- After a login the file holds the settings with a session key. -/
  changed : ∀ options path settings w₂,
    CommandLine.parse arguments = .ok options →
    settingsPath? s options = some path →
    LoggedIn s arguments w settings w₂ →
    ∃ key, (run s arguments w).world.files.find path =
      .ok (.file (Service.Lastfm.withKey settings key).text.toUTF8)

/-- Every run goes through its stages in their order, and where one of them does
not let it go on, it has none of the effects of the later ones. -/
theorem run_goes_through_stages (s : Surroundings) (arguments : List String)
    (w : World) : Orderly s arguments w where
  course := run_course s arguments w
  bus := (run_course s arguments w).bus_eq
  submissions := (run_course s arguments w).asking
  requests := (run_course s arguments w).uplink_eq
  valid _ _ _ _ hloaded := hloaded.valid
  success := run_exit_eq_success_iff s arguments w
  closed submitter rule w₃ hsubscribed hstop := by
    have hexit := congrArg Prod.fst hsubscribed.run_eq
    rw [hstop] at hexit
    exact hexit
  unchanged _ _ _ haccepted hlocated hfind hlogin :=
    (run_course s arguments w).find_eq haccepted hlocated hfind hlogin
  changed options path settings w₂ haccepted hlocated hlogin := by
    have hworld : (run s arguments w).world = w₂ :=
      congrArg Prod.snd hlogin.run_eq
    rw [hworld]
    exact hlogin.exists_key haccepted hlocated

/-! ## A first run -/

/-- A user who has no settings, and who stops the program. -/
def firstUser : Surroundings where
  home := none
  settingsDirectory := none
  logSpecification := none
  signals := []
  stop := .cancelled
  clock := fun _ => ⟨0, 0⟩

/-- A world without files and network, whose bus refuses nothing. -/
def bareWorld : World where
  files := Files.empty
  console := ⟨[], ""⟩
  uplink := ⟨⟨false, [], []⟩, none⟩
  bus := some ⟨none, none, []⟩

theorem firstUser_loaded : ∃ files,
    Loaded firstUser ["-c", "s"] bareWorld ⟨some "s", false, false⟩ "s"
      Settings.default { bareWorld with files } := by
  obtain ⟨after, hsave⟩ := Settings.save_s Settings.default
  have hload := Settings.load_of_missing Settings.isThere_s hsave
  have hfiles : (onFiles (Settings.load "s")).Ends bareWorld
      (.done Settings.default) { bareWorld with files := after } :=
    Task.Ends.within hload
  exact ⟨after, rfl, rfl, hfiles.mapError _⟩

theorem firstUser_subscribed : ∃ submitter rule w₃,
    Subscribed firstUser ["-c", "s"] bareWorld submitter rule w₃ := by
  obtain ⟨files, hloaded⟩ := firstUser_loaded
  exact ⟨_, _, _, ⟨hloaded, rfl, ⟨rfl, rfl⟩⟩, ⟨rfl, rfl⟩⟩

/-- The run writes the default settings, subscribes, and succeeds. -/
theorem firstUser_succeeds :
    (run firstUser ["-c", "s"] bareWorld).exit = exitSuccess :=
  (run_goes_through_stages firstUser ["-c", "s"] bareWorld).success.mpr
    (.inr (.inr (.inr ⟨firstUser_subscribed, rfl⟩)))

end ScrobbleRelay.Program
