import ScrobbleRelay.Program
import ScrobbleRelay.Proofs.Ends

/-!
# The stages of a run

A run reads its arguments, finds its settings file, loads the settings, and then
logs in or builds the services, subscribes and relays.  `Course` lists the ways
a run can go: each stage begins in the world that the one before it left, and
where a stage refuses, fails or crashes, the world it left is the world of the
run.  Every run takes one of the courses, and its exit code says which.
-/

namespace ScrobbleRelay.Program

open Bus (MatchRule)
open CommandLine (Options)
open Relay (Stop)
open Service (Submitter)
open Service.Audioscrobbler (Uplink)

def loading (path : String) : Task Failure World Settings :=
  (onFiles (Settings.load path)).mapError Settings.LoadError.failure

def subscribing (settings : Settings) : Task Failure World MatchRule :=
  onBus (Bus.connect settings.bus)

/-- A stage that does not let a run go on: the exit code of the run, and the
world it ends in. -/
inductive Stops {α : Type} (stage : Task Failure World α) (w : World) :
    Nat → World → Prop
  | failed {failure : Failure} {w' : World}
      (ends : stage.Ends w (.failed failure) w') : Stops stage w exitFailure w'
  | crashed {w' : World} (ends : stage.Ends w .crashed w') :
      Stops stage w exitCrash w'

section

variable (s : Surroundings) (arguments : List String) (w : World)

/-- The settings were loaded from the file at a path. -/
structure Loaded (options : Options) (path : String) (settings : Settings)
    (w' : World) : Prop where
  accepted : CommandLine.parse arguments = .ok options
  located : settingsPath? s options = some path
  load : (loading path).Ends w (.done settings) w'

/-- A login was asked for and is done. -/
inductive LoggedIn : Settings → World → Prop
  | intro {options : Options} {path : String} {settings : Settings}
      {w₁ w₂ : World} (loaded : Loaded s arguments w options path settings w₁)
      (asked : options.authLastfm = true)
      (login : (login settings path).Ends w₁ (.done ()) w₂) :
      LoggedIn settings w₂

/-- No login was asked for, and the services were built. -/
inductive Built : Settings → Submitter Uplink → World → Prop
  | intro {options : Options} {path : String} {settings : Settings}
      {submitter : Submitter Uplink} {w₁ w₂ : World}
      (loaded : Loaded s arguments w options path settings w₁)
      (unasked : options.authLastfm = false)
      (build : (buildServices settings).Ends w₁ (.done submitter) w₂) :
      Built settings submitter w₂

/-- The bus took the subscription. -/
inductive Subscribed : Submitter Uplink → MatchRule → World → Prop
  | intro {settings : Settings} {submitter : Submitter Uplink} {rule : MatchRule}
      {w₂ w₃ : World} (built : Built s arguments w settings submitter w₂)
      (subscribe : (subscribing settings).Ends w₂ (.done rule) w₃) :
      Subscribed submitter rule w₃

/-- The exit code of a run that relayed until it was stopped. -/
def relayExit : Stop → Nat
  | .cancelled => exitSuccess
  | .closed => exitFailure

def relayed (submitter : Submitter Uplink) (rule : MatchRule) (w₃ : World) :
    World :=
  { w₃ with
    uplink :=
      (Relay.run submitter s.clock rule s.signals s.stop w₃.uplink).world }

/-- The ways in which a run can go: its exit code and the world it leaves. -/
inductive Course : Nat → World → Prop
  | refused {refusal : CommandLine.Refusal}
      (unaccepted : CommandLine.parse arguments = .error refusal) :
      Course (refused w refusal).exit (refused w refusal).world
  | unlocated {options : Options}
      (accepted : CommandLine.parse arguments = .ok options)
      (nowhere : settingsPath? s options = none) : Course exitFailure w
  | unloaded {options : Options} {path : String} {exit : Nat} {w₁ : World}
      (accepted : CommandLine.parse arguments = .ok options)
      (located : settingsPath? s options = some path)
      (stops : Stops (loading path) w exit w₁) : Course exit w₁
  | loggedIn {settings : Settings} {w₂ : World}
      (loggedIn : LoggedIn s arguments w settings w₂) : Course exitSuccess w₂
  | notLoggedIn {options : Options} {path : String} {settings : Settings}
      {exit : Nat} {w₁ w₂ : World}
      (loaded : Loaded s arguments w options path settings w₁)
      (asked : options.authLastfm = true)
      (stops : Stops (login settings path) w₁ exit w₂) : Course exit w₂
  | unbuilt {options : Options} {path : String} {settings : Settings}
      {exit : Nat} {w₁ w₂ : World}
      (loaded : Loaded s arguments w options path settings w₁)
      (unasked : options.authLastfm = false)
      (stops : Stops (buildServices settings) w₁ exit w₂) : Course exit w₂
  | unsubscribed {settings : Settings} {submitter : Submitter Uplink}
      {exit : Nat} {w₂ w₃ : World}
      (built : Built s arguments w settings submitter w₂)
      (stops : Stops (subscribing settings) w₂ exit w₃) : Course exit w₃
  | relayed {submitter : Submitter Uplink} {rule : MatchRule} {w₃ : World}
      (subscribed : Subscribed s arguments w submitter rule w₃) :
      Course (relayExit s.stop) (relayed s submitter rule w₃)

end

variable {s : Surroundings} {arguments : List String} {w : World}

/-! ## Every run takes a course -/

theorem Loaded.locate {options : Options} {path : String} {settings : Settings}
    {w₁ : World} (h : Loaded s arguments w options path settings w₁) :
    (Program.locate s options).Ends w (.done path) w := by
  rw [Program.locate, h.located]
  exact .pure path w

/-- How a run ends, by the ending of its preparation. -/
def conclusion (s : Surroundings) :
    Ending Failure (Option (Submitter Uplink × MatchRule)) → World → Nat × World
  | .done none, w' => (exitSuccess, w')
  | .done (some (submitter, rule)), w' =>
      (relayExit s.stop, relayed s submitter rule w')
  | .failed _, w' => (exitFailure, w')
  | .crashed, w' => (exitCrash, w')

theorem relay_conclusion (s : Surroundings) (submitter : Submitter Uplink)
    (rule : MatchRule) (before : List Log.Line) (w' : World) :
    ((relay s submitter rule before w').exit,
        (relay s submitter rule before w').world) =
      (relayExit s.stop, relayed s submitter rule w') := by
  unfold relay relayed relayExit Relay.run Relay.dispatch
  cases s.stop <;> rfl

theorem run_conclusion {options : Options} {w' : World}
    {ending : Ending Failure (Option (Submitter Uplink × MatchRule))}
    (haccepted : CommandLine.parse arguments = .ok options)
    (hprepare : (prepare s options).Ends w ending w') :
    ((run s arguments w).exit, (run s arguments w).world) =
      conclusion s ending w' := by
  obtain ⟨hending, hworld⟩ := hprepare
  simp only [run, haccepted, runOptions, hending, hworld]
  cases ending with
  | done result =>
      cases result with
      | none => rfl
      | some found => exact relay_conclusion s found.1 found.2 _ w'
  | failed failure => rfl
  | crashed => rfl

theorem run_refused {refusal : CommandLine.Refusal}
    (h : CommandLine.parse arguments = .error refusal) :
    run s arguments w = refused w refusal := by
  simp only [run, h]

/-- How the stages before relaying end puts a run on its course: each of them is
done, fails or crashes, and only in the first case is there a next one. -/
theorem course_of_prepareAt {options : Options} {path : String} {w' : World}
    {ending : Ending Failure (Option (Submitter Uplink × MatchRule))}
    (haccepted : CommandLine.parse arguments = .ok options)
    (hlocated : settingsPath? s options = some path)
    (hprepare : (prepareAt options path).Ends w ending w') :
    Course s arguments w (conclusion s ending w').1 (conclusion s ending w').2 := by
  rcases Task.Ends.of_bind hprepare with
    ⟨settings, w₁, hload, hrest⟩ | ⟨e, hfailed, rfl⟩ | ⟨hcrashed, rfl⟩
  · have hloaded : Loaded s arguments w options path settings w₁ :=
      ⟨haccepted, hlocated, hload⟩
    by_cases hasked : options.authLastfm = true
    · rw [if_pos hasked] at hrest
      rcases Task.Ends.of_bind hrest with
        ⟨_, w₂, hlogin, hnone⟩ | ⟨e, hfailed, rfl⟩ | ⟨hcrashed, rfl⟩
      · obtain ⟨rfl, rfl⟩ := hnone
        exact .loggedIn ⟨hloaded, hasked, hlogin⟩
      · exact .notLoggedIn hloaded hasked (.failed hfailed)
      · exact .notLoggedIn hloaded hasked (.crashed hcrashed)
    · rw [if_neg hasked] at hrest
      have hunasked : options.authLastfm = false := by simpa using hasked
      rcases Task.Ends.of_bind hrest with
        ⟨submitter, w₂, hbuild, hrest⟩ | ⟨e, hfailed, rfl⟩ | ⟨hcrashed, rfl⟩
      · have hbuilt : Built s arguments w settings submitter w₂ :=
          ⟨hloaded, hunasked, hbuild⟩
        rcases Task.Ends.of_bind hrest with
          ⟨rule, w₃, hsubscribe, hsome⟩ | ⟨e, hfailed, rfl⟩ | ⟨hcrashed, rfl⟩
        · obtain ⟨rfl, rfl⟩ := hsome
          exact .relayed ⟨hbuilt, hsubscribe⟩
        · exact .unsubscribed hbuilt (.failed hfailed)
        · exact .unsubscribed hbuilt (.crashed hcrashed)
      · exact .unbuilt hloaded hunasked (.failed hfailed)
      · exact .unbuilt hloaded hunasked (.crashed hcrashed)
  · exact .unloaded haccepted hlocated (.failed hfailed)
  · exact .unloaded haccepted hlocated (.crashed hcrashed)

theorem course_of_prepare {options : Options} {w' : World}
    {ending : Ending Failure (Option (Submitter Uplink × MatchRule))}
    (haccepted : CommandLine.parse arguments = .ok options)
    (hprepare : (prepare s options).Ends w ending w') :
    Course s arguments w (conclusion s ending w').1 (conclusion s ending w').2 := by
  rw [prepare, locate] at hprepare
  cases hlocated : settingsPath? s options with
  | none =>
      rw [hlocated] at hprepare
      obtain ⟨rfl, rfl⟩ := hprepare
      exact .unlocated haccepted hlocated
  | some path =>
      rw [hlocated] at hprepare
      exact course_of_prepareAt haccepted hlocated hprepare

theorem run_course (s : Surroundings) (arguments : List String) (w : World) :
    Course s arguments w (run s arguments w).exit (run s arguments w).world := by
  cases hparse : CommandLine.parse arguments with
  | error refusal =>
      rw [run_refused hparse]
      exact .refused hparse
  | ok options =>
      have hprepare : (prepare s options).Ends w _ _ := ⟨rfl, rfl⟩
      have hcourse := course_of_prepare hparse hprepare
      rw [← run_conclusion hparse hprepare] at hcourse
      exact hcourse

/-! ## The courses with exit code zero -/

/-- A run that logged in leaves the world after the login. -/
theorem LoggedIn.run_eq {settings : Settings} {w₂ : World}
    (h : LoggedIn s arguments w settings w₂) :
    ((run s arguments w).exit, (run s arguments w).world) = (exitSuccess, w₂) := by
  cases h with
  | @intro options _ _ w₁ _ loaded asked login =>
      have hprepare : (prepare s options).Ends w (.done none) w₂ := by
        refine loaded.locate.bind (loaded.load.bind ?_)
        rw [if_pos asked]
        exact login.bind (.pure none w₂)
      exact run_conclusion loaded.accepted hprepare

/-- A run that was subscribed relays until it is stopped. -/
theorem Subscribed.run_eq {submitter : Submitter Uplink} {rule : MatchRule}
    {w₃ : World} (h : Subscribed s arguments w submitter rule w₃) :
    ((run s arguments w).exit, (run s arguments w).world) =
      (relayExit s.stop, relayed s submitter rule w₃) := by
  obtain ⟨built, subscribe⟩ := h
  cases built with
  | @intro options _ _ _ w₁ _ loaded unasked build =>
      have hprepare : (prepare s options).Ends w
          (.done (some (submitter, rule))) w₃ := by
        refine loaded.locate.bind (loaded.load.bind ?_)
        rw [if_neg (by simp [unasked])]
        exact build.bind (subscribe.bind (.pure (some (submitter, rule)) w₃))
      exact run_conclusion loaded.accepted hprepare

theorem Stops.exit_ne {α : Type} {stage : Task Failure World α} {exit : Nat}
    {w' : World} (h : Stops stage w exit w') : exit ≠ exitSuccess := by
  cases h <;> decide

/-- A run succeeds exactly if it printed the help or the version, logged in, or
relayed until it was told to stop. -/
theorem run_exit_eq_success_iff (s : Surroundings) (arguments : List String)
    (w : World) :
    (run s arguments w).exit = exitSuccess ↔
      CommandLine.parse arguments = .error .help ∨
      CommandLine.parse arguments = .error .version ∨
      (∃ settings w₂, LoggedIn s arguments w settings w₂) ∨
      (∃ submitter rule w₃, Subscribed s arguments w submitter rule w₃) ∧
        s.stop = .cancelled := by
  constructor
  · intro hexit
    have hcourse := run_course s arguments w
    rw [hexit] at hcourse
    generalize (run s arguments w).world = w' at hcourse
    generalize hcode : exitSuccess = exit at hcourse
    cases hcourse with
    | @refused refusal unaccepted =>
        cases refusal with
        | help => exact .inl unaccepted
        | version => exact .inr (.inl unaccepted)
        | usage e => cases hcode
    | unlocated => cases hcode
    | unloaded _ _ stops => exact absurd hcode.symm stops.exit_ne
    | loggedIn loggedIn => exact .inr (.inr (.inl ⟨_, _, loggedIn⟩))
    | notLoggedIn loaded asked stops => exact absurd hcode.symm stops.exit_ne
    | unbuilt loaded unasked stops => exact absurd hcode.symm stops.exit_ne
    | unsubscribed built stops => exact absurd hcode.symm stops.exit_ne
    | relayed subscribed =>
        refine .inr (.inr (.inr ⟨⟨_, _, _, subscribed⟩, ?_⟩))
        cases hstop : s.stop with
        | closed =>
            rw [hstop] at hcode
            cases hcode
        | cancelled => rfl
  · rintro (hhelp | hversion | ⟨settings, w₂, hlogin⟩ |
      ⟨⟨submitter, rule, w₃, hsubscribed⟩, hstop⟩)
    · rw [run_refused hhelp]
      rfl
    · rw [run_refused hversion]
      rfl
    · exact congrArg Prod.fst hlogin.run_eq
    · have hexit := congrArg Prod.fst hsubscribed.run_eq
      rw [hstop] at hexit
      exact hexit

end ScrobbleRelay.Program
