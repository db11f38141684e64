import ScrobbleRelay.Proofs.Bus.RuleTexts
import ScrobbleRelay.Proofs.Bus.Rules
import ScrobbleRelay.Proofs.Relay.Journal
import ScrobbleRelay.Relay.Run

/-!
# What a subscription relays

A program that subscribed with the rule of its settings relays the signals
that the settings ask for, and does with them what a dispatch of just these
signals does.  Settings with fewer filters ask for more signals, so nothing
that is submitted under the narrower ones is missing or moved under the wider
ones.
-/

namespace ScrobbleRelay

/-- A scrobble without its time. -/
def Scrobble.withoutTime (s : Scrobble) : Scrobble := { s with playedAt := ⟨0, 0⟩ }

namespace Settings.BusSettings

open Bus (Signal)

instance (s : BusSettings) (signal : Signal) : Decidable (s.Wants signal) :=
  decidable_of_iff _ s.rule_lets_iff

/-- The same subscription with some of its filters unset. -/
structure Widens (wide narrow : BusSettings) : Prop where
  signalName : wide.signalName = narrow.signalName
  interface : wide.interface = none ∨ wide.interface = narrow.interface
  path : wide.path = none ∨ wide.path = narrow.path
  sender : wide.sender = none ∨ wide.sender = narrow.sender

theorem forall_mem_of_unset {wide narrow : Option String} {P : String → Prop}
    (h : wide = none ∨ wide = narrow) (hall : ∀ name ∈ narrow, P name) :
    ∀ name ∈ wide, P name := by
  rcases h with rfl | rfl
  · simp
  · exact hall

variable {wide narrow : BusSettings}

theorem Widens.named (h : wide.Widens narrow) (hnamed : narrow.Named) :
    wide.Named where
  member := by
    rw [h.signalName]
    exact hnamed.member
  interface := forall_mem_of_unset h.interface hnamed.interface
  path := forall_mem_of_unset h.path hnamed.path
  sender := forall_mem_of_unset h.sender hnamed.sender

/-- A wider subscription asks for all that a narrower one asks for. -/
theorem Widens.wants (h : wide.Widens narrow) {signal : Signal}
    (hwants : narrow.Wants signal) : wide.Wants signal where
  member := by
    rw [h.signalName]
    exact hwants.member
  interface := forall_mem_of_unset h.interface hwants.interface
  path := forall_mem_of_unset h.path hwants.path
  sender := forall_mem_of_unset h.sender hwants.sender

/-- The signals that settings ask for, in their order. -/
def wanted (s : BusSettings) (signals : List Signal) : List Signal :=
  signals.filter fun signal => s.Wants signal

theorem filter_lets_rule (s : BusSettings) (signals : List Signal) :
    signals.filter s.rule.lets = s.wanted signals := by
  apply List.filter_congr
  intro signal _
  rw [Bool.eq_iff_iff, decide_eq_true_iff]
  exact s.rule_lets_iff

theorem Widens.wanted_sublist (h : wide.Widens narrow) (signals : List Signal) :
    (narrow.wanted signals).Sublist (wide.wanted signals) := by
  have hnarrow : (wide.wanted signals).filter (fun signal => narrow.Wants signal) =
      narrow.wanted signals := by
    unfold wanted
    rw [List.filter_filter]
    apply List.filter_congr
    intro signal _
    rw [Bool.eq_iff_iff, Bool.and_eq_true, decide_eq_true_iff,
      decide_eq_true_iff]
    constructor
    · intro hboth
      exact hboth.1
    · intro hwants
      exact ⟨hwants, h.wants hwants⟩
  rw [← hnarrow]
  exact List.filter_sublist

end Settings.BusSettings

namespace Relay

open Bus (MatchRule Signal)
open Playback (Event)
open Service (Ledger Submitter Verdict verdictAt)
open Settings (BusSettings)
open Time (Instant)

variable {σ : Type}

/-! ## Connecting -/

/-- A bus that refuses nothing is given the rule of the settings. -/
theorem connect_ends {settings : BusSettings} (hnamed : settings.Named)
    (rules : List String) :
    (Bus.connect settings).Ends (some ⟨none, none, rules⟩)
      (.done settings.rule)
      (some ⟨none, none, rules ++ [settings.rule.text]⟩) := by
  have hgreet : Bus.greet.Ends (some ⟨none, none, rules⟩) (.done ())
      (some ⟨none, none, rules⟩) := ⟨rfl, rfl⟩
  have hrule : (Task.ofExcept ((MatchRule.ofSettings settings).mapError
      Bus.NameError.failure) : Task Failure (Option Bus.Broker) MatchRule).Ends
      (some ⟨none, none, rules⟩) (.done settings.rule)
      (some ⟨none, none, rules⟩) := by
    rw [Settings.ofSettings_eq_ok_iff.mpr ⟨hnamed, rfl⟩]
    exact ⟨rfl, rfl⟩
  have hsubscribe :
      (Bus.subscribe settings.signalName settings.rule).Ends
        (some ⟨none, none, rules⟩) (.done ())
        (some ⟨none, none, rules ++ [settings.rule.text]⟩) := ⟨rfl, rfl⟩
  exact hgreet.bind (hrule.bind (hsubscribe.bind (.pure _ _)))

/-! ## Relaying -/

theorem queuedEvents_delivered (settings : BusSettings) (signals : List Signal)
    (stop : Stop) :
    queuedEvents (delivered settings.rule signals stop) =
      queuedEvents ((settings.wanted signals).map Item.signal) := by
  have hlost : queuedEvents [lostBus] = [] := rfl
  unfold delivered queuedEvents at *
  rw [List.filterMap_append, settings.filter_lets_rule]
  rcases stop with _ | _
  · rw [hlost, List.append_nil]
  · simp

/-! ## Submissions to a service that accepts everything -/

theorem verdictAt_eq_accept {script : List Verdict}
    (h : ∀ verdict ∈ script, verdict = .accept) (n : Nat) :
    verdictAt script n = .accept := by
  unfold verdictAt
  rcases hverdict : script[n]? with _ | verdict
  · rfl
  · exact h verdict (List.mem_of_getElem? hverdict)

theorem ofEvent?_map_withoutTime (event : Event) (now : Instant) :
    (Scrobble.ofEvent? event now).map Scrobble.withoutTime =
      Scrobble.ofEvent? event ⟨0, 0⟩ := by
  unfold Scrobble.ofEvent?
  by_cases hcode : event.code = .autoNext
  · simp [hcode, Scrobble.withoutTime]
  · simp [hcode]

theorem workAll_accepted (name : String) {script : List Verdict}
    (h : ∀ verdict ∈ script, verdict = .accept) (clock : Nat → Instant)
    (n : Nat) (events : List Event) (ledger : Ledger) :
    (workAll (Submitter.scripted name script) clock n events
        ledger).1.accepted.map Scrobble.withoutTime =
      ledger.accepted.map Scrobble.withoutTime ++
        events.filterMap fun event => Scrobble.ofEvent? event ⟨0, 0⟩ := by
  induction events generalizing n ledger with
  | nil => simp [workAll]
  | cons event rest ih =>
      have hone :
          (work (Submitter.scripted name script) event (clock n)
              ledger).1.accepted.map Scrobble.withoutTime =
            ledger.accepted.map Scrobble.withoutTime ++
              (Scrobble.ofEvent? event ⟨0, 0⟩).toList := by
        rw [work_scripted, verdictAt_eq_accept h,
          ← ofEvent?_map_withoutTime event (clock n)]
        rcases Scrobble.ofEvent? event (clock n) with _ | scrobble
        · simp
        · simp [Ledger.record]
      simp only [workAll, ih, hone, List.append_assoc]
      rcases hevent : Scrobble.ofEvent? event ⟨0, 0⟩ with _ | scrobble
      · simp [hevent]
      · simp [hevent]

/-- A program that connects with accepted settings gives the bus one rule, whose
text tells the settings, and then does what a dispatch of the wanted signals
does.  Where filters are unset and everything is accepted, all that was
submitted before is submitted still, in the same order; times are those of each
run. -/
theorem run_relays_what_is_wanted (settings : BusSettings)
    (hvalid : settings.validate = .ok ()) :
    ∃ rule, MatchRule.ofSettings settings = .ok rule ∧
      settings.ToldBy rule.text ∧
      (∀ rules, (Bus.connect settings).Ends (some ⟨none, none, rules⟩)
        (.done rule) (some ⟨none, none, rules ++ [rule.text]⟩)) ∧
      (∀ {σ : Type} (submitter : Submitter σ) clock signals stop world,
        let report := run submitter clock rule signals stop world
        let expected := dispatch submitter clock
          ((signals.filter fun signal => settings.Wants signal).map Item.signal)
          stop world
        report.outcome = expected.outcome ∧ report.worker = expected.worker ∧
          report.world = expected.world) ∧
      ∀ wide : BusSettings, wide.Widens settings → wide.validate = .ok () ∧
        ∃ wideRule, MatchRule.ofSettings wide = .ok wideRule ∧
          ∀ name script clock wideClock signals stop,
            (∀ verdict ∈ script, verdict = Verdict.accept) →
            let submitter := Submitter.scripted name script
            List.Sublist
              ((run submitter clock rule signals stop
                .blank).world.accepted.map Scrobble.withoutTime)
              ((run submitter wideClock wideRule signals stop
                .blank).world.accepted.map Scrobble.withoutTime) := by
  have hnamed := Settings.BusSettings.validate_eq_ok_iff.mp hvalid
  refine ⟨settings.rule, Settings.ofSettings_eq_ok_iff.mpr ⟨hnamed, rfl⟩,
    (Settings.BusSettings.named_iff.mp hnamed).toldBy, connect_ends hnamed,
    ?_, ?_⟩
  · intro σ submitter clock signals stop world
    have hevents := queuedEvents_delivered settings signals stop
    refine ⟨rfl, ?_, ?_⟩
    · simp only [run, dispatch, hevents, Settings.BusSettings.wanted]
    · simp only [run, dispatch, hevents, Settings.BusSettings.wanted]
  · intro wide hwide
    have hwideNamed := hwide.named hnamed
    refine ⟨Settings.BusSettings.validate_eq_ok_iff.mpr hwideNamed, wide.rule,
      Settings.ofSettings_eq_ok_iff.mpr ⟨hwideNamed, rfl⟩, ?_⟩
    intro name script clock wideClock signals stop haccept
    simp only [run, dispatch, queuedEvents_delivered,
      workAll_accepted name haccept]
    apply List.Sublist.append_left
    apply List.Sublist.filterMap
    apply List.Sublist.filterMap
    exact (hwide.wanted_sublist signals).map Item.signal

/-! ## Two players and a subscription to one of them -/

/-- A subscription to the signals of one connection. -/
def onePlayer : BusSettings where
  signalName := "NowPlaying"
  interface := some "media.player.cmus"
  path := none
  sender := some ":1.7"

/-- A track that was heard to its end on a player. -/
def trackOf (sender title : String) : Signal where
  body := [.int32 7, .text "Artist", .text title, .text "Album", .int32 1,
    .int32 245, .int32 10]
  sender := some sender
  path := "/media/player/cmus"
  interface := "media.player.cmus"
  member := "NowPlaying"

/-- The track of the other player is submitted only where the filters are
unset. -/
theorem onePlayer_relays_one_track :
    onePlayer.validate = .ok () ∧
    Settings.defaultBus.Widens onePlayer ∧
    ∃ rule wideRule,
      MatchRule.ofSettings onePlayer = .ok rule ∧
      MatchRule.read? rule.text = some onePlayer ∧
      MatchRule.ofSettings Settings.defaultBus = .ok wideRule ∧
      let submitter := Submitter.scripted "recording" [.accept]
      let signals := [trackOf ":1.8" "First", trackOf ":1.7" "Second"]
      let clock : Nat → Instant := fun _ => ⟨0, 0⟩
      (run submitter clock rule signals .cancelled
        .blank).world.accepted.map (·.title) = ["Second"] ∧
      List.Sublist
        ((run submitter clock rule signals .cancelled
          .blank).world.accepted.map Scrobble.withoutTime)
        ((run submitter clock wideRule signals .cancelled
          .blank).world.accepted.map Scrobble.withoutTime) := by
  have hvalid : onePlayer.validate = .ok () := by rfl
  have hwide : Settings.defaultBus.Widens onePlayer := by
    constructor <;> decide
  obtain ⟨rule, hrule, htold, -, hrun, hwider⟩ :=
    run_relays_what_is_wanted onePlayer hvalid
  obtain ⟨-, wideRule, hwideRule, hsublist⟩ := hwider _ hwide
  refine ⟨hvalid, hwide, rule, wideRule, hrule, htold.read, hwideRule, ?_, ?_⟩
  · rw [(hrun _ _ _ _ _).2.2]
    decide +kernel
  · exact hsublist _ _ _ _ _ _ (by decide)

end Relay

end ScrobbleRelay
