import ScrobbleRelay.Proofs.Relay.Journal

/-!
# The bridge between events and a submitter

Events are given to the bridge one after the other, each with its time.  The
end of a track is one attempt, with a scrobble of that event and that time
alone, and it ends as the submitter says.  Every other event leaves the world
as it is, so what comes after it cannot tell whether it was there.

Both are laws of one event.  Over a whole run the first one says what was
attempted and accepted before an event: it is what a script makes of the ends
of tracks before it.  The second one says that two runs whose events differ by
others than ends of tracks do the same with each end of a track.
-/

namespace ScrobbleRelay.Relay

open Playback (Event EventCode)
open Service (Ledger Submitter Verdict verdictAt)
open Time (Instant)

variable {σ : Type}

/-! ## Runs of the bridge -/

/-- One event in the hands of the bridge: the event with its time, the world
before it, and what was done with it. -/
structure Handling (σ : Type) where
  event : Event
  now : Instant
  before : σ
  run : Run Failure σ (Option Scrobble)

namespace Handling

def after (h : Handling σ) : σ := h.run.world

def ending (h : Handling σ) : Ending Failure (Option Scrobble) := h.run.ending

end Handling

/-- Events given to the bridge, from a world on.  Each begins in the world that
the one before it left, however that one ended. -/
def handleEach (submitter : Submitter σ) :
    List (Event × Instant) → σ → List (Handling σ)
  | [], _ => []
  | (event, now) :: rest, world =>
    let run := (handle submitter event now).run world
    ⟨event, now, world, run⟩ :: handleEach submitter rest run.world

/-- Of the events that were handled, the ends of tracks. -/
def tracks (handled : List (Handling σ)) : List (Handling σ) :=
  handled.filter fun h => h.event.code = .autoNext

theorem handleEach_map_event (submitter : Submitter σ)
    (given : List (Event × Instant)) (world : σ) :
    (handleEach submitter given world).map (fun h => (h.event, h.now)) =
      given := by
  induction given generalizing world with
  | nil => rfl
  | cons first rest ih => simp [handleEach, ih]

theorem run_of_mem_handleEach {submitter : Submitter σ}
    {given : List (Event × Instant)} {world : σ} {h : Handling σ}
    (hmem : h ∈ handleEach submitter given world) :
    h.run = (handle submitter h.event h.now).run h.before := by
  induction given generalizing world with
  | nil => simp [handleEach] at hmem
  | cons first rest ih =>
      rcases List.mem_cons.mp hmem with rfl | hrest
      · rfl
      · exact ih hrest

/-! ## Events that are passed over -/

theorem handle_world_of_ne (submitter : Submitter σ) {event : Event}
    (hcode : event.code ≠ .autoNext) (now : Instant) (world : σ) :
    ((handle submitter event now).run world).world = world := by
  rw [run_handle_of_none submitter (Scrobble.ofEvent?_of_ne hcode now)]

/-- Two sequences of events that differ by others than ends of tracks, put in
or left out anywhere. -/
inductive SameTracks :
    List (Event × Instant) → List (Event × Instant) → Prop
  | nil : SameTracks [] []
  | keep {given others : List (Event × Instant)} (event : Event)
      (now : Instant) (rest : SameTracks given others) :
      SameTracks ((event, now) :: given) ((event, now) :: others)
  | putIn {given others : List (Event × Instant)} {event : Event}
      (passed : event.code ≠ .autoNext) (now : Instant)
      (rest : SameTracks given others) :
      SameTracks given ((event, now) :: others)
  | leaveOut {given others : List (Event × Instant)} {event : Event}
      (passed : event.code ≠ .autoNext) (now : Instant)
      (rest : SameTracks given others) :
      SameTracks ((event, now) :: given) others

/-- An event that is passed over has no influence on the tracks after it. -/
theorem tracks_handleEach_cons_of_ne (submitter : Submitter σ) {event : Event}
    (hcode : event.code ≠ .autoNext) (now : Instant)
    (rest : List (Event × Instant)) (world : σ) :
    tracks (handleEach submitter ((event, now) :: rest) world) =
      tracks (handleEach submitter rest world) := by
  simp [handleEach, tracks, hcode, handle_world_of_ne]

/-- With the same tracks, the same is done with each of them, in whatever
worlds the submissions leave behind. -/
theorem SameTracks.tracks_eq {given others : List (Event × Instant)}
    (h : SameTracks given others) (submitter : Submitter σ) (world : σ) :
    tracks (handleEach submitter others world) =
      tracks (handleEach submitter given world) := by
  induction h generalizing world with
  | nil => rfl
  | keep event now rest ih =>
      have hrest := ih ((handle submitter event now).run world).world
      simp only [tracks] at hrest
      simp only [handleEach, tracks, List.filter_cons, hrest]
  | putIn passed now rest ih =>
      rw [tracks_handleEach_cons_of_ne submitter passed, ih]
  | leaveOut passed now rest ih =>
      rw [tracks_handleEach_cons_of_ne submitter passed, ih]

/-! ## Attempts under a script -/

/-- What is told of a track that was heard to its end. -/
def scrobbleOf (event : Event) (now : Instant) : Scrobble where
  artist := event.artist
  title := event.track
  length := event.durationSecs
  playedAt := now
  album := event.album
  mbid := ""

/-- The scrobbles of the ends of tracks, in their order. -/
def scrobblesOf (given : List (Event × Instant)) : List Scrobble :=
  (given.filter fun g => g.1.code = .autoNext).map fun g =>
    scrobbleOf g.1 g.2

/-- The ledger after attempts with some scrobbles: accepted are those for whose
number the script says so. -/
def ledgerOf (script : List Verdict) (scrobbles : List Scrobble) : Ledger where
  attempts := scrobbles.length
  accepted :=
    (scrobbles.zipIdx.filter fun s => verdictAt script s.2 = .accept).map
      Prod.fst

/-- How the handling of an event ends, where an attempt would meet the given
verdict. -/
inductive EndsBy (verdict : Verdict) (event : Event) (now : Instant) :
    Ending Failure (Option Scrobble) → Prop
  | accepted (track : event.code = .autoNext) (said : verdict = .accept) :
      EndsBy verdict event now (.done (some (scrobbleOf event now)))
  | refused (track : event.code = .autoNext) {failure : Failure}
      (said : verdict = .refuse failure) :
      EndsBy verdict event now (.failed failure)
  | crashed (track : event.code = .autoNext) (said : verdict = .crash) :
      EndsBy verdict event now .crashed
  | passed (other : event.code ≠ .autoNext) :
      EndsBy verdict event now (.done none)

theorem ledgerOf_append_singleton (script : List Verdict)
    (scrobbles : List Scrobble) (scrobble : Scrobble) :
    ledgerOf script (scrobbles ++ [scrobble]) =
      (ledgerOf script scrobbles).record
        (verdictAt script scrobbles.length) scrobble := by
  by_cases hverdict : verdictAt script scrobbles.length = .accept
  · simp [ledgerOf, Ledger.record, List.zipIdx_append, hverdict]
  · simp [ledgerOf, Ledger.record, List.zipIdx_append, hverdict]

section Script

variable (name : String) (script : List Verdict)

/-- The world of a scripted submitter that was asked for some scrobbles. -/
def asked (scrobbles : List Scrobble) : List Scrobble × Ledger :=
  (scrobbles, ledgerOf script scrobbles)

theorem submit_asked (scrobbles : List Scrobble) (scrobble : Scrobble) :
    ((Submitter.scripted name script).noting.submit scrobble).run
        (asked script scrobbles) =
      ⟨(verdictAt script scrobbles.length).ending,
        asked script (scrobbles ++ [scrobble]), []⟩ := by
  rw [asked, asked, ledgerOf_append_singleton]
  rfl

/-- The end of a track is attempted once and ends as the script says for the
number of the attempt; another event is not attempted. -/
theorem handle_asked (past : List (Event × Instant)) (event : Event)
    (now : Instant) :
    let run := (handle (Submitter.scripted name script).noting event now).run
      (asked script (scrobblesOf past))
    run.world = asked script (scrobblesOf (past ++ [(event, now)])) ∧
    EndsBy (verdictAt script (scrobblesOf past).length) event now
      run.ending := by
  by_cases hcode : event.code = .autoNext
  · have hmade : Scrobble.ofEvent? event now = some (scrobbleOf event now) :=
      if_pos hcode
    have hscrobbles :
        scrobblesOf (past ++ [(event, now)]) =
          scrobblesOf past ++ [scrobbleOf event now] := by
      simp [scrobblesOf, hcode]
    rw [run_handle_of_some _ hmade, submit_asked, hscrobbles]
    refine ⟨rfl, ?_⟩
    cases hverdict : verdictAt script (scrobblesOf past).length with
    | accept => exact .accepted hcode rfl
    | refuse failure => exact .refused hcode rfl
    | crash => exact .crashed hcode rfl
  · have hpassed := Scrobble.ofEvent?_of_ne hcode now
    have hscrobbles :
        scrobblesOf (past ++ [(event, now)]) = scrobblesOf past := by
      simp [scrobblesOf, hcode]
    rw [run_handle_of_none _ hpassed, hscrobbles]
    exact ⟨rfl, .passed hcode⟩

/-- Before each event, what was asked for is the scrobbles of the tracks that
were heard up to then. -/
theorem before_handleEach (past given : List (Event × Instant)) {i : Nat}
    {h : Handling (List Scrobble × Ledger)}
    (hi : (handleEach (Submitter.scripted name script).noting given
      (asked script (scrobblesOf past)))[i]? = some h) :
    h.before = asked script (scrobblesOf (past ++ given.take i)) := by
  induction given generalizing past i with
  | nil => simp [handleEach] at hi
  | cons first rest ih =>
      obtain ⟨event, now⟩ := first
      cases i with
      | zero =>
          obtain rfl : _ = h := by simpa [handleEach] using hi
          simp
      | succ i =>
          obtain ⟨hworld, -⟩ := handle_asked name script past event now
          simp only [handleEach, hworld, List.getElem?_cons_succ] at hi
          simpa using ih (past ++ [(event, now)]) hi

end Script

/-! ## The bridge is transparent -/

/-- Every event is handled once.  Before and after it the submitter was asked
for the tracks heard up to then, each by one scrobble of the event and its
time, and the event ends as the script says for the number of its attempt, or
is passed over.  Events that are no ends of tracks, put in or left out
anywhere, change nothing about the tracks: neither how they end and with which
scrobble, nor which attempts and how many accepted ones they come after. -/
theorem bridge_is_transparent (name : String) (script : List Verdict)
    (given : List (Event × Instant)) :
    let submitter := (Submitter.scripted name script).noting
    let handled := handleEach submitter given ([], .blank)
    handled.map (fun h => (h.event, h.now)) = given ∧
    (∀ i h, handled[i]? = some h →
      h.before = asked script (scrobblesOf (given.take i)) ∧
      h.after = asked script (scrobblesOf (given.take (i + 1))) ∧
      EndsBy (verdictAt script (scrobblesOf (given.take i)).length)
        h.event h.now h.ending) ∧
    ∀ others, SameTracks given others →
      tracks (handleEach submitter others ([], .blank)) = tracks handled := by
  intro submitter handled
  have hevents := handleEach_map_event submitter given ([], .blank)
  refine ⟨hevents, ?_, ?_⟩
  · intro i h hi
    have hbefore : h.before = asked script (scrobblesOf (given.take i)) := by
      simpa using before_handleEach name script [] given hi
    have hevent : given[i]? = some (h.event, h.now) := by
      rw [← hevents, List.getElem?_map, hi, Option.map_some]
    have hrun := run_of_mem_handleEach (List.mem_of_getElem? hi)
    obtain ⟨hworld, hends⟩ :=
      handle_asked name script (given.take i) h.event h.now
    rw [← hbefore, ← hrun] at hworld hends
    refine ⟨hbefore, ?_, hends⟩
    rw [List.take_add_one, hevent]
    exact hworld
  · intro others hsame
    exact hsame.tracks_eq submitter ([], .blank)

/-! ## The same tracks with and without other events -/

def playerEvent (code : EventCode) (title : String) : Event where
  code
  artist := "Artist"
  track := title
  album := "Album"
  trackNumber := 3
  durationSecs := 245
  position := 10

/-- A track that was heard twice, told by the same event at the same time, and
another one. -/
def plainHearing : List (Event × Instant) :=
  [(playerEvent .autoNext "First", ⟨0, 0⟩),
    (playerEvent .autoNext "First", ⟨0, 0⟩),
    (playerEvent .autoNext "Second", ⟨245, 0⟩)]

/-- The same tracks with events before, between and after them. -/
def restlessHearing : List (Event × Instant) :=
  [(playerEvent .seek "First", ⟨0, 0⟩),
    (playerEvent .autoNext "First", ⟨0, 0⟩),
    (playerEvent .stop "First", ⟨0, 0⟩),
    (playerEvent .autoNext "First", ⟨0, 0⟩),
    (playerEvent .prev "Second", ⟨100, 0⟩),
    (playerEvent .autoNext "Second", ⟨245, 0⟩),
    (playerEvent .next "Third", ⟨245, 0⟩)]

/-- The first attempt fails, the second one crashes and the third one is
accepted, whatever else the player tells. -/
theorem restlessHearing_same_attempts :
    let script := [.refuse ⟨"busy", ["no answer"]⟩, .crash]
    let submitter := (Submitter.scripted "recording" script).noting
    let handled := handleEach submitter plainHearing ([], .blank)
    SameTracks plainHearing restlessHearing ∧
    tracks (handleEach submitter restlessHearing ([], .blank)) = handled ∧
    ∃ first second third, handled = [first, second, third] ∧
      first.ending = .failed ⟨"busy", ["no answer"]⟩ ∧
      second.ending = .crashed ∧
      third.ending =
        .done (some ⟨"Artist", "Second", 245, ⟨245, 0⟩, "Album", ""⟩) ∧
      third.before.1.map (·.title) = ["First", "First"] ∧
      third.after.2 =
        ⟨3, [⟨"Artist", "Second", 245, ⟨245, 0⟩, "Album", ""⟩]⟩ := by
  intro script submitter handled
  have hsame : SameTracks plainHearing restlessHearing :=
    .putIn (by decide) _ <| .keep _ _ <| .putIn (by decide) _ <|
      .keep _ _ <| .putIn (by decide) _ <| .keep _ _ <|
        .putIn (by decide) _ .nil
  obtain ⟨-, heach, htracks⟩ :=
    bridge_is_transparent "recording" script plainHearing
  obtain ⟨hbefore, hafter, -⟩ := heach 2 _ rfl
  refine ⟨hsame, htracks _ hsame, _, _, _, rfl, rfl, rfl, rfl, ?_, ?_⟩
  · rw [hbefore]
    rfl
  · rw [hafter]
    rfl

end ScrobbleRelay.Relay
