import Mathlib.Data.List.Forall2
import ScrobbleRelay.Proofs.Relay.Delivery

/-!
# The journal of a dispatch

Every item that is read is told by one line of the reader, and every event
among the items by one block of lines of the worker, both in the order of the
stream.  What a block says depends on the event and on the verdict on its
attempt; attempts are counted over the events at the end of a track alone.

Since lines of different kinds begin with different words, the items, the
attempts and the failures of a dispatch can be counted in its journal.
-/

namespace ScrobbleRelay.Relay

open Log (Level Line Origin)
open Playback (Event EventCode)
open Service (Ledger Submitter Verdict verdictAt)
open Time (Instant)

/-! ## What is told -/

/-- The line that tells of an item. -/
inductive Item.ToldBy : Item → Line → Prop
  | received {s : Bus.Signal} {event : Event}
      (read : Event.ofBody s.body = .ok event) :
      ToldBy (.signal s) ⟨.debug, .bus,
        s!"Received {event.code.label} for {event.artist} - {event.track} " ++
          s!"(track {event.trackNumber.toInt}, at {event.position.toInt}s)"⟩
  | ignored {s : Bus.Signal} {e : Playback.PayloadError}
      (refused : Event.ofBody s.body = .error e) :
      ToldBy (.signal s) ⟨.warn, .bus,
        s!"Ignoring signal from {s.senderText}: {e.message}"⟩
  | fault {text : String} :
      ToldBy (.fault text) ⟨.warn, .bus,
        s!"Error reading from the session bus: {text}"⟩

/-- The lines about the trouble with an attempt: a failure is told with the
whole chain of its causes. -/
def troubleLines : Verdict → List Line
  | .accept => []
  | .refuse failure =>
      [⟨.error, .bus, "Scrobble submission failed: " ++
        ": ".intercalate (failure.message :: failure.causes)⟩]
  | .crash => [⟨.error, .bus, "Submission task failed: " ++ crashText⟩]

/-- The lines of the worker about an event, where an attempt would meet the
given verdict. -/
def block (name : String) (verdict : Verdict) (event : Event) : List Line :=
  if event.code = .autoNext then
    ⟨.info, .bridge,
      s!"Scrobbling: {event.artist} - {event.track} " ++
        s!"({event.durationSecs.toInt}s) via {name}"⟩ ::
      troubleLines verdict
  else
    [⟨.debug, .bridge,
      s!"Ignoring {event.code.label} event for {event.artist} - {event.track}"⟩]

/-- The number of attempts made for some events. -/
def attemptsOf (events : List Event) : Nat :=
  events.countP fun event => event.code = .autoNext

/-- The blocks of the worker about some events; the verdict on an attempt is
the one of the script for its number. -/
def blocks (name : String) (script : List Verdict) (events : List Event) :
    List (List Line) :=
  events.mapIdx fun i event =>
    block name (verdictAt script (attemptsOf (events.take i))) event

/-- Whether a line has a level and an origin and begins with some words. -/
def begins (level : Level) (origin : Origin) (words : String) (line : Line) :
    Bool :=
  line.level == level && line.origin == origin &&
    words.toList.isPrefixOf line.text.toList

/-- A report that drops nothing silently. -/
structure Complete (name : String) (script : List Verdict) (stream : List Item)
    (stop : Stop) (report : Report Ledger) : Prop where
  /-- The reader has one line for each item, and a last one where the program
  was told to stop. -/
  reader : ∃ told, List.Forall₂ Item.ToldBy stream told ∧
    report.reader = told ++
      if stop = .cancelled then [⟨.info, .bus, "Shutting down"⟩] else []
  /-- The worker has one block for each event. -/
  worker : report.worker = (blocks name script (queuedEvents stream)).flatten
  /-- The items are those that the reader received, ignored or could not
  read. -/
  items : stream.length =
    report.reader.countP (begins .debug .bus "Received ") +
      report.reader.countP (begins .warn .bus "Ignoring signal from ") +
      report.reader.countP (begins .warn .bus "Error reading ")
  /-- The events are those that the reader received. -/
  events : (queuedEvents stream).length =
    report.reader.countP (begins .debug .bus "Received ")
  /-- The attempts are those that the worker announced. -/
  attempts : report.world.attempts =
    report.worker.countP (begins .info .bridge "Scrobbling: ")
  /-- What was attempted was accepted, or the worker told of an error. -/
  outcomes : report.world.attempts =
    report.world.accepted.length +
      report.worker.countP fun line => line.level = .error

/-! ## The lines of the reader -/

theorem Item.toldBy_line (item : Item) : item.ToldBy item.line := by
  rcases item with s | text
  · rcases hread : Event.ofBody s.body with e | event
    · simp only [Item.line, hread]
      exact .ignored hread
    · simp only [Item.line, hread]
      exact .received hread
  · exact .fault

theorem forall₂_toldBy (items : List Item) :
    List.Forall₂ Item.ToldBy items (items.map Item.line) := by
  rw [List.forall₂_map_right_iff, List.forall₂_same]
  intro item _
  exact item.toldBy_line

/-- The line of an item begins with the words for its kind alone. -/
theorem Item.ToldBy.counts {item : Item} {line : Line} (h : item.ToldBy line) :
    [item].length =
      [line].countP (begins .debug .bus "Received ") +
        [line].countP (begins .warn .bus "Ignoring signal from ") +
        [line].countP (begins .warn .bus "Error reading ") ∧
    item.event?.toList.length =
      [line].countP (begins .debug .bus "Received ") := by
  cases h with
  | received read => simp [begins, toString, Item.event?, read, Except.toOption]
  | ignored refused => simp [begins, toString, Item.event?, refused, Except.toOption]
  | fault => simp [begins, toString, Item.event?]

theorem counts_of_toldBy {items : List Item} {told : List Line}
    (h : List.Forall₂ Item.ToldBy items told) :
    items.length =
      told.countP (begins .debug .bus "Received ") +
        told.countP (begins .warn .bus "Ignoring signal from ") +
        told.countP (begins .warn .bus "Error reading ") ∧
    (queuedEvents items).length =
      told.countP (begins .debug .bus "Received ") := by
  induction h with
  | nil => exact ⟨rfl, rfl⟩
  | @cons item line items told hline _ ih =>
      have hevents :
          (queuedEvents (item :: items)).length =
            item.event?.toList.length + (queuedEvents items).length := by
        unfold queuedEvents
        rcases hevent : item.event? with _ | event
        · simp [hevent]
        · simp [hevent, Nat.add_comm]
      have hone := hline.counts
      simp only [List.countP_cons, List.countP_nil, List.length_cons,
        List.length_nil] at hone ⊢
      omega

/-! ## The lines of the worker -/

section Worker

variable (name : String) (script : List Verdict)

/-- One event in the hands of the worker has its block, and an entry in the
ledger if it is the end of a track. -/
theorem work_scripted (event : Event) (now : Instant) (ledger : Ledger) :
    work (Submitter.scripted name script) event now ledger =
      ((Scrobble.ofEvent? event now).elim ledger
          (ledger.record (verdictAt script ledger.attempts)),
        block name (verdictAt script ledger.attempts) event) := by
  by_cases hcode : event.code = .autoNext
  · have hrun (scrobble : Scrobble) :
        ((Submitter.scripted name script).submit scrobble).run ledger =
          ⟨(verdictAt script ledger.attempts).ending,
            ledger.record (verdictAt script ledger.attempts) scrobble, []⟩ := rfl
    have hmade : Scrobble.ofEvent? event now = some _ := if_pos hcode
    simp only [work, run_handle_of_some _ hmade, hmade, hrun, block, hcode,
      if_true, Option.elim_some, endingLines_map]
    rcases verdictAt script ledger.attempts with _ | failure | _
    · rfl
    · rfl
    · rfl
  · have hpassed := Scrobble.ofEvent?_of_ne hcode now
    simp [work, run_handle_of_none _ hpassed, hpassed, block, hcode,
      endingLines]

theorem attempts_work_scripted (event : Event) (now : Instant)
    (ledger : Ledger) :
    (work (Submitter.scripted name script) event now ledger).1.attempts =
      ledger.attempts + attemptsOf [event] := by
  rw [work_scripted]
  by_cases hcode : event.code = .autoNext
  · simp [Scrobble.ofEvent?, hcode, Ledger.record, attemptsOf]
  · simp [Scrobble.ofEvent?, hcode, attemptsOf]

/-- The lines of a whole run are the blocks of its events, with the verdicts
from the next attempt on. -/
theorem workAll_scripted_lines (clock : Nat → Instant) (n : Nat)
    (events : List Event) (ledger : Ledger) :
    (workAll (Submitter.scripted name script) clock n events ledger).2 =
      (events.mapIdx fun i event =>
        block name
          (verdictAt script (ledger.attempts + attemptsOf (events.take i)))
          event).flatten := by
  induction events generalizing n ledger with
  | nil => rfl
  | cons event rest ih =>
      have hnext (i : Nat) :
          ledger.attempts + attemptsOf ((event :: rest).take (i + 1)) =
            (work (Submitter.scripted name script) event (clock n)
              ledger).1.attempts + attemptsOf (rest.take i) := by
        rw [attempts_work_scripted, Nat.add_assoc]
        simp [attemptsOf, List.countP_cons, Nat.add_comm]
      simp only [workAll, ih, List.mapIdx_cons, hnext, List.flatten_cons]
      rw [work_scripted]
      simp [attemptsOf]

/-- What the worker adds to a ledger can be counted in its lines: the attempts
that are announced, and those of them that no error is told of. -/
structure Counted (before after : Ledger) (lines : List Line) : Prop where
  attempts : after.attempts =
    before.attempts + lines.countP (begins .info .bridge "Scrobbling: ")
  accepted : after.accepted.length +
      lines.countP (fun line => line.level = .error) =
    before.accepted.length +
      lines.countP (begins .info .bridge "Scrobbling: ")

theorem Counted.append {before between after : Ledger}
    {lines more : List Line} (h : Counted before between lines)
    (hmore : Counted between after more) :
    Counted before after (lines ++ more) := by
  have h₁ := h.attempts
  have h₂ := hmore.attempts
  have h₃ := h.accepted
  have h₄ := hmore.accepted
  constructor
  · rw [List.countP_append]
    omega
  · rw [List.countP_append, List.countP_append]
    omega

theorem work_counted (event : Event) (now : Instant) (ledger : Ledger) :
    Counted ledger
      (work (Submitter.scripted name script) event now ledger).1
      (work (Submitter.scripted name script) event now ledger).2 := by
  rw [work_scripted]
  by_cases hcode : event.code = .autoNext
  · rcases verdictAt script ledger.attempts with _ | failure | _
    all_goals
      constructor
      · simp [Scrobble.ofEvent?, hcode, block, troubleLines, begins, toString,
          Ledger.record]
      · simp [Scrobble.ofEvent?, hcode, block, troubleLines, begins, toString,
          Ledger.record]
  · constructor
    · simp [Scrobble.ofEvent?, hcode, block, begins]
    · simp [Scrobble.ofEvent?, hcode, block, begins]

theorem workAll_counted (clock : Nat → Instant) (n : Nat) (events : List Event)
    (ledger : Ledger) :
    Counted ledger
      (workAll (Submitter.scripted name script) clock n events ledger).1
      (workAll (Submitter.scripted name script) clock n events ledger).2 := by
  induction events generalizing n ledger with
  | nil => exact ⟨rfl, rfl⟩
  | cons event rest ih =>
      exact (work_counted name script event (clock n) ledger).append
        (ih (n + 1) _)

end Worker

/-! ## The whole journal -/

theorem dispatch_complete (name : String) (script : List Verdict)
    (clock : Nat → Instant) (items : List Item) (stop : Stop) :
    Complete name script items stop
      (dispatch (Submitter.scripted name script) clock items stop .blank) := by
  have htold := forall₂_toldBy items
  have hreader : readerLines items stop =
      items.map Item.line ++
        if stop = .cancelled then [⟨.info, .bus, "Shutting down"⟩] else [] := by
    cases stop <;> rfl
  have hlast (level : Level) (words : String) (hlevel : level ≠ .info) :
      (if stop = .cancelled then
        [(⟨.info, .bus, "Shutting down"⟩ : Line)] else []).countP
          (begins level .bus words) = 0 := by
    by_cases hstop : stop = .cancelled
    · simp [hstop, begins, hlevel.symm]
    · simp [hstop]
  obtain ⟨hitems, hevents⟩ := counts_of_toldBy htold
  have hworked :=
    workAll_counted name script clock 0 (queuedEvents items) .blank
  constructor
  · exact ⟨_, htold, hreader⟩
  · have hlines := workAll_scripted_lines name script clock 0
      (queuedEvents items) .blank
    simpa [dispatch, blocks, Ledger.blank] using hlines
  · simp only [dispatch, hreader, List.countP_append]
    rw [hlast _ _ (by decide), hlast _ _ (by decide), hlast _ _ (by decide)]
    exact hitems
  · simp only [dispatch, hreader, List.countP_append]
    rw [hlast _ _ (by decide)]
    exact hevents
  · simpa [dispatch, Ledger.blank] using hworked.attempts
  · have hattempts := hworked.attempts
    have haccepted := hworked.accepted
    simp only [Ledger.blank, List.length_nil] at hattempts haccepted
    simp only [dispatch, Ledger.blank]
    omega

/-- However reader and worker take turns, the journal of a dispatch is
complete for what was read: each item and each attempt is told, in the order
of the stream, and nothing else is. -/
theorem nothing_is_dropped_silently (name : String) (script : List Verdict)
    (items : List Item) :
    (∀ clock stop, Complete name script items stop
      (dispatch (Submitter.scripted name script) clock items stop .blank)) ∧
    ∀ p, Reachable (Submitter.scripted name script) items .blank p →
      p.Finished → ∀ why, p.stopped = some why →
      (why = .closed → p.past = items) ∧
      Complete name script p.past why
        ⟨why.outcome, p.reader, p.worker, p.world⟩ := by
  constructor
  · intro clock stop
    exact dispatch_complete name script clock items stop
  · intro p hreachable hfinished why hwhy
    have hkept := hreachable.kept
    obtain ⟨clock, hdispatch⟩ := hkept.exists_dispatch_eq hfinished hwhy
    constructor
    · intro hclosed
      simpa [hkept.closed (hclosed ▸ hwhy)] using hkept.stream
    · rw [← hdispatch]
      exact dispatch_complete name script clock p.past why

/-! ## A cancelled dispatch with every kind of item -/

/-- Two ends of a track, and between them an error of reading and a signal
with too few values. -/
def mixedStream : List Item :=
  [endOfTrack "First", .fault "read error",
    .signal ⟨[.int32 7], none, "/", "media.player.cmus", "NowPlaying"⟩,
    endOfTrack "Second"]

/-- One attempt fails and the other one crashes after the program was told to
stop; both are told. -/
theorem cancelled_dispatch_tells_both_attempts :
    ∃ p : Progress Ledger,
      Reachable (Submitter.scripted "recording"
        [.refuse ⟨"no service", ["no answer"]⟩, .crash]) mixedStream .blank p ∧
      p.Finished ∧ p.stopped = some .cancelled ∧ p.past = mixedStream ∧
      p.worker.map (·.text) =
        ["Scrobbling: Artist - First (245s) via recording",
          "Scrobble submission failed: no service: no answer",
          "Scrobbling: Artist - Second (245s) via recording",
          "Submission task failed: <panic>"] ∧
      p.worker.countP (begins .info .bridge "Scrobbling: ") =
        p.world.attempts := by
  let submitter := Submitter.scripted "recording"
    [.refuse ⟨"no service", ["no answer"]⟩, .crash]
  let now : Instant := ⟨0, 0⟩
  have h :
      Reachable submitter mixedStream .blank
        (Progress.start mixedStream .blank) := .start
  have h := h.step (.read rfl rfl)
  have h := h.step (.take rfl rfl)
  have h := h.step (.read rfl rfl)
  have h := h.step (.finish now rfl)
  have h := h.step (.read rfl rfl)
  have h := h.step (.read rfl rfl)
  have h := h.step .tell
  have h := h.step (.cancel rfl rfl)
  have h := h.step (.take rfl rfl)
  have h := h.step (.finish now rfl)
  have hcomplete :=
    ((nothing_is_dropped_silently _ _ _).2 _ h ⟨rfl, rfl, rfl⟩ .cancelled rfl).2
  refine ⟨_, h, ⟨rfl, rfl, rfl⟩, rfl, rfl, ?_, hcomplete.attempts.symm⟩
  decide +kernel

end ScrobbleRelay.Relay
