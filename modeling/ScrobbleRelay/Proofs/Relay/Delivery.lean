import Mathlib.Data.List.Forall2
import Mathlib.Logic.Relation
import ScrobbleRelay.Relay.Steps

/-!
# Delivery in every order of steps

Reader, worker and whoever tells the program to stop take turns in any order.
The invariant is that the handled events, the event in hand and the waiting
events are together the events that were read, in their order; each step
keeps it, however a submission ends and whenever the program is told to stop.

What was attempted is observed from outside, by a submitter that writes down
every scrobble it is asked for.  When a dispatch has finished, its report is
the one of `dispatch` on what was read.
-/

namespace ScrobbleRelay.Service

/-- The same submitter, writing down every scrobble that it is asked for,
however the submission ends. -/
def Submitter.noting {σ : Type} (s : Submitter σ) :
    Submitter (List Scrobble × σ) where
  name := s.name
  submit scrobble := fun world =>
    let run := (s.submit scrobble).run world.2
    ⟨run.ending, (world.1 ++ [scrobble], run.world), run.lines⟩

end ScrobbleRelay.Service

namespace ScrobbleRelay.Relay

open Log (Line)
open Playback (Event EventCode)
open Service (Submitter)
open Time (Instant)

variable {σ : Type}

/-! ## Attempts -/

/-- The attempts are those of the events at the end of a track, each of them
once and in the order of the events. -/
def Attempted (events : List Event) (attempts : List Scrobble) : Prop :=
  List.Forall₂ (fun event scrobble => ∃ now, Scrobble.ofEvent? event now = some scrobble)
    (events.filter fun event => event.code = .autoNext) attempts

theorem work_noting_attempts
    (submitter : Submitter σ) (event : Event) (now : Instant)
    (world : List Scrobble × σ) :
    (work submitter.noting event now world).1.1 =
      world.1 ++ (Scrobble.ofEvent? event now).toList := by
  cases hevent : Scrobble.ofEvent? event now with
  | none => simp [work, run_handle_of_none _ hevent]
  | some scrobble =>
      simp only [work, run_handle_of_some _ hevent]
      rfl

/-- One more event adds its own attempt, if it is the end of a track, and no
other. -/
theorem Attempted.append
    {events : List Event} {attempts : List Scrobble}
    (h : Attempted events attempts) (event : Event) (now : Instant) :
    Attempted (events ++ [event])
      (attempts ++ (Scrobble.ofEvent? event now).toList) := by
  unfold Attempted
  rw [List.filter_append]
  apply List.rel_append h
  by_cases hcode : event.code = .autoNext
  · simp only [List.filter_cons, hcode, decide_true, if_true, List.filter_nil,
      Scrobble.ofEvent?, Option.toList_some, List.forall₂_cons,
      List.Forall₂.nil, and_true]
    exact ⟨now, rfl⟩
  · simp [Scrobble.ofEvent?, hcode]

/-! ## The run of a worker -/

/-- The run of the worker over events, each with the time at which it is
taken. -/
def workEach (submitter : Submitter σ) :
    List (Event × Instant) → σ → σ × List Line
  | [], world => (world, [])
  | (event, now) :: rest, world =>
    let first := work submitter event now world
    let others := workEach submitter rest first.1
    (others.1, first.2 ++ others.2)

theorem workEach_append_singleton
    (submitter : Submitter σ) (taken : List (Event × Instant))
    (event : Event) (now : Instant) (world : σ) :
    workEach submitter (taken ++ [(event, now)]) world =
      let before := workEach submitter taken world
      let last := work submitter event now before.1
      (last.1, before.2 ++ last.2) := by
  induction taken generalizing world with
  | nil => simp [workEach]
  | cons first rest ih =>
      obtain ⟨other, time⟩ := first
      simp only [List.cons_append, workEach, ih, List.append_assoc]

/-- A clock that tells the times at which the events were taken makes
`workAll` the same run. -/
theorem workAll_eq_workEach
    (submitter : Submitter σ) (clock : Nat → Instant) (n : Nat)
    (taken : List (Event × Instant)) (world : σ)
    (hclock : ∀ i (h : i < taken.length), clock (n + i) = taken[i].2) :
    workAll submitter clock n (taken.map Prod.fst) world =
      workEach submitter taken world := by
  induction taken generalizing n world with
  | nil => rfl
  | cons first rest ih =>
      obtain ⟨event, now⟩ := first
      have hnow : clock n = now := hclock 0 (by simp)
      have hrest :
          ∀ i (h : i < rest.length), clock (n + 1 + i) = rest[i].2 := by
        intro i hi
        have := hclock (i + 1) (by simpa using hi)
        simpa [Nat.add_assoc, Nat.add_comm 1 i] using this
      simp only [List.map_cons, workAll, workEach, hnow, ih _ _ hrest]

/-! ## The invariant -/

namespace Progress

/-- What every order of steps keeps. -/
structure Kept (submitter : Submitter σ) (items : List Item) (world : σ)
    (p : Progress σ) : Prop where
  /-- What was read is a beginning of the stream. -/
  stream : p.past ++ p.unread = items
  /-- No event that was read is lost, added or moved. -/
  events : p.events = queuedEvents p.past
  /-- World and lines of the worker are those of the handled events. -/
  worker : (p.world, p.worker) = workEach submitter p.handled world
  /-- The reader has a line for each item, and the last line once it stopped. -/
  reader : p.reader = p.past.map Item.line ++ p.stopped.elim [] Stop.lines
  /-- The reader only stops by itself at the end of the stream. -/
  closed : p.stopped = some .closed → p.unread = []
  /-- The reader is only cancelled once the program was told to stop. -/
  cancelled : p.stopped = some .cancelled → p.told = true

theorem kept_start
    (submitter : Submitter σ) (items : List Item) (world : σ) :
    (start items world).Kept submitter items world := by
  constructor <;> simp [start, events, queuedEvents, workEach]

theorem Kept.receive
    {submitter : Submitter σ} {items : List Item} {world : σ} {p : Progress σ}
    {item : Item} {rest : List Item}
    (h : p.Kept submitter items world) (running : p.stopped = none)
    (next : p.unread = item :: rest) :
    (p.receive item rest).Kept submitter items world where
  stream := by simpa [Progress.receive, next] using h.stream
  events := by
    rw [events_receive, h.events]
    cases hevent : item.event? with
    | none => simp [Progress.receive, queuedEvents, hevent]
    | some event => simp [Progress.receive, queuedEvents, hevent]
  worker := h.worker
  reader := by simp [Progress.receive, h.reader, running]
  closed := by simp [Progress.receive, running]
  cancelled := by simp [Progress.receive, running]

theorem Kept.stop
    {submitter : Submitter σ} {items : List Item} {world : σ} {p : Progress σ}
    {why : Stop}
    (h : p.Kept submitter items world) (running : p.stopped = none)
    (hclosed : why = .closed → p.unread = [])
    (hcancelled : why = .cancelled → p.told = true) :
    (p.stop why).Kept submitter items world where
  stream := h.stream
  events := by rw [events_stop, h.events]; rfl
  worker := h.worker
  reader := by simp [Progress.stop, h.reader, running]
  closed := by simpa [Progress.stop] using hclosed
  cancelled := by simpa [Progress.stop] using hcancelled

theorem Kept.tell
    {submitter : Submitter σ} {items : List Item} {world : σ} {p : Progress σ}
    (h : p.Kept submitter items world) :
    p.tell.Kept submitter items world where
  stream := h.stream
  events := by rw [events_tell, h.events]; rfl
  worker := h.worker
  reader := h.reader
  closed := h.closed
  cancelled := by simp [Progress.tell]

theorem Kept.take
    {submitter : Submitter σ} {items : List Item} {world : σ} {p : Progress σ}
    {event : Event} {rest : List Event}
    (h : p.Kept submitter items world) (free : p.inHand = none)
    (next : p.queue = event :: rest) :
    (p.take event rest).Kept submitter items world where
  stream := h.stream
  events := by rw [events_take p free next, h.events]; rfl
  worker := h.worker
  reader := h.reader
  closed := h.closed
  cancelled := h.cancelled

theorem Kept.finish
    {submitter : Submitter σ} {items : List Item} {world : σ} {p : Progress σ}
    {event : Event}
    (h : p.Kept submitter items world) (now : Instant)
    (busy : p.inHand = some event) :
    (p.finish submitter event now).Kept submitter items world where
  stream := h.stream
  events := by rw [events_finish p submitter now busy, h.events]; rfl
  worker := by
    simp only [Progress.finish, workEach_append_singleton, ← h.worker]
  reader := h.reader
  closed := h.closed
  cancelled := h.cancelled

theorem Kept.step
    {submitter : Submitter σ} {items : List Item} {world : σ}
    {p q : Progress σ}
    (h : p.Kept submitter items world) (next : Step submitter p q) :
    q.Kept submitter items world := by
  cases next with
  | read running next => exact h.receive running next
  | close running ended =>
      exact h.stop running (fun _ => ended) (by simp)
  | cancel running told =>
      exact h.stop running (by simp) (fun _ => told)
  | tell => exact h.tell
  | take free next => exact h.take free next
  | finish now busy => exact h.finish now busy

end Progress

theorem Reachable.kept
    {submitter : Submitter σ} {items : List Item} {world : σ}
    {p : Progress σ} (h : Reachable submitter items world p) :
    p.Kept submitter items world := by
  induction h with
  | start => exact Progress.kept_start submitter items world
  | step earlier next ih => exact ih.step next

/-- The attempts that a noting submitter wrote down are those of the events
that the worker is done with. -/
theorem Reachable.attempted
    {submitter : Submitter σ} {items : List Item} {world : σ}
    {p : Progress (List Scrobble × σ)}
    (h : Reachable submitter.noting items ([], world) p) :
    Attempted (p.handled.map Prod.fst) p.world.1 := by
  induction h with
  | start => exact List.Forall₂.nil
  | @step p q earlier next ih =>
      cases next with
      | read => exact ih
      | close => exact ih
      | cancel => exact ih
      | tell => exact ih
      | take => exact ih
      | @finish event now busy =>
          simpa [Progress.finish, work_noting_attempts] using
            ih.append event now

/-! ## Finished dispatches -/

/-- From every state some order of further steps leads to a finished one. -/
theorem exists_finished (submitter : Submitter σ) (p : Progress σ) :
    ∃ q, Relation.ReflTransGen (Step submitter) p q ∧ q.Finished := by
  induction hleft : p.left using Nat.strongRecOn generalizing p with
  | ind n ih =>
      by_cases hfinished : p.Finished
      · exact ⟨p, .refl, hfinished⟩
      · obtain ⟨r, hstep, hless⟩ :=
          p.exists_step_left_lt submitter hfinished
        obtain ⟨q, hsteps, hend⟩ := ih r.left (hleft ▸ hless) r rfl
        exact ⟨q, .head hstep hsteps, hend⟩

/-- When everything that was queued is handled, the handled events are those
of the items that were read. -/
theorem Progress.Kept.handled_eq_of_finished
    {submitter : Submitter σ} {items : List Item} {world : σ}
    {p : Progress σ} (h : p.Kept submitter items world)
    (hfinished : p.Finished) :
    p.handled.map Prod.fst = queuedEvents p.past := by
  obtain ⟨-, hhand, hqueue⟩ := hfinished
  rw [← h.events, Progress.events, hhand, hqueue]
  simp

/-- A finished state is what `dispatch` reports of the items that were read. -/
theorem Progress.Kept.exists_dispatch_eq
    {submitter : Submitter σ} {items : List Item} {world : σ}
    {p : Progress σ} (h : p.Kept submitter items world)
    (hfinished : p.Finished) {why : Stop} (hwhy : p.stopped = some why) :
    ∃ clock, dispatch submitter clock p.past why world =
      ⟨why.outcome, p.reader, p.worker, p.world⟩ := by
  let clock : Nat → Instant := fun i =>
    (p.handled[i]?.map Prod.snd).getD ⟨0, 0⟩
  have hclock :
      ∀ i (hi : i < p.handled.length), clock (0 + i) = p.handled[i].2 := by
    intro i hi
    simp [clock, List.getElem?_eq_getElem hi]
  have hwork :
      workAll submitter clock 0 (queuedEvents p.past) world =
        (p.world, p.worker) := by
    rw [← h.handled_eq_of_finished hfinished,
      workAll_eq_workEach submitter clock 0 p.handled world hclock, h.worker]
  refine ⟨clock, ?_⟩
  simp only [dispatch, hwork, readerLines, h.reader, hwhy, Option.elim_some]

/-- In every reachable state the handled events, the event in hand and the
waiting ones are, in order, those of the items that were read, and each of
the handled ends of a track was attempted once.  A finished state, which
further steps can always reach, has attempted all that was read, and is the
report of `dispatch`. -/
theorem reachable_loses_no_event
    (submitter : Submitter σ) (items : List Item) (world : σ)
    {p : Progress (List Scrobble × σ)}
    (h : Reachable submitter.noting items ([], world) p) :
    p.past ++ p.unread = items ∧
    p.handled.map Prod.fst ++ p.inHand.toList ++ p.queue =
      queuedEvents p.past ∧
    Attempted (p.handled.map Prod.fst) p.world.1 ∧
    (p.Finished →
      Attempted (queuedEvents p.past) p.world.1 ∧
      ∃ why clock,
        p.stopped = some why ∧
        (why = .closed → p.past = items) ∧
        (why = .cancelled → p.told = true) ∧
        dispatch submitter.noting clock p.past why ([], world) =
          ⟨why.outcome, p.reader, p.worker, p.world⟩) ∧
    ∃ q, Relation.ReflTransGen (Step submitter.noting) p q ∧ q.Finished := by
  have hkept := h.kept
  refine ⟨hkept.stream, hkept.events, h.attempted, ?_,
    exists_finished submitter.noting p⟩
  intro hfinished
  constructor
  · rw [← hkept.handled_eq_of_finished hfinished]
    exact h.attempted
  · obtain ⟨why, hwhy⟩ := Option.isSome_iff_exists.mp hfinished.1
    obtain ⟨clock, hdispatch⟩ := hkept.exists_dispatch_eq hfinished hwhy
    refine ⟨why, clock, hwhy, ?_, ?_, hdispatch⟩
    · intro hclosed
      simpa [hkept.closed (hclosed ▸ hwhy)] using hkept.stream
    · intro hcancelled
      exact hkept.cancelled (hcancelled ▸ hwhy)

/-! ## A cancelled dispatch whose first submission crashes -/

/-- The signal of a track that was heard to its end. -/
def endOfTrack (title : String) : Item :=
  .signal
    { body := [.int32 7, .text "Artist", .text title, .text "Album", .int32 1,
        .int32 245, .int32 10]
      sender := none
      path := "/media/player/cmus"
      interface := "media.player.cmus"
      member := "NowPlaying" }

/-- Two tracks with an error of reading between them. -/
def twoTracks : List Item :=
  [endOfTrack "First", .fault "read error", endOfTrack "Second"]

/-- The submitter crashes on the first track while the second one waits, and
the program was told to stop in between; both tracks are still attempted. -/
theorem cancelled_dispatch_attempts_both_tracks :
    ∃ p : Progress (List Scrobble × Service.Ledger),
      Reachable (Submitter.scripted "recording" [.crash]).noting twoTracks
        ([], .blank) p ∧
      p.stopped = some .cancelled ∧ p.Finished ∧
      p.past = twoTracks ∧
      Attempted (queuedEvents twoTracks) p.world.1 ∧
      p.world.1.map (·.title) = ["First", "Second"] := by
  let submitter := (Submitter.scripted "recording" [.crash]).noting
  let now : Instant := ⟨0, 0⟩
  have h :
      Reachable submitter twoTracks ([], .blank)
        (Progress.start twoTracks ([], .blank)) := .start
  have h := h.step (.read rfl rfl)
  have h := h.step (.take rfl rfl)
  have h := h.step (.read rfl rfl)
  have h := h.step (.read rfl rfl)
  have h := h.step .tell
  have h := h.step (.cancel rfl rfl)
  have h := h.step (.finish now rfl)
  have h := h.step (.take rfl rfl)
  have h := h.step (.finish now rfl)
  have hall := reachable_loses_no_event _ _ _ h
  refine ⟨_, h, rfl, ⟨rfl, rfl, rfl⟩, rfl, ?_, rfl⟩
  exact (hall.2.2.2.1 ⟨rfl, rfl, rfl⟩).1

end ScrobbleRelay.Relay
