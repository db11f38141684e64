import ScrobbleRelay.Relay.Dispatch

/-!
# Dispatch, one step at a time

`dispatch` lays the run of the reader beside that of the worker.  Here the two share a state and
take turns in any order: the reader reads an item, finds the end of the stream, or stops once it was
told to; the worker takes the oldest event of the queue, or is done with the event in its hands,
however the submission ended.  Being told to stop may come at any time.  A state in which neither
has anything left to do is finished, and until then one of them can go on.
-/

namespace ScrobbleRelay.Relay

open Log (Line)
open Playback (Event)
open Service (Submitter)
open Time (Instant)

/-- What reader and worker have done, and what they have before them. -/
structure Progress (σ : Type) where
  /-- The items that were not read. -/
  unread : List Item
  /-- The items that were read. -/
  past : List Item
  /-- The lines of the reader. -/
  reader : List Line
  /-- Whether the program was told to stop. -/
  told : Bool
  /-- Why the reader stopped, once it did. -/
  stopped : Option Stop
  /-- The events that wait for the worker. -/
  queue : List Event
  /-- The event in the hands of the worker. -/
  inHand : Option Event
  /-- The events that the worker is done with, each with the time of its attempt. -/
  handled : List (Event × Instant)
  /-- The lines of the worker. -/
  worker : List Line
  /-- The world that the submissions reached. -/
  world : σ

variable {σ : Type}

namespace Progress

/-- The state before anything was read. -/
def start (items : List Item) (world : σ) : Progress σ :=
  ⟨items, [], [], false, none, [], none, [], [], world⟩

/-- The reader reads an item. -/
def receive (p : Progress σ) (item : Item) (rest : List Item) : Progress σ :=
  { p with
    unread := rest
    past := p.past ++ [item]
    reader := p.reader ++ [item.line]
    queue := p.queue ++ item.event?.toList }

def stop (p : Progress σ) (why : Stop) : Progress σ :=
  { p with reader := p.reader ++ why.lines, stopped := some why }

/-- The program is told to stop. -/
def tell (p : Progress σ) : Progress σ := { p with told := true }

/-- The worker takes an event. -/
def take (p : Progress σ) (event : Event) (rest : List Event) : Progress σ :=
  { p with queue := rest, inHand := some event }

/-- The worker is done with an event. -/
def finish (p : Progress σ) (submitter : Submitter σ) (event : Event) (now : Instant) :
    Progress σ :=
  let done := work submitter event now p.world
  { p with
    inHand := none
    handled := p.handled ++ [(event, now)]
    worker := p.worker ++ done.2
    world := done.1 }

/-- All events that were queued so far, in their order. -/
def events (p : Progress σ) : List Event :=
  p.handled.map Prod.fst ++ p.inHand.toList ++ p.queue

/-- The reader has stopped and the worker has nothing left. -/
def Finished (p : Progress σ) : Prop := p.stopped.isSome ∧ p.inHand = none ∧ p.queue = []

end Progress

/-- One step of the reader, of the worker, or of whoever tells the program to stop. -/
inductive Step (submitter : Submitter σ) : Progress σ → Progress σ → Prop
  | read {p : Progress σ} {item : Item} {rest : List Item}
      (running : p.stopped = none) (next : p.unread = item :: rest) :
      Step submitter p (p.receive item rest)
  | close {p : Progress σ} (running : p.stopped = none) (ended : p.unread = []) :
      Step submitter p (p.stop .closed)
  | cancel {p : Progress σ} (running : p.stopped = none) (told : p.told = true) :
      Step submitter p (p.stop .cancelled)
  | tell {p : Progress σ} : Step submitter p p.tell
  | take {p : Progress σ} {event : Event} {rest : List Event}
      (free : p.inHand = none) (next : p.queue = event :: rest) :
      Step submitter p (p.take event rest)
  | finish {p : Progress σ} {event : Event} (now : Instant) (busy : p.inHand = some event) :
      Step submitter p (p.finish submitter event now)

/-- The states that some order of steps reaches. -/
inductive Reachable (submitter : Submitter σ) (items : List Item) (world : σ) :
    Progress σ → Prop
  | start : Reachable submitter items world (Progress.start items world)
  | step {p q : Progress σ} (earlier : Reachable submitter items world p)
      (next : Step submitter p q) : Reachable submitter items world q

/-! ### What a step does to the events -/

namespace Progress

@[simp] theorem events_start (items : List Item) (world : σ) :
    (start items world).events = [] := rfl

@[simp] theorem events_receive (p : Progress σ) (item : Item) (rest : List Item) :
    (p.receive item rest).events = p.events ++ item.event?.toList := by
  simp [events, receive]

@[simp] theorem events_stop (p : Progress σ) (why : Stop) : (p.stop why).events = p.events := rfl

@[simp] theorem events_tell (p : Progress σ) : p.tell.events = p.events := rfl

/-- Taking the oldest event keeps it between the handled ones and the waiting ones. -/
theorem events_take (p : Progress σ) {event : Event} {rest : List Event} (free : p.inHand = none)
    (next : p.queue = event :: rest) : (p.take event rest).events = p.events := by
  simp [events, take, free, next]

/-- Being done with an event keeps it in its place, however its submission ended. -/
theorem events_finish (p : Progress σ) (submitter : Submitter σ) {event : Event} (now : Instant)
    (busy : p.inHand = some event) : (p.finish submitter event now).events = p.events := by
  simp [events, finish, busy]

/-- The work that is left: to read and hand on the items, to stop, to take the waiting events and
to be done with the one in hand. -/
def left (p : Progress σ) : Nat :=
  3 * p.unread.length + p.stopped.elim 1 (fun _ => 0) + 2 * p.queue.length +
    p.inHand.toList.length

/-- As long as a state is not finished, the reader or the worker can go on, and less is left. -/
theorem exists_step_left_lt (submitter : Submitter σ) (p : Progress σ) (unfinished : ¬ p.Finished) :
    ∃ q, Step submitter p q ∧ q.left < p.left := by
  cases busy : p.inHand with
  | some event =>
    refine ⟨_, .finish ⟨0, 0⟩ busy, ?_⟩
    simp [left, finish, busy]
  | none =>
    cases waiting : p.queue with
    | cons event rest =>
      refine ⟨_, .take busy waiting, ?_⟩
      simp only [left, take, busy, waiting, List.length_cons, Option.toList_some,
        Option.toList_none, List.length_nil]
      omega
    | nil =>
      have running : p.stopped = none := by
        cases why : p.stopped with
        | none => rfl
        | some _ => exact absurd ⟨by simp [why], busy, waiting⟩ unfinished
      cases items : p.unread with
      | nil =>
        refine ⟨_, .close running items, ?_⟩
        simp [left, stop, running]
      | cons item rest =>
        refine ⟨_, .read running items, ?_⟩
        have few : item.event?.toList.length ≤ 1 := by cases item.event? <;> simp
        simp only [left, receive, running, items, List.length_append, List.length_cons]
        omega

end Progress

end ScrobbleRelay.Relay
