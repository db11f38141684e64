import Mathlib.Data.List.Forall2
import Mathlib.Data.List.Nodup
import Mathlib.Logic.Function.Basic
import ScrobbleRelay.Proofs.Service.Bundles
import ScrobbleRelay.Proofs.Service.Turns

/-!
# Bundles of scripted services

Services that follow scripts are put into a bundle, each at its place, and
every call is written down in a diary.  One submission calls the services in
their order up to the first that crashes; what the others do has no influence
on who is called.

Over a run each service has a counter of its own, which falls behind the run
once an earlier service crashes.  Until then the counter of a service and the
number of the turn are the same, so its attempts are those of the scrobbles in
their order.
-/

namespace ScrobbleRelay.Service

open Log (Line)

/-! ## Scripted services and their diary -/

/-- A service that follows a script. -/
structure Scripted where
  name : String
  script : List Verdict

/-- What the services of a bundle leave behind: all calls in their order, each
with the place of the service, and for each place a ledger. -/
structure Diary where
  calls : List (Nat × Scrobble)
  ledger : Nat → Ledger

def Diary.blank : Diary := ⟨[], fun _ => .blank⟩

/-- A scripted service at its place in a bundle. -/
structure Member where
  service : Scripted
  place : Nat

/-- The failure that a verdict tells, if it tells one. -/
def Verdict.failure? : Verdict → Option Failure
  | .accept => none
  | .refuse failure => some failure
  | .crash => none

namespace Member

/-- What a member does when it is called next. -/
def verdict (m : Member) (d : Diary) : Verdict :=
  verdictAt m.service.script (d.ledger m.place).attempts

/-- The diary after a call of a member. -/
def called (m : Member) (scrobble : Scrobble) (d : Diary) : Diary where
  calls := d.calls ++ [(m.place, scrobble)]
  ledger := Function.update d.ledger m.place
    ((d.ledger m.place).record (m.verdict d) scrobble)

/-- A member as a submitter that writes down its calls. -/
def submitter (m : Member) : Submitter Diary where
  name := m.service.name
  submit scrobble := fun d =>
    let scripted := Submitter.scripted m.service.name m.service.script
    let run := (scripted.submit scrobble).run (d.ledger m.place)
    ⟨run.ending,
      ⟨d.calls ++ [(m.place, scrobble)],
        Function.update d.ledger m.place run.world⟩,
      run.lines⟩

/-- The line about the failure of a member, if it fails when it is called
next: its name, and the failure with the whole chain of its causes. -/
def lines (m : Member) (d : Diary) : List Line :=
  (m.verdict d).failure?.toList.map fun failure =>
    ⟨.error, .services,
      m.service.name ++ ": " ++ ": ".intercalate (failure.message :: failure.causes)⟩

theorem submitter_run (m : Member) (scrobble : Scrobble) (d : Diary) :
    (m.submitter.submit scrobble).run d =
      ⟨(m.verdict d).ending, m.called scrobble d, []⟩ := rfl

/-- A call of one member has no influence on what another one does. -/
theorem verdict_called {m other : Member} (h : other.place ≠ m.place)
    (scrobble : Scrobble) (d : Diary) :
    other.verdict (m.called scrobble d) = other.verdict d := by
  simp [verdict, called, Function.update_of_ne h]

theorem attempts_called (m : Member) (scrobble : Scrobble) (d : Diary)
    (place : Nat) :
    ((m.called scrobble d).ledger place).attempts =
      (d.ledger place).attempts + if place = m.place then 1 else 0 := by
  by_cases h : place = m.place
  · subst h
    simp [called, Ledger.record]
  · simp [called, h]

end Member

namespace Diary

variable {d d' : Diary} {members : List Member}

/-- The members that are called: all up to the first that crashes, and that
one. -/
def reached (d : Diary) (members : List Member) : List Member :=
  members.take (members.findIdx (fun m => m.verdict d = .crash) + 1)

def failedNames (d : Diary) (members : List Member) : List String :=
  (members.filter fun m => (m.verdict d).failure?.isSome).map (·.service.name)

theorem reached_cons_of_crash {m : Member} (h : m.verdict d = .crash) :
    d.reached (m :: members) = [m] := by
  simp [reached, List.findIdx_cons, h]

theorem reached_cons_of_ne_crash {m : Member} (h : m.verdict d ≠ .crash) :
    d.reached (m :: members) = m :: d.reached members := by
  simp [reached, List.findIdx_cons, h]

theorem reached_congr (h : ∀ m ∈ members, m.verdict d' = m.verdict d) :
    d'.reached members = d.reached members := by
  induction members with
  | nil => rfl
  | cons m rest ih =>
      have hm := h m List.mem_cons_self
      have hrest := ih fun m hm => h m (List.mem_cons_of_mem _ hm)
      by_cases hcrash : m.verdict d = .crash
      · rw [reached_cons_of_crash hcrash, reached_cons_of_crash (hm.trans hcrash)]
      · rw [reached_cons_of_ne_crash hcrash,
          reached_cons_of_ne_crash (hm ▸ hcrash), hrest]

theorem failedNames_congr (h : ∀ m ∈ members, m.verdict d' = m.verdict d) :
    d'.failedNames members = d.failedNames members := by
  unfold failedNames
  rw [List.filter_congr fun m hm => by rw [h m hm]]

theorem reached_subset (d : Diary) (members : List Member) :
    d.reached members ⊆ members :=
  List.take_subset _ _

end Diary

/-! ## One submission -/

/-- What handing a scrobble to some members does. -/
structure Served (scrobble : Scrobble) (members : List Member) (d : Diary)
    (run : Run Failure Diary (List String)) : Prop where
  /-- The crash of a member is a crash of the whole. -/
  crashed : ∀ m ∈ members, m.verdict d = .crash → run.ending = .crashed
  /-- Where no member crashes, those that failed are named. -/
  done : (∀ m ∈ members, m.verdict d ≠ .crash) →
    run.ending = .done (d.failedNames members)
  /-- Each reached member is called once, in the order of the members. -/
  calls : run.world.calls =
    d.calls ++ (d.reached members).map fun m => (m.place, scrobble)
  /-- The counters of the reached members go on by one, and no others. -/
  attempts : ∀ place, (run.world.ledger place).attempts =
    (d.ledger place).attempts +
      if place ∈ (d.reached members).map (·.place) then 1 else 0
  /-- Each failure of a reached member has its line. -/
  lines : run.lines = (d.reached members).flatMap (·.lines d)

theorem served_nil (scrobble : Scrobble) (d : Diary) :
    Served scrobble [] d ((submitEach scrobble []).run d) := by
  constructor <;> simp [submitEach, Diary.failedNames, Diary.reached]

section Cons

variable {scrobble : Scrobble} {m : Member} {rest : List Member} {d : Diary}

theorem served_of_crash (hcrash : m.verdict d = .crash) :
    Served scrobble (m :: rest) d
      ((submitEach scrobble ((m :: rest).map Member.submitter)).run d) := by
  have hrun := m.submitter_run scrobble d
  rw [hcrash] at hrun
  have hall := submitEach_run_crashed (rest.map Member.submitter) hrun
  rw [List.map_cons, hall]
  constructor
  · simp
  · intro hnone
    exact absurd hcrash (hnone m List.mem_cons_self)
  · simp [Diary.reached_cons_of_crash hcrash, Member.called]
  · intro place
    simp [Diary.reached_cons_of_crash hcrash, Member.attempts_called]
  · simp [Diary.reached_cons_of_crash hcrash, Member.lines, hcrash,
      Verdict.failure?]

/-- A member that does not crash is followed by the others; its own line and
its own name, if it fails, come before theirs. -/
theorem submitEach_run_of_ne_crash (scrobble : Scrobble) (rest : List Member)
    (hgoes : m.verdict d ≠ .crash) :
    let run := (submitEach scrobble ((m :: rest).map Member.submitter)).run d
    let others := (submitEach scrobble (rest.map Member.submitter)).run
      (m.called scrobble d)
    run.world = others.world ∧
    run.lines = m.lines d ++ others.lines ∧
    (others.ending = .crashed → run.ending = .crashed) ∧
    ∀ names, others.ending = .done names →
      run.ending = .done (d.failedNames [m] ++ names) := by
  have hrun := m.submitter_run scrobble d
  cases hverdict : m.verdict d with
  | accept =>
      rw [hverdict] at hrun
      have hall := submitEach_run_done (rest.map Member.submitter) hrun
      rw [List.map_cons, hall]
      simp [Member.lines, Diary.failedNames, hverdict, Verdict.failure?]
  | refuse failure =>
      rw [hverdict] at hrun
      obtain ⟨hworld, hlines, hcrashed, hdone⟩ :=
        submitEach_run_failed (rest.map Member.submitter) hrun
      refine ⟨hworld, ?_, hcrashed, ?_⟩
      · rw [List.map_cons, hlines]
        simp only [Member.lines, hverdict, Verdict.failure?]
        rfl
      · intro names hnames
        rw [List.map_cons, hdone names hnames]
        simp only [Diary.failedNames, hverdict, Verdict.failure?,
          List.filter_cons]
        rfl
  | crash => exact absurd hverdict hgoes

/-- A member that does not crash adds its own call, counter, line and name to
what the others do. -/
theorem served_of_ne_crash (hgoes : m.verdict d ≠ .crash)
    (hdistinct : ∀ other ∈ rest, other.place ≠ m.place)
    (hrest : Served scrobble rest (m.called scrobble d)
      ((submitEach scrobble (rest.map Member.submitter)).run
        (m.called scrobble d))) :
    Served scrobble (m :: rest) d
      ((submitEach scrobble ((m :: rest).map Member.submitter)).run d) := by
  have hsame : ∀ other ∈ rest,
      other.verdict (m.called scrobble d) = other.verdict d := by
    intro other hother
    exact Member.verdict_called (hdistinct other hother) scrobble d
  have hreached :
      d.reached (m :: rest) = m :: (m.called scrobble d).reached rest := by
    rw [Diary.reached_cons_of_ne_crash hgoes, Diary.reached_congr hsame]
  have hnames :
      (m.called scrobble d).failedNames rest = d.failedNames rest :=
    Diary.failedNames_congr hsame
  obtain ⟨hworld, hlines, hcrashed, hdone⟩ :=
    submitEach_run_of_ne_crash scrobble rest hgoes
  constructor
  · intro other hother hcrash
    rcases List.mem_cons.mp hother with rfl | hother
    · exact absurd hcrash hgoes
    · exact hcrashed (hrest.crashed other hother ((hsame other hother).trans hcrash))
  · intro hnone
    have hothers := hrest.done fun other hother =>
      hsame other hother ▸ hnone other (List.mem_cons_of_mem _ hother)
    rw [hdone _ hothers, hnames]
    simp [Diary.failedNames, ← List.map_append, ← List.filter_append]
  · rw [hworld, hrest.calls, hreached]
    simp [Member.called]
  · intro place
    rw [hworld, hrest.attempts, hreached, Member.attempts_called,
      List.map_cons]
    by_cases hplace : place = m.place
    · have hother :
          place ∉ ((m.called scrobble d).reached rest).map (·.place) := by
        rintro hmem
        obtain ⟨other, hother, hsame⟩ := List.mem_map.mp hmem
        exact hdistinct other (Diary.reached_subset _ _ hother)
          (hsame.trans hplace)
      simp [hplace, hplace ▸ hother]
    · simp [hplace]
  · rw [hlines, hrest.lines, hreached, List.flatMap_cons]
    congr 1
    apply List.flatMap_congr
    intro other hother
    have := hsame other (Diary.reached_subset _ _ hother)
    rw [Member.lines, Member.lines, this]

end Cons

/-- Handing a scrobble to members at places of their own serves them. -/
theorem served_of_distinct (scrobble : Scrobble) {members : List Member}
    (hdistinct : members.Pairwise fun m other => other.place ≠ m.place)
    (d : Diary) :
    Served scrobble members d
      ((submitEach scrobble (members.map Member.submitter)).run d) := by
  induction members generalizing d with
  | nil => exact served_nil scrobble d
  | cons m rest ih =>
      obtain ⟨hfirst, hrest⟩ := List.pairwise_cons.mp hdistinct
      by_cases hcrash : m.verdict d = .crash
      · exact served_of_crash hcrash
      · exact served_of_ne_crash hcrash hfirst (ih hrest _)

/-! ## The bundle of scripted services -/

/-- The services of a list at their places. -/
def membersOf (services : List Scripted) : List Member :=
  services.mapIdx fun place service => ⟨service, place⟩

/-- Scripted services as one submitter that writes down their calls. -/
def lineUp (services : List Scripted) : Submitter Diary :=
  .bundle ((membersOf services).map Member.submitter)

theorem getElem?_membersOf (services : List Scripted) (place : Nat) :
    (membersOf services)[place]? =
      services[place]?.map fun service => ⟨service, place⟩ := by
  simp [membersOf]

theorem membersOf_distinct (services : List Scripted) :
    (membersOf services).Pairwise fun m other => other.place ≠ m.place := by
  rw [List.pairwise_iff_getElem]
  intro i j hi hj hlt
  simp only [membersOf, List.getElem_mapIdx]
  omega

namespace Diary

variable {d : Diary} {members : List Member}

theorem exists_reached_crash_iff :
    (∃ m ∈ d.reached members, m.verdict d = .crash) ↔
      ∃ m ∈ members, m.verdict d = .crash := by
  induction members with
  | nil => simp [reached]
  | cons m rest ih =>
      by_cases hcrash : m.verdict d = .crash
      · simp [reached_cons_of_crash hcrash, hcrash]
      · simp [reached_cons_of_ne_crash hcrash, hcrash, ih]

/-- Where no member crashes, none fails exactly where all accept. -/
theorem failedNames_eq_nil_iff (hnone : ∀ m ∈ members, m.verdict d ≠ .crash) :
    d.failedNames members = [] ↔ ∀ m ∈ members, m.verdict d = .accept := by
  simp only [failedNames, List.map_eq_nil_iff, List.filter_eq_nil_iff]
  apply forall₂_congr
  intro m hm
  cases hverdict : m.verdict d with
  | accept => simp [Verdict.failure?]
  | refuse failure => simp [Verdict.failure?]
  | crash => exact absurd hverdict (hnone m hm)

theorem mem_reached_of_getElem? {m : Member} {place : Nat}
    (hm : members[place]? = some m)
    (hgoes : ∀ p < place, ∀ other, members[p]? = some other →
      other.verdict d ≠ .crash) :
    m ∈ d.reached members := by
  induction members generalizing place with
  | nil => simp at hm
  | cons first rest ih =>
      cases place with
      | zero =>
          obtain rfl : first = m := by simpa using hm
          by_cases hcrash : first.verdict d = .crash
          · simp [reached_cons_of_crash hcrash]
          · simp [reached_cons_of_ne_crash hcrash]
      | succ place =>
          have hfirst : first.verdict d ≠ .crash :=
            hgoes 0 (Nat.succ_pos place) first rfl
          rw [reached_cons_of_ne_crash hfirst]
          apply List.mem_cons_of_mem
          apply ih (by simpa using hm)
          intro p hp other hother
          exact hgoes (p + 1) (Nat.succ_lt_succ hp) other (by simpa using hother)

end Diary

/-! ## One turn -/

/-- What one turn of scripted services does, told by their verdicts. -/
structure Turn.FollowsScripts (services : List Scripted) (turn : Turn Diary) :
    Prop where
  /-- The services up to the first that crashes are called, each once and in
  the order of the list. -/
  calls : turn.after.calls = turn.before.calls ++
    (turn.before.reached (membersOf services)).map fun m =>
      (m.place, turn.scrobble)
  /-- The turn crashes exactly where a called service does. -/
  crashed_iff : turn.ending = .crashed ↔
    ∃ m ∈ turn.before.reached (membersOf services),
      m.verdict turn.before = .crash
  /-- The turn succeeds exactly where all services accept. -/
  done_iff : turn.ending = .done () ↔
    ∀ m ∈ membersOf services, m.verdict turn.before = .accept
  /-- In all other cases the failure names those that failed. -/
  failed : turn.ending ≠ .crashed → turn.ending ≠ .done () →
    turn.ending = .failed (.plain ("Submission failed for " ++
      ", ".intercalate (turn.before.failedNames (membersOf services))))
  /-- Every called service that fails has one line, in the order of the calls. -/
  lines : turn.run.lines =
    (turn.before.reached (membersOf services)).flatMap (·.lines turn.before)

/-- A turn of scripted services, and what it does to their counters. -/
theorem follows_scripts_of_run (services : List Scripted) {turn : Turn Diary}
    (hrun : turn.run = ((lineUp services).submit turn.scrobble).run turn.before) :
    turn.FollowsScripts services ∧
    ∀ place, (turn.after.ledger place).attempts =
      (turn.before.ledger place).attempts +
        if place ∈ (turn.before.reached (membersOf services)).map (·.place)
        then 1 else 0 := by
  have hserved := served_of_distinct turn.scrobble
    (membersOf_distinct services) turn.before
  obtain ⟨hworld, hlines, hcrashed, hdone⟩ :=
    bundle_run ((membersOf services).map Member.submitter) turn.scrobble
      turn.before
  have hafter : turn.after = turn.run.world := rfl
  have hending : turn.ending = turn.run.ending := rfl
  rw [← lineUp, ← hrun] at hworld hlines hcrashed hdone
  rw [← hafter] at hworld
  rw [← hending] at hcrashed hdone
  have hcalls := hworld ▸ hserved.calls
  have hattempts := hworld ▸ hserved.attempts
  have hall := hlines.trans hserved.lines
  refine ⟨?_, hattempts⟩
  by_cases hcrash : ∃ m ∈ membersOf services, m.verdict turn.before = .crash
  · have hreached := Diary.exists_reached_crash_iff.mpr hcrash
    obtain ⟨m, hm, hverdict⟩ := hcrash
    have hend : turn.ending = .crashed :=
      hcrashed (hserved.crashed m hm hverdict)
    have haccept : ¬ ∀ m ∈ membersOf services, m.verdict turn.before = .accept := by
      intro hyes
      simp [hyes m hm] at hverdict
    exact
      { calls := hcalls
        crashed_iff := iff_of_true hend hreached
        done_iff := iff_of_false (by simp [hend]) haccept
        failed := fun hno => absurd hend hno
        lines := hall }
  · have hnone : ∀ m ∈ membersOf services, m.verdict turn.before ≠ .crash := by
      intro m hm hverdict
      exact hcrash ⟨m, hm, hverdict⟩
    have hreached := mt Diary.exists_reached_crash_iff.mp hcrash
    have hend := hdone _ (hserved.done hnone)
    have haccept := Diary.failedNames_eq_nil_iff hnone
    by_cases hnames : turn.before.failedNames (membersOf services) = []
    · rw [if_pos hnames] at hend
      exact
        { calls := hcalls
          crashed_iff := iff_of_false (by simp [hend]) hreached
          done_iff := iff_of_true hend (haccept.mp hnames)
          failed := fun _ hno => absurd hend hno
          lines := hall }
    · rw [if_neg hnames] at hend
      exact
        { calls := hcalls
          crashed_iff := iff_of_false (by simp [hend]) hreached
          done_iff := iff_of_false (by simp [hend]) (mt haccept.mpr hnames)
          failed := fun _ _ => hend
          lines := hall }

/-! ## A whole run -/

section Run

variable {services others : List Scripted} {scrobbles : List Scrobble}
  {i place : Nat} {turn : Turn Diary}

theorem follows_scripts_of_mem {world : Diary}
    (h : turn ∈ (lineUp services).turns scrobbles world) :
    turn.FollowsScripts services ∧
    ∀ place, (turn.after.ledger place).attempts =
      (turn.before.ledger place).attempts +
        if place ∈ (turn.before.reached (membersOf services)).map (·.place)
        then 1 else 0 :=
  follows_scripts_of_run services (Submitter.run_of_mem_turns h)

/-- The services at the places before `place` do not crash in their first `n`
attempts. -/
def CalmBefore (services : List Scripted) (place n : Nat) : Prop :=
  ∀ p < place, ∀ service, services[p]? = some service →
    ∀ j < n, verdictAt service.script j ≠ .crash

/-- The service at a place has made one attempt in each of the first `i`
turns, with the scrobble of that turn. -/
def InStep (scrobbles : List Scrobble) (place i : Nat) (d : Diary) : Prop :=
  (d.ledger place).attempts = i ∧
  d.calls.filter (fun call => call.1 = place) =
    (scrobbles.take i).map fun scrobble => (place, scrobble)

/-- A service is reached where it and all services before it are in step and
the latter do not crash at this attempt. -/
theorem mem_reached_of_inStep {n : Nat} {p : Nat} {service : Scripted}
    {d : Diary} (hservice : services[p]? = some service) (hp : p ≤ place)
    (hcalm : CalmBefore services place n) (hi : i < n)
    (hstep : ∀ q ≤ place, InStep scrobbles q i d) :
    ⟨service, p⟩ ∈ d.reached (membersOf services) := by
  have hmember : (membersOf services)[p]? = some ⟨service, p⟩ := by
    rw [getElem?_membersOf, hservice, Option.map_some]
  apply Diary.mem_reached_of_getElem? hmember
  intro q hq other hother
  rw [getElem?_membersOf] at hother
  obtain ⟨earlier, hearlier, rfl⟩ := Option.map_eq_some_iff.mp hother
  have hattempts : (d.ledger q).attempts = i := (hstep q (by omega)).1
  rw [Member.verdict, hattempts]
  exact hcalm q (by omega) earlier hearlier i hi

theorem filter_reached_calls (services : List Scripted) (d : Diary)
    (place : Nat) (scrobble : Scrobble)
    (hmem : place ∈ (d.reached (membersOf services)).map (·.place)) :
    ((d.reached (membersOf services)).map fun m => (m.place, scrobble)).filter
      (fun call => call.1 = place) = [(place, scrobble)] := by
  have hnodup : ((d.reached (membersOf services)).map (·.place)).Nodup := by
    have hall : ((membersOf services).map (·.place)).Nodup := by
      rw [List.nodup_iff_pairwise_ne, List.pairwise_map]
      exact (membersOf_distinct services).imp fun h => h.symm
    exact hall.sublist ((List.take_sublist _ _).map _)
  have hone :
      ((d.reached (membersOf services)).map (·.place)).filter (· = place) =
        [place] := by
    rw [List.filter_eq, List.count_eq_one_of_mem hnodup hmem]
    rfl
  calc
    _ = (((d.reached (membersOf services)).map (·.place)).filter (· = place)).map
          fun p => (p, scrobble) := by
      simp only [List.filter_map, List.map_map]
      rfl
    _ = [(place, scrobble)] := by rw [hone, List.map_singleton]

/-- As long as the earlier services do not crash, a service keeps in step. -/
theorem inStep_before {n : Nat} (hplace : place < services.length)
    (hcalm : CalmBefore services place n) (hi : i ≤ n)
    (hturn : ((lineUp services).turns scrobbles .blank)[i]? = some turn) :
    ∀ p ≤ place, InStep scrobbles p i turn.before := by
  refine Submitter.turns_induction
    (motive := fun i d => i ≤ n → ∀ p ≤ place, InStep scrobbles p i d)
    ?_ ?_ hturn hi
  · intro _ p _
    exact ⟨rfl, rfl⟩
  · intro j earlier hearlier hbefore hj p hp
    have hstep := hbefore (by omega)
    obtain ⟨hfollows, hattempts⟩ :=
      follows_scripts_of_mem (List.mem_of_getElem? hearlier)
    obtain ⟨service, hservice⟩ : ∃ service, services[p]? = some service :=
      ⟨services[p], List.getElem?_eq_getElem (by omega)⟩
    have hreached := mem_reached_of_inStep hservice hp hcalm (by omega) hstep
    have hmem : p ∈ (earlier.before.reached (membersOf services)).map (·.place) :=
      List.mem_map.mpr ⟨_, hreached, rfl⟩
    have hscrobble : scrobbles[j]? = some earlier.scrobble := by
      rw [← Submitter.turns_map_scrobble (lineUp services) scrobbles .blank,
        List.getElem?_map, hearlier, Option.map_some]
    constructor
    · rw [hattempts, if_pos hmem, (hstep p hp).1]
    · rw [hfollows.calls, List.filter_append, (hstep p hp).2,
        filter_reached_calls services _ p _ hmem, List.take_add_one, hscrobble,
        List.map_append]
      rfl

/-! ## Failures have no influence on the calls -/

/-- Two services crash at the same attempts; at the others they may accept or
fail as they like. -/
def Scripted.CrashAlike (s t : Scripted) : Prop :=
  ∀ n, verdictAt s.script n = .crash ↔ verdictAt t.script n = .crash

/-- Members at the same places that crash alike are reached alike. -/
theorem reached_places_eq {members members' : List Member} {d d' : Diary}
    (h : List.Forall₂ (fun m m' => m.place = m'.place ∧
      (m.verdict d = .crash ↔ m'.verdict d' = .crash)) members members') :
    (d.reached members).map (·.place) = (d'.reached members').map (·.place) := by
  induction h with
  | nil => rfl
  | @cons m m' rest rest' hfirst hrest ih =>
      obtain ⟨hplace, hcrash⟩ := hfirst
      by_cases hverdict : m.verdict d = .crash
      · rw [Diary.reached_cons_of_crash hverdict,
          Diary.reached_cons_of_crash (hcrash.mp hverdict)]
        simp [hplace]
      · rw [Diary.reached_cons_of_ne_crash hverdict,
          Diary.reached_cons_of_ne_crash (mt hcrash.mpr hverdict)]
        simp [hplace, ih]

theorem reached_places_eq_of_crashAlike {d d' : Diary}
    (halike : List.Forall₂ Scripted.CrashAlike services others)
    (hattempts : ∀ place,
      (d.ledger place).attempts = (d'.ledger place).attempts) :
    (d.reached (membersOf services)).map (·.place) =
      (d'.reached (membersOf others)).map (·.place) := by
  apply reached_places_eq
  rw [List.forall₂_iff_get] at halike ⊢
  obtain ⟨hlength, hget⟩ := halike
  refine ⟨by simpa [membersOf] using hlength, ?_⟩
  intro p hp hp'
  simp only [membersOf, List.get_eq_getElem, List.getElem_mapIdx, Member.verdict,
    hattempts p, true_and]
  exact hget p (by simpa [membersOf] using hp) (by simpa [membersOf] using hp') _

theorem calls_eq_of_crashAlike
    (halike : List.Forall₂ Scripted.CrashAlike services others)
    (scrobbles : List Scrobble) {d d' : Diary} (hcalls : d.calls = d'.calls)
    (hattempts : ∀ place,
      (d.ledger place).attempts = (d'.ledger place).attempts) :
    ((lineUp services).turns scrobbles d).map (fun turn => turn.after.calls) =
      ((lineUp others).turns scrobbles d').map fun turn => turn.after.calls := by
  induction scrobbles generalizing d d' with
  | nil => rfl
  | cons scrobble rest ih =>
      let turn : Turn Diary := ⟨scrobble, d, ((lineUp services).submit scrobble).run d⟩
      let turn' : Turn Diary := ⟨scrobble, d', ((lineUp others).submit scrobble).run d'⟩
      have hrun : turn.run = ((lineUp services).submit scrobble).run d := rfl
      have hrun' : turn'.run = ((lineUp others).submit scrobble).run d' := rfl
      obtain ⟨hfollows, hnext⟩ := follows_scripts_of_run services hrun
      obtain ⟨hfollows', hnext'⟩ := follows_scripts_of_run others hrun'
      have hplaces := reached_places_eq_of_crashAlike halike hattempts
      have hmade :
          (d.reached (membersOf services)).map (fun m => (m.place, scrobble)) =
            (d'.reached (membersOf others)).map fun m => (m.place, scrobble) := by
        have := congrArg (List.map fun place => (place, scrobble)) hplaces
        simpa [List.map_map, Function.comp_def] using this
      have hafter : turn.after.calls = turn'.after.calls := by
        rw [hfollows.calls, hfollows'.calls, hcalls, hmade]
      have hcounters : ∀ place, (turn.after.ledger place).attempts =
          (turn'.after.ledger place).attempts := by
        intro place
        rw [hnext, hnext', hattempts, hplaces]
      simp only [Submitter.turns, List.map_cons]
      exact congrArg₂ List.cons hafter (ih hafter hcounters)

end Run

/-- In a run over scrobbles each turn calls the services up to the first that
crashes, tells their failures and ends as their scripts say.  As long as no
earlier service crashes, the attempts of a service are those of the scrobbles
in their order.  Who is called with which scrobble depends on the crashes
alone, and so on no failure. -/
theorem bundle_follows_scripts (services : List Scripted)
    (scrobbles : List Scrobble) :
    ((lineUp services).turns scrobbles .blank).map Turn.scrobble = scrobbles ∧
    (∀ turn ∈ (lineUp services).turns scrobbles .blank,
      turn.FollowsScripts services) ∧
    (∀ i turn place,
      ((lineUp services).turns scrobbles .blank)[i]? = some turn →
      place < services.length → CalmBefore services place i →
      (turn.before.ledger place).attempts = i ∧
      turn.before.calls.filter (fun call => call.1 = place) =
        (scrobbles.take i).map fun scrobble => (place, scrobble)) ∧
    ∀ others, List.Forall₂ Scripted.CrashAlike services others →
      ((lineUp services).turns scrobbles .blank).map
          (fun turn => turn.after.calls) =
        ((lineUp others).turns scrobbles .blank).map
          fun turn => turn.after.calls := by
  refine ⟨Submitter.turns_map_scrobble _ _ _, ?_, ?_, ?_⟩
  · intro turn hturn
    exact (follows_scripts_of_mem hturn).1
  · intro i turn place hturn hplace hcalm
    exact inStep_before hplace hcalm (Nat.le_refl i) hturn place (Nat.le_refl _)
  · intro others halike
    exact calls_eq_of_crashAlike halike scrobbles rfl fun _ => rfl

/-- A service that fails and then crashes, one that accepts everything, and
one that fails for a reason. -/
def unevenServices : List Scripted :=
  [⟨"first", [.refuse (.plain "busy"), .crash]⟩, ⟨"second", []⟩,
    ⟨"third", [.refuse ⟨"lost", ["no route"]⟩]⟩]

/-- Two tracks that were heard one after the other. -/
def twoScrobbles : List Scrobble :=
  [⟨"Artist", "First", 245, ⟨0, 0⟩, "Album", ""⟩,
    ⟨"Artist", "Second", 180, ⟨245, 0⟩, "", ""⟩]

/-- The second service was called in the turn before the crash of the first
one, and then it is not; both failures of the first turn are told. -/
theorem unevenServices_second_in_step :
    ∃ before after,
      (lineUp unevenServices).turns twoScrobbles .blank = [before, after] ∧
      CalmBefore unevenServices 1 1 ∧
      (after.before.ledger 1).attempts = 1 ∧
      after.before.calls.filter (fun call => call.1 = 1) =
        (twoScrobbles.take 1).map (fun scrobble => (1, scrobble)) ∧
      before.ending =
        .failed (.plain "Submission failed for first, third") ∧
      before.run.lines.map (·.text) = ["first: busy", "third: lost: no route"] ∧
      after.ending = .crashed ∧
      after.after.calls.map Prod.fst = [0, 1, 2, 0] := by
  have hcalm : CalmBefore unevenServices 1 1 := by
    intro p hp service hservice j hj
    obtain rfl : p = 0 := by omega
    obtain rfl : j = 0 := by omega
    obtain rfl : ⟨"first", [.refuse (.plain "busy"), .crash]⟩ = service :=
      Option.some.inj hservice
    decide
  have hstep := (bundle_follows_scripts unevenServices twoScrobbles).2.2.1
    1 _ 1 rfl (by decide) hcalm
  exact ⟨_, _, rfl, hcalm, hstep.1, hstep.2, rfl, rfl, rfl, rfl⟩

end ScrobbleRelay.Service
