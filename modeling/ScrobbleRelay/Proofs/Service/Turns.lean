import ScrobbleRelay.Service.Submitter

/-!
# Runs of a submitter

A submitter is given scrobbles one after the other.  Each submission is a
turn, which begins in the world that the turn before it left, however that
one ended.
-/

namespace ScrobbleRelay.Service

variable {σ : Type}

/-- One submission: the scrobble, the world before it, and what it did. -/
structure Turn (σ : Type) where
  scrobble : Scrobble
  before : σ
  run : Run Failure σ Unit

namespace Turn

def after (turn : Turn σ) : σ := turn.run.world

def ending (turn : Turn σ) : Ending Failure Unit := turn.run.ending

end Turn

namespace Submitter

/-- The turns of a submitter on scrobbles, from a world on. -/
def turns (s : Submitter σ) : List Scrobble → σ → List (Turn σ)
  | [], _ => []
  | scrobble :: rest, world =>
    let run := (s.submit scrobble).run world
    ⟨scrobble, world, run⟩ :: s.turns rest run.world

variable {s : Submitter σ} {scrobbles : List Scrobble} {world : σ}

/-- Every turn is the submission of its scrobble in the world before it. -/
theorem run_of_mem_turns {turn : Turn σ}
    (h : turn ∈ s.turns scrobbles world) :
    turn.run = (s.submit turn.scrobble).run turn.before := by
  induction scrobbles generalizing world with
  | nil => simp [turns] at h
  | cons scrobble rest ih =>
      rcases List.mem_cons.mp h with rfl | hrest
      · rfl
      · exact ih hrest

theorem turns_map_scrobble (s : Submitter σ) (scrobbles : List Scrobble)
    (world : σ) :
    (s.turns scrobbles world).map Turn.scrobble = scrobbles := by
  induction scrobbles generalizing world with
  | nil => rfl
  | cons scrobble rest ih => simp [turns, ih]

/-- What holds of the first world, and after a turn whenever it held before
it, holds before every turn. -/
theorem turns_induction {motive : Nat → σ → Prop}
    (start : motive 0 world)
    (step : ∀ i turn, (s.turns scrobbles world)[i]? = some turn →
      motive i turn.before → motive (i + 1) turn.after)
    {i : Nat} {turn : Turn σ}
    (h : (s.turns scrobbles world)[i]? = some turn) :
    motive i turn.before := by
  induction scrobbles generalizing world motive i with
  | nil => simp [turns] at h
  | cons scrobble rest ih =>
      cases i with
      | zero =>
          obtain rfl : _ = turn := by simpa [turns] using h
          exact start
      | succ i =>
          refine ih (motive := fun i => motive (i + 1)) ?_ ?_ h
          · exact step 0 _ rfl start
          · intro j other hj hbefore
            exact step (j + 1) other hj hbefore

end Submitter

end ScrobbleRelay.Service
