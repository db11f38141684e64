import ScrobbleRelay.Service.Bundle

/-!
# Runs of a bundle

A bundle hands a scrobble to one submitter after the other.  What it does after
one of them follows from how that one ended.
-/

namespace ScrobbleRelay

open Log (Line)

/-! ## Endings as values -/

/-- An ending with its error turned into a value. -/
def Ending.caught {ε δ α : Type} : Ending ε α → Ending δ (Except ε α)
  | done value => done (.ok value)
  | failed error => done (.error error)
  | crashed => crashed

theorem Task.caught_run {ε δ σ α : Type} {t : Task ε σ α} {w w' : σ}
    {ending : Ending ε α} {lines : List Line}
    (h : t.run w = ⟨ending, w', lines⟩) :
    (t.caught : Task δ σ _).run w = ⟨ending.caught, w', lines⟩ := by
  simp only [Task.run] at h
  cases ending with
  | done value => simp [Task.run, Task.caught, h, Ending.caught]
  | failed error => simp [Task.run, Task.caught, h, Ending.caught]
  | crashed => simp [Task.run, Task.caught, h, Ending.caught]

namespace Service

/-! ## One submitter after the other -/

variable {σ : Type} {scrobble : Scrobble} {submitter : Submitter σ}
  {w w' : σ} {lines : List Line}

theorem submitEach_run_done (rest : List (Submitter σ))
    (h : (submitter.submit scrobble).run w = ⟨.done (), w', lines⟩) :
    (submitEach scrobble (submitter :: rest)).run w =
      let others := (submitEach scrobble rest).run w'
      ⟨others.ending, others.world, lines ++ others.lines⟩ := by
  rw [submitEach, Task.run_bind, Task.caught_run h]
  rfl

theorem submitEach_run_failed (rest : List (Submitter σ)) {failure : Failure}
    (h : (submitter.submit scrobble).run w = ⟨.failed failure, w', lines⟩) :
    let run := (submitEach scrobble (submitter :: rest)).run w
    let others := (submitEach scrobble rest).run w'
    run.world = others.world ∧
    run.lines = lines ++
      ⟨.error, .services, submitter.name ++ ": " ++ failure.oneLine⟩ ::
        others.lines ∧
    (others.ending = .crashed → run.ending = .crashed) ∧
    ∀ names, others.ending = .done names →
      run.ending = .done (submitter.name :: names) := by
  intro run others
  have hrun : run =
      (submitEach scrobble (submitter :: rest)).run w := rfl
  rw [submitEach, Task.run_bind, Task.caught_run h] at hrun
  simp only [Ending.caught, Task.run_bind, Task.run_log, Task.run_pure] at hrun
  cases hothers : others.ending with
  | done names => simp [hrun, others, hothers]
  | failed error => simp [hrun, others, hothers]
  | crashed => simp [hrun, others, hothers]

theorem submitEach_run_crashed (rest : List (Submitter σ))
    (h : (submitter.submit scrobble).run w = ⟨.crashed, w', lines⟩) :
    (submitEach scrobble (submitter :: rest)).run w =
      ⟨.crashed, w', lines⟩ := by
  rw [submitEach, Task.run_bind, Task.caught_run h]
  rfl

theorem bundle_run (submitters : List (Submitter σ))
    (scrobble : Scrobble) (w : σ) :
    let each := (submitEach scrobble submitters).run w
    let run := ((Submitter.bundle submitters).submit scrobble).run w
    run.world = each.world ∧ run.lines = each.lines ∧
    (each.ending = .crashed → run.ending = .crashed) ∧
    ∀ failed, each.ending = .done failed →
      run.ending =
        if failed = [] then .done () else .failed (bundleFailure failed) := by
  intro each run
  have hrun : run =
      (submitEach scrobble submitters >>= fun failed =>
        if failed.isEmpty then pure ()
        else Task.fail (bundleFailure failed) : Task Failure σ Unit).run w := rfl
  rw [Task.run_bind] at hrun
  cases heach : each.ending with
  | done failed =>
      cases failed with
      | nil => simp [hrun, each, heach]
      | cons name names => simp [hrun, each, heach]
  | failed error => simp [hrun, each, heach]
  | crashed => simp [hrun, each, heach]

end Service

end ScrobbleRelay
