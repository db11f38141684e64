import ScrobbleRelay.Service.Submitter

/-!
# Bundles of submitters

A bundle hands each scrobble to all of its submitters, in their order.  The failure of one does not
keep the scrobble from the next ones, but a crash does.  A bundle fails when any of its submitters
did, and then it names them.
-/

namespace ScrobbleRelay.Service

variable {σ : Type}

def bundleName (submitters : List (Submitter σ)) : String :=
  if submitters.isEmpty then "no services" else ", ".intercalate (submitters.map (·.name))

/-- Hand a scrobble to each submitter; the names of those that failed, each failure with a line. -/
def submitEach (scrobble : Scrobble) :
    List (Submitter σ) → Task Failure σ (List String)
  | [] => pure []
  | submitter :: rest => do
    match ← (submitter.submit scrobble).caught with
    | .ok () => submitEach scrobble rest
    | .error failure =>
      Task.log .error .services (submitter.name ++ ": " ++ failure.oneLine)
      let failed ← submitEach scrobble rest
      return submitter.name :: failed

def bundleFailure (failed : List String) : Failure :=
  .plain ("Submission failed for " ++ ", ".intercalate failed)

/-- Some submitters as one. -/
def Submitter.bundle (submitters : List (Submitter σ)) : Submitter σ where
  name := bundleName submitters
  submit scrobble := do
    let failed ← submitEach scrobble submitters
    if failed.isEmpty then pure () else Task.fail (bundleFailure failed)

end ScrobbleRelay.Service
