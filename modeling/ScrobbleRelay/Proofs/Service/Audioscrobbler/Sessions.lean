import ScrobbleRelay.Proofs.Service.Audioscrobbler.Course
import ScrobbleRelay.Proofs.Service.Turns

/-!
# Sessions over a run

A client that starts without a session is given scrobbles one after the
other.  The requests of a turn are a handshake and a submission, told apart
by their methods, and each is looked at with its replies.

The session that is kept belongs to the history of the run: it is the one of
the last handshake that succeeded, and no answer has taken it back since.
Every turn keeps this, however it ends.
-/

namespace ScrobbleRelay.Service

open Audioscrobbler (Uplink Session answerLines)
open Web (Exchange)

namespace Turn

/-- The requests of a turn that reached a server, with their replies. -/
def exchange (turn : Turn Uplink) : Exchange :=
  turn.before.network.heard turn.after.network

/-- The handshake of a turn, with the redirections that were followed. -/
def handshake (turn : Turn Uplink) : Exchange :=
  turn.exchange.filter fun hop => hop.1.method = .get

/-- The submission of a turn, with the redirections that were followed. -/
def submission (turn : Turn Uplink) : Exchange :=
  turn.exchange.filter fun hop => hop.1.method = .post

/-- The session that the handshake of a turn granted. -/
def granted? (turn : Turn Uplink) : Option Session :=
  Audioscrobbler.granted? turn.handshake

/-- The answer to the submission of a turn says that the session is no longer
known. -/
def Rejected (turn : Turn Uplink) : Prop :=
  turn.submission.text?.bind (fun body => (answerLines body)[0]?) =
    some "BADAUTH"

instance (turn : Turn Uplink) : Decidable turn.Rejected :=
  inferInstanceAs (Decidable (_ = _))

end Turn

namespace Audioscrobbler

open Settings (AudioscrobblerSettings)
open Web (Followed Network Url)

variable {account : AudioscrobblerSettings} {url : Url}
  {scrobbles : List Scrobble} {world : Uplink} {turn : Turn Uplink}

/-- What the handshake of the turn with a number granted. -/
def grantedAt (turns : List (Turn Uplink)) (i : Nat) : Option Session :=
  turns[i]?.bind Turn.granted?

/-- The submission of the turn with a number was answered `BADAUTH`. -/
def RejectedAt (turns : List (Turn Uplink)) (i : Nat) : Prop :=
  ∃ turn, turns[i]? = some turn ∧ turn.Rejected

/-- During a turn a session is in force that was granted in that turn or in
an earlier one: no later handshake granted any, and no answer after it took
it back. -/
def InForce (turns : List (Turn Uplink)) (i : Nat) (session : Session) : Prop :=
  ∃ j ≤ i, grantedAt turns j = some session ∧
    (∀ k, j < k → k ≤ i → grantedAt turns k = none) ∧
    ∀ k, j ≤ k → k < i → ¬ RejectedAt turns k

variable {turns : List (Turn Uplink)} {i : Nat} {session : Session}

/-- A session that was not taken back stays in force where no other one is
granted. -/
theorem InForce.next (h : InForce turns i session)
    (hkept : ¬ RejectedAt turns i) (hnone : grantedAt turns (i + 1) = none) :
    InForce turns (i + 1) session := by
  obtain ⟨j, hj, hgranted, hlast, hheld⟩ := h
  refine ⟨j, by omega, hgranted, ?_, ?_⟩
  · intro k hlt hle
    by_cases hk : k = i + 1
    · rw [hk]
      exact hnone
    · exact hlast k hlt (by omega)
  · intro k hle hlt
    by_cases hk : k = i
    · rw [hk]
      exact hkept
    · exact hheld k hle (by omega)

end Audioscrobbler

end ScrobbleRelay.Service
