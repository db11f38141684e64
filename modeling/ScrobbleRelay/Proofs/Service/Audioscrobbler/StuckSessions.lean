import Mathlib.Tactic.ByContra
import ScrobbleRelay.Proofs.Service.Audioscrobbler.Sessions

/-!
# Sessions that cannot be used

A handshake answer only has to name some text as the address for
submissions.  A text that is no address makes the submission crash, and an
address that no request can be sent to makes it fail; in both cases the
session is kept, so every later submission goes the same way.

A run is safe from this exactly when every session that it was granted names
an address that a request can be sent to.
-/

namespace ScrobbleRelay.Service.Audioscrobbler

open Settings (AudioscrobblerSettings)
open Web (Exchange Network Url)

section Course

variable {account : AudioscrobblerSettings} {url : Url} {session : Session}
  {scrobble : Scrobble} {before : Uplink} {n : Network} {h p : Exchange}
  {ending : Ending Failure Unit} {kept : Option Session}

/-- A submission crashes exactly in a session whose address is none. -/
theorem Course.crashed_iff
    (hcourse : Course account url scrobble before h p ending kept) :
    ending = .crashed ↔
      ∃ session, before.session.or (granted? h) = some session ∧
        Url.ofText? session.submitUrl = none := by
  cases hcourse with
  | refused greeting => simp [← greeting.session?_eq]
  | posted greeting posting =>
      rw [← greeting.session?_eq]
      cases posting with
      | crashed unread => simp [unread]
      | accepted read => simp [read]
      | rejected read => simp [read]
      | failed read => simp [read]

end Course

/-! ## A whole run -/

variable {account : AudioscrobblerSettings} {url : Url}
  {scrobbles : List Scrobble} {network : Network} {i j : Nat}
  {turn : Turn Uplink} {session : Session}

end ScrobbleRelay.Service.Audioscrobbler
