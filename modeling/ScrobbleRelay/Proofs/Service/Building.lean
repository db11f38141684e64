import ScrobbleRelay.Proofs.Service.Audioscrobbler.Course
import ScrobbleRelay.Proofs.Service.Telling
import ScrobbleRelay.Proofs.Service.Vouching
import ScrobbleRelay.Proofs.Settings.Stored

/-!
# Building the services

The services of settings are built by showing the tokens of the ListenBrainz
accounts that are switched on, one after the other, up to the first that the
server does not vouch for.  `Introduced` says what was said on the network and
how it ended; nothing else is asked while the services are built.  Where all
tokens were accepted there is one service for each account that can be used,
and accounts of accepted settings have their credentials.
-/

namespace ScrobbleRelay.Service

open Audioscrobbler (Made Uplink)
open Listenbrainz (Usable Vouched)
open Settings (AudioscrobblerSettings LastfmSettings ListenbrainzSettings)
open Web (Exchange Network)

/-! ## Showing all tokens -/

/-- Building ends with services, with the rejection of the account that was not
vouched for, or by a crash, as showing the tokens did. -/
def EndsLike {α : Type} : Ending ListenbrainzSettings Unit → Ending Failure α → Prop
  | .done _, ending => ∃ value, ending = .done value
  | .failed account, ending =>
    ∃ fault, ending = .failed (Listenbrainz.rejection account fault)
  | .crashed, ending => ending = .crashed

/-- What comes after the tokens were shown, and only adds a value, ends like
that. -/
theorem EndsLike.bind {α β : Type} {t : Task Failure Uplink α}
    {k : α → Task Failure Uplink β} {u v : Uplink}
    {introduction : Ending ListenbrainzSettings Unit} {ending : Ending Failure α}
    (h : EndsLike introduction ending) (hends : t.Ends u ending v)
    (hnext : ∀ value, ∃ result, (k value).Ends v (.done result) v) :
    ∃ result, (t >>= k).Ends u result v ∧ EndsLike introduction result := by
  rcases introduction with _ | account | _
  · obtain ⟨value, rfl⟩ := h
    obtain ⟨result, hresult⟩ := hnext value
    exact ⟨_, hends.bind hresult, result, rfl⟩
  · obtain ⟨fault, rfl⟩ := h
    exact ⟨_, hends.bind_failed, fault, rfl⟩
  · obtain rfl : ending = .crashed := h
    exact ⟨_, hends.bind_crashed, rfl⟩

namespace Account

def name : Account → String
  | audioscrobbler _ => "Audioscrobbler"
  | lastfm _ => "Last.fm"
  | listenbrainz account => s!"ListenBrainz ({account.name})"

end Account

end ScrobbleRelay.Service
