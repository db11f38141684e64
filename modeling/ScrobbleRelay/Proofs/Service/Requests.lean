import ScrobbleRelay.Proofs.Service.Audioscrobbler.Answers
import ScrobbleRelay.Proofs.Web.Asking
import ScrobbleRelay.Service.Lastfm.Login
import ScrobbleRelay.Service.Selection

/-!
# What the services ask for

Each client asks for the requests that its protocol has, and for nothing else:
method, credentials and body of whatever it sends are known before it begins,
and only the addresses depend on the answers.  A submission that succeeds has
been heard of.  Building the services only shows tokens.
-/

namespace ScrobbleRelay.Service

open Settings (AudioscrobblerSettings LastfmSettings ListenbrainzSettings)
open Web (Network Request Url)

variable {P Q : Request → Prop}

/-! ## Audioscrobbler -/

namespace Audioscrobbler

/-- One uplink is another one after more requests, all of which have a
property; nothing is said about the session. -/
def Uplink.Asking (P : Request → Prop) (u v : Uplink) : Prop :=
  u.network.Asking P v.network

instance : Std.Refl (Uplink.Asking P) where
  refl u := Std.Refl.refl u.network

instance : IsTrans Uplink (Uplink.Asking P) where
  trans u v w := IsTrans.trans u.network v.network w.network

/-- One uplink is another one after more requests, one of which has a
property. -/
def Uplink.Heard (P : Request → Prop) (u v : Uplink) : Prop :=
  u.network.Heard P v.network

instance : Trans (Uplink.Asking P) (Uplink.Heard Q) (Uplink.Heard Q) where
  trans {u _ w} h hheard :=
    (Trans.trans h hheard : u.network.Heard Q w.network)

instance : Trans (Uplink.Heard Q) (Uplink.Asking P) (Uplink.Heard Q) where
  trans {u _ w} h hasking :=
    (Trans.trans h hasking : u.network.Heard Q w.network)

theorem onNetwork_leads {ε α : Type} {t : Task ε Network α}
    (h : t.Leads (Network.Asking P)) : (onNetwork t).Leads (Uplink.Asking P) :=
  h.within fun _ _ hnetwork => hnetwork

theorem onNetwork_attains {ε α : Type} {t : Task ε Network α}
    (h : t.Attains (Network.Asking P) (Network.Heard Q)) :
    (onNetwork t).Attains (Uplink.Asking P) (Uplink.Heard Q) :=
  h.within (fun _ _ hnetwork => hnetwork) fun _ _ hnetwork => hnetwork

/-- Sending a request and reading its answer asks for that request, and where
there is an answer to be read the request was heard of. -/
theorem sent_then_attains {α : Type} {reading : String → Task Failure Network α}
    {r : Request} (words activity : String) (h : ∀ url, P { r with url })
    (hheard : ∀ url, Q { r with url })
    (hread : ∀ body, (reading body).Leads (Network.Asking P)) :
    (do
      let response ← sent words r
      let body ← bodyOf activity response
      reading body).Attains (Network.Asking P) (Network.Heard Q) := by
  refine Task.Attains.bind_first ((Web.send_attains h hheard).mapError _) ?_
  intro response
  exact Task.Leads.bind (.of_yields (bodyOf_yields activity response)) hread

theorem handshake_leads (account : AudioscrobblerSettings)
    (h : ∀ url, P ⟨.get, url, none, ""⟩) :
    (handshake account).Leads (Network.Asking P) := by
  unfold handshake
  refine Task.Leads.bind (.log _ _ _) ?_
  intro _
  refine Task.Leads.bind (Web.demandUrl_leads _) ?_
  intro url
  refine (sent_then_attains _ _ h h ?_).leads
  intro body
  exact .mapError _ (.of_yields (readHandshake_yields body))

theorem post_attains (account : AudioscrobblerSettings) (session : Session)
    (scrobble : Scrobble)
    (h : ∀ url, P ⟨.post, url, none, submissionBody account session scrobble⟩)
    (hheard : ∀ url,
      Q ⟨.post, url, none, submissionBody account session scrobble⟩) :
    (post account session scrobble).Attains (Network.Asking P)
      (Network.Heard Q) := by
  unfold post
  refine Task.Attains.bind_last (Web.demandUrl_leads _) ?_
  intro url
  exact sent_then_attains _ _ h hheard fun body => .ofExcept _

theorem currentSession_leads (account : AudioscrobblerSettings)
    (h : ∀ url, P ⟨.get, url, none, ""⟩) :
    (currentSession account).Leads (Uplink.Asking P) := by
  refine Task.Leads.bind .world ?_
  intro uplink
  cases uplink.session with
  | some session => exact .pure session
  | none =>
      refine Task.Leads.bind (onNetwork_leads (handshake_leads account h)) ?_
      intro session
      exact Task.Leads.bind (fun u => Std.Refl.refl u.network) fun _ => .pure session

/-- A submission asks for a handshake and for a submission in some session, and
where it succeeds the latter was heard of. -/
theorem submit_attains (account : AudioscrobblerSettings) (scrobble : Scrobble)
    (hget : ∀ url, P ⟨.get, url, none, ""⟩)
    (hpost : ∀ session url,
      P ⟨.post, url, none, submissionBody account session scrobble⟩)
    (hheard : ∀ session url,
      Q ⟨.post, url, none, submissionBody account session scrobble⟩) :
    (submit account scrobble).Attains (Uplink.Asking P) (Uplink.Heard Q) := by
  refine Task.Attains.bind_last (currentSession_leads account hget) ?_
  intro session
  refine Task.Attains.bind_first (onNetwork_attains
    (post_attains account session scrobble (hpost session) (hheard session))) ?_
  intro receipt
  cases receipt with
  | accepted => exact .log _ _ _
  | badAuth => exact Task.Leads.bind (fun u => Std.Refl.refl u.network) fun _ => .fail _

end Audioscrobbler

open Audioscrobbler (Uplink)

theorem shared_attains {s : Submitter Network} {scrobble : Scrobble}
    (h : (s.submit scrobble).Attains (Network.Asking P) (Network.Heard Q)) :
    ((shared s).submit scrobble).Attains (Uplink.Asking P) (Uplink.Heard Q) :=
  Audioscrobbler.onNetwork_attains h

/-! ## Last.fm -/

namespace Lastfm

def callBody (secret operation : String) (parameters : List (String × String)) :
    String :=
  Web.formText (signed secret operation parameters)

theorem call_attains {secret operation : String}
    {parameters : List (String × String)}
    (h : ∀ url, P ⟨.post, url, none, callBody secret operation parameters⟩)
    (hheard : ∀ url,
      Q ⟨.post, url, none, callBody secret operation parameters⟩) :
    (call secret operation parameters).Attains (Network.Asking P)
      (Network.Heard Q) := by
  unfold call
  refine Task.Attains.bind_last (Web.demandUrl_leads _) ?_
  intro url
  refine Task.Attains.bind_first ((Web.send_attains h hheard).mapError _) ?_
  intro response
  split
  · exact .fail _
  · refine Task.Leads.bind (.ofExcept _) ?_
    intro body
    cases Web.Json.ofText? body with
    | some value => exact .pure value
    | none => exact .fail _

def scrobbleBody (account : LastfmSettings) (scrobble : Scrobble) : String :=
  callBody account.apiSecret "track.scrobble"
    (submissionParameters account scrobble)

theorem submit_attains (account : LastfmSettings) (scrobble : Scrobble)
    (h : ∀ url, P ⟨.post, url, none, scrobbleBody account scrobble⟩)
    (hheard : ∀ url, Q ⟨.post, url, none, scrobbleBody account scrobble⟩) :
    (submit account scrobble).Attains (Network.Asking P) (Network.Heard Q) := by
  unfold submit
  apply Task.Attains.bind_first
  · apply Task.Attains.mapError
    refine Task.Attains.bind_first (call_attains h hheard) ?_
    intro answer
    split
    · exact .pure _
    · exact .fail _
  · intro _
    exact .log _ _ _

/-- The body of the call that asks for a session key. -/
def loginBody (account : LastfmSettings) (username password : String) : String :=
  callBody account.apiSecret "auth.getMobileSession"
    (loginParameters account username password)

end Lastfm

/-! ## ListenBrainz -/

namespace Listenbrainz

theorem credentials_leads {ε σ : Type} {R : σ → σ → Prop} [Std.Refl R]
    (token : String) : (credentials token : Task ε σ String).Leads R := by
  simp only [credentials]
  split
  · exact .pure _
  · exact .crash

theorem call_attains {α : Type} (read : Web.Json → Option α)
    (account : ListenbrainzSettings) (method : Web.Method)
    (endpoint body : String)
    (h : ∀ url authorization, P ⟨method, url, some authorization, body⟩)
    (hheard : ∀ url authorization, Q ⟨method, url, some authorization, body⟩) :
    (call read account method endpoint body).Attains (Network.Asking P)
      (Network.Heard Q) := by
  unfold call
  refine Task.Attains.bind_last (Web.demandUrl_leads _) ?_
  intro url
  refine Task.Attains.bind_last (credentials_leads _) ?_
  intro authorization
  refine Task.Attains.bind_first ((Web.send_attains (fun url => h url authorization)
    fun url => hheard url authorization).mapError _) ?_
  intro response
  exact .ofExcept _

theorem submit_attains (account : ListenbrainzSettings) (scrobble : Scrobble)
    (h : ∀ url authorization,
      P ⟨.post, url, some authorization, (submission scrobble).text⟩)
    (hheard : ∀ url authorization,
      Q ⟨.post, url, some authorization, (submission scrobble).text⟩) :
    (submit account scrobble).Attains (Network.Asking P) (Network.Heard Q) := by
  unfold submit
  refine Task.Attains.bind_last (.log _ _ _) ?_
  intro _
  refine Task.Attains.bind_first
    ((call_attains _ account .post _ _ h hheard).mapError _) ?_
  intro _
  exact .log _ _ _

theorem connect_leads (account : ListenbrainzSettings)
    (h : ∀ url authorization, P ⟨.get, url, some authorization, ""⟩) :
    (connect account).Leads (Network.Asking P) := by
  have hauthenticate : (authenticate account).Leads (Network.Asking P) := by
    refine Task.Leads.bind
      (call_attains _ account .get "validate-token" "" h h).leads ?_
    intro report
    split
    · exact .pure _
    · exact .fail _
  refine Task.Leads.bind (hauthenticate.mapError _) ?_
  intro _
  exact .pure _

end Listenbrainz

/-! ## Building the services -/

theorem ofSettings_leads (settings : Settings)
    (h : ∀ url authorization, P ⟨.get, url, some authorization, ""⟩) :
    (ofSettings settings).Leads (Uplink.Asking P) := by
  have hfirst (account) : (ofAudioscrobbler account).Leads (Uplink.Asking P) := by
    cases account with
    | none => exact .pure _
    | some account => exact Task.Leads.bind (.log _ _ _) fun _ => .pure _
  have hsecond (account) : (ofLastfm account).Leads (Uplink.Asking P) := by
    cases account with
    | none => exact .pure _
    | some account =>
        simp only [ofLastfm]
        split
        · exact Task.Leads.bind (.log _ _ _) fun _ => .pure _
        · exact Task.Leads.bind (.log _ _ _) fun _ => .pure _
  have hthird (accounts) : (ofListenbrainz accounts).Leads (Uplink.Asking P) := by
    induction accounts with
    | nil => exact .pure _
    | cons account rest ih =>
        refine Task.Leads.bind (.log _ _ _) ?_
        intro _
        refine Task.Leads.bind
          (Audioscrobbler.onNetwork_leads (Listenbrainz.connect_leads account h)) ?_
        intro submitter
        exact ih.bind fun _ => .pure _
  have hselect : (select settings).Leads (Uplink.Asking P) := by
    apply (hfirst _).bind
    intro first
    apply (hsecond _).bind
    intro second
    apply (hthird _).bind
    intro third
    dsimp only
    split
    · exact Task.Leads.bind (.log _ _ _) fun _ => .pure _
    · exact .pure _
  exact hselect.bind fun _ => .pure _

end ScrobbleRelay.Service
