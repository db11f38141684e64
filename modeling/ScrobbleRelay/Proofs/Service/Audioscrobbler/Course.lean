import ScrobbleRelay.Proofs.Service.Audioscrobbler.Answers
import ScrobbleRelay.Proofs.Web.Address

/-!
# The course of one submission

A submission shakes hands if no session is kept, and then posts the scrobble
in the session that is in force.  `Course` lists the ways in which this can
end, each with the two exchanges that were made and the session that is kept
afterwards; `submit` is shown to take one of them.  What is proved about
single submissions and about runs of them only looks at courses.
-/

namespace ScrobbleRelay.Service.Audioscrobbler

open Settings (AudioscrobblerSettings)
open Web (Exchange Followed Network Request Url)

/-! ## The two requests -/

def handshakeRequest (account : AudioscrobblerSettings) (url : Url) : Request :=
  ⟨.get, url.withPairs
    (greeting account.clientId account.clientVersion account.username), none, ""⟩

/-- The request of a submission: the form carries the digest of the digest of
the password, followed by the challenge of the session. -/
def submissionRequest (account : AudioscrobblerSettings) (session : Session)
    (target : Url) (scrobble : Scrobble) : Request :=
  ⟨.post, target, none, Web.formText (submissionForm account.username
    (Digest.md5Hex (Digest.md5Hex account.password ++ session.challenge)) scrobble)⟩

theorem handshake_yields
    (account : AudioscrobblerSettings) {url : Url}
    (hurl : Url.ofText? account.handshakeUrl = some url) (n : Network) :
    ∃ x, Made n (handshakeRequest account url) x ∧
      (handshake account).Yields n (granted? x) (n.after x) := by
  have hread (body : String) (m : Network) :
      ((readHandshake body : Task HandshakeFault Network Session).mapError
        fun fault => Failure.plain fault.message).Yields m (sessionOf? body) m :=
    (readHandshake_yields body m).mapError _
  obtain ⟨x, hmade, hyields⟩ :=
    sent_then_yields hread "Failed to send Audioscrobbler handshake" "handshake"
      (handshakeRequest account url) n
  refine ⟨x, hmade, ?_⟩
  unfold handshake
  apply Task.Yields.log_bind
  rw [Web.demandUrl, hurl]
  exact hyields

theorem post_crashed
    (account : AudioscrobblerSettings) {session : Session} (scrobble : Scrobble)
    (hunread : Url.ofText? session.submitUrl = none) (n : Network) :
    (post account session scrobble).Ends n .crashed n := by
  unfold post
  rw [Web.demandUrl, hunread]
  exact ⟨rfl, rfl⟩

theorem post_yields
    (account : AudioscrobblerSettings) {session : Session} {target : Url}
    (scrobble : Scrobble)
    (htarget : Url.ofText? session.submitUrl = some target) (n : Network) :
    ∃ x, Made n (submissionRequest account session target scrobble) x ∧
      (post account session scrobble).Yields n (receipt? x) (n.after x) := by
  have hread (body : String) (m : Network) :
      (Task.ofExcept ((readReceipt body).mapError fun fault =>
        Failure.plain fault.message)).Yields m (receiptOf? body) m := by
    unfold receiptOf?
    cases readReceipt body with
    | ok receipt => exact ⟨rfl, rfl⟩
    | error fault => exact ⟨_, rfl, rfl⟩
  obtain ⟨x, hmade, hyields⟩ :=
    sent_then_yields hread "Failed to send Audioscrobbler submission" "submission"
      (submissionRequest account session target scrobble) n
  refine ⟨x, hmade, ?_⟩
  unfold post
  rw [Web.demandUrl, htarget]
  exact hyields

/-! ## The course of a submission -/

/-- The ways in which posting a scrobble in a session can end: the exchange
that was made, the ending, and the session that is kept. -/
inductive Posting (account : AudioscrobblerSettings) (session : Session)
    (scrobble : Scrobble) (n : Network) :
    Exchange → Ending Failure Unit → Option Session → Prop
  | crashed (unread : Url.ofText? session.submitUrl = none) :
      Posting account session scrobble n [] .crashed (some session)
  | accepted {target : Url} {x : Exchange}
      (read : Url.ofText? session.submitUrl = some target)
      (made : Made n (submissionRequest account session target scrobble) x)
      (taken : receipt? x = some .accepted) :
      Posting account session scrobble n x (.done ()) (some session)
  | rejected {target : Url} {x : Exchange}
      (read : Url.ofText? session.submitUrl = some target)
      (made : Made n (submissionRequest account session target scrobble) x)
      (taken : receipt? x = some .badAuth) :
      Posting account session scrobble n x
        (.failed (.plain "Audioscrobbler rejected the session (BADAUTH)")) none
  | failed {target : Url} {x : Exchange} {failure : Failure}
      (read : Url.ofText? session.submitUrl = some target)
      (made : Made n (submissionRequest account session target scrobble) x)
      (taken : receipt? x = none) :
      Posting account session scrobble n x (.failed failure) (some session)

/-- How a submission comes by the session to post in, with the exchange of
its handshake. -/
inductive Greeting (account : AudioscrobblerSettings) (url : Url)
    (before : Uplink) : Exchange → Option Session → Prop
  | kept {session : Session} (known : before.session = some session) :
      Greeting account url before [] (some session)
  | shaken {x : Exchange} (unknown : before.session = none)
      (made : Made before.network (handshakeRequest account url) x) :
      Greeting account url before x (granted? x)

/-- The ways in which a submission can go: the exchanges of its handshake and
of its posting, its ending, and the session that is kept. -/
inductive Course (account : AudioscrobblerSettings) (url : Url)
    (scrobble : Scrobble) (before : Uplink) :
    Exchange → Exchange → Ending Failure Unit → Option Session → Prop
  | refused {h : Exchange} {failure : Failure}
      (greeting : Greeting account url before h none) :
      Course account url scrobble before h [] (.failed failure) none
  | posted {h p : Exchange} {session : Session} {ending : Ending Failure Unit}
      {kept : Option Session}
      (greeting : Greeting account url before h (some session))
      (posting : Posting account session scrobble (before.network.after h) p
        ending kept) :
      Course account url scrobble before h p ending kept

/-! ## Every submission takes a course -/

theorem onNetwork_ends {α : Type} {t : Task Failure Network α} {n m : Network}
    {ending : Ending Failure α} (h : t.Ends n ending m)
    (kept : Option Session) :
    (onNetwork t).Ends ⟨n, kept⟩ ending ⟨m, kept⟩ :=
  Task.Ends.within h

/-- The part of a submission that comes after its session is known. -/
def submitIn (account : AudioscrobblerSettings) (scrobble : Scrobble)
    (session : Session) : Task Failure Uplink Unit := do
  match ← onNetwork (post account session scrobble) with
  | .accepted =>
    Task.log .info .audioscrobbler
      s!"Audioscrobbler: Scrobbled {scrobble.artist} - {scrobble.title}"
  | .badAuth =>
    Task.change fun uplink => { uplink with session := none }
    Task.fail (.plain "Audioscrobbler rejected the session (BADAUTH)")

theorem submit_eq (account : AudioscrobblerSettings) (scrobble : Scrobble) :
    submit account scrobble =
      currentSession account >>= submitIn account scrobble := rfl

/-- The session is the one that is kept, or the one that a handshake grants;
it is kept from then on. -/
theorem currentSession_greeting
    (account : AudioscrobblerSettings) {url : Url}
    (hurl : Url.ofText? account.handshakeUrl = some url) (before : Uplink) :
    ∃ h session?, Greeting account url before h session? ∧
      before.network.Gives h ∧
      (currentSession account).Yields before session?
        ⟨before.network.after h, session?⟩ := by
  obtain ⟨n, kept⟩ := before
  cases kept with
  | some session =>
      refine ⟨[], some session, .kept rfl, n.gives_nil, ?_⟩
      rw [Network.after_nil]
      exact ⟨rfl, rfl⟩
  | none =>
      obtain ⟨h, hmade, hyields⟩ := handshake_yields account hurl n
      refine ⟨h, granted? h, .shaken rfl hmade, hmade.1, ?_⟩
      have hnow :
          (Task.world : Task Failure Uplink Uplink).Ends ⟨n, none⟩
            (.done ⟨n, none⟩) ⟨n, none⟩ :=
        .world _
      cases hgranted : granted? h with
      | none =>
          rw [hgranted] at hyields
          obtain ⟨error, hfailed⟩ := hyields
          have hnet := onNetwork_ends hfailed none
          exact ⟨error, hnow.bind hnet.bind_failed⟩
      | some session =>
          rw [hgranted] at hyields
          have hnet := onNetwork_ends hyields none
          have hkeep :
              (do
                Task.change fun uplink : Uplink =>
                  { uplink with session := some session }
                return session : Task Failure Uplink Session).Ends
                ⟨n.after h, none⟩ (.done session) ⟨n.after h, some session⟩ :=
            .bind (.change _ _) (.pure _ _)
          exact hnow.bind (hnet.bind hkeep)

theorem submitIn_posting
    (account : AudioscrobblerSettings) (session : Session) (scrobble : Scrobble)
    (n : Network) :
    ∃ p ending kept, Posting account session scrobble n p ending kept ∧
      n.Gives p ∧
      (submitIn account scrobble session).Ends ⟨n, some session⟩ ending
        ⟨n.after p, kept⟩ := by
  cases hread : Url.ofText? session.submitUrl with
  | none =>
      refine ⟨[], .crashed, some session, .crashed hread, n.gives_nil, ?_⟩
      have hpost := post_crashed account scrobble hread n
      rw [Network.after_nil]
      exact (onNetwork_ends hpost _).bind_crashed
  | some target =>
      obtain ⟨p, hmade, hyields⟩ := post_yields account scrobble hread n
      cases htaken : receipt? p with
      | none =>
          rw [htaken] at hyields
          obtain ⟨error, hfailed⟩ := hyields
          refine ⟨p, .failed error, some session, .failed hread hmade htaken,
            hmade.1, ?_⟩
          exact (onNetwork_ends hfailed _).bind_failed
      | some receipt =>
          rw [htaken] at hyields
          have hnet := onNetwork_ends hyields (some session)
          cases receipt with
          | accepted =>
              refine ⟨p, .done (), some session, .accepted hread hmade htaken,
                hmade.1, ?_⟩
              exact hnet.bind (.log _ _ _ _)
          | badAuth =>
              refine ⟨p, _, none, .rejected hread hmade htaken, hmade.1, ?_⟩
              exact hnet.bind (.bind (.change _ _) (.fail _ _))

theorem submit_course
    (account : AudioscrobblerSettings) {url : Url}
    (hurl : Url.ofText? account.handshakeUrl = some url)
    (scrobble : Scrobble) (before : Uplink) :
    ∃ h p ending kept, Course account url scrobble before h p ending kept ∧
      before.network.Gives (h ++ p) ∧
      (submit account scrobble).Ends before ending
        ⟨before.network.after (h ++ p), kept⟩ := by
  obtain ⟨h, session?, hgreeting, hgives, hyields⟩ :=
    currentSession_greeting account hurl before
  rw [submit_eq]
  cases session? with
  | none =>
      obtain ⟨error, hfailed⟩ := hyields
      refine ⟨h, [], .failed error, none, .refused hgreeting, ?_, ?_⟩
      · rw [List.append_nil]
        exact hgives
      · rw [List.append_nil]
        exact hfailed.bind_failed
  | some session =>
      obtain ⟨p, ending, kept, hposting, hnext, hends⟩ :=
        submitIn_posting account session scrobble (before.network.after h)
      refine ⟨h, p, ending, kept, .posted hgreeting hposting,
        hgives.append hnext, ?_⟩
      rw [Network.after_append]
      exact Task.Ends.bind hyields hends

/-! ## What every course has -/

variable {account : AudioscrobblerSettings} {url : Url} {session : Session}
  {scrobble : Scrobble} {before : Uplink} {n : Network} {h p : Exchange}
  {ending : Ending Failure Unit} {session? kept : Option Session}

namespace Greeting

/-- The session is the one that was kept or else the one that was granted. -/
theorem session?_eq (hgreeting : Greeting account url before h session?) :
    session? = before.session.or (granted? h) := by
  cases hgreeting with
  | kept known => simp [known]
  | shaken unknown made => simp [unknown]

/-- There was no handshake, or its exchange is that of its request. -/
theorem eq_nil_or_followed (hgreeting : Greeting account url before h session?) :
    h = [] ∨ ∃ result, Followed Web.greatestRedirections
      (handshakeRequest account url) h result := by
  cases hgreeting with
  | kept known => exact .inl rfl
  | shaken unknown made =>
      obtain ⟨-, result, hsent⟩ := made
      exact hsent.eq_nil_or_followed.imp_right fun hx => ⟨result, hx⟩

/-- A handshake is heard of exactly when no session was kept and a server can
be reached. -/
theorem ne_nil_iff (hgreeting : Greeting account url before h session?)
    (hsend : Web.checkUrl url = .ok ()) :
    h ≠ [] ↔ before.session = none ∧ before.network.reachable = true := by
  cases hgreeting with
  | kept known => simp [known]
  | shaken unknown made =>
      obtain ⟨-, result, hsent⟩ := made
      have hrequest :
          Web.checkUrl (handshakeRequest account url).url = .ok () := by
        rw [handshakeRequest, Url.checkUrl_withPairs]
        exact hsend
      simp [unknown, hsent.ne_nil_iff hrequest]

end Greeting

namespace Posting

end Posting

namespace Course

theorem greeting (hcourse : Course account url scrobble before h p ending kept) :
    ∃ session?, Greeting account url before h session? := by
  cases hcourse with
  | refused greeting => exact ⟨_, greeting⟩
  | posted greeting posting => exact ⟨_, greeting⟩

end Course

end ScrobbleRelay.Service.Audioscrobbler
