import ScrobbleRelay.Proofs.Service.Audioscrobbler.Sessions
import ScrobbleRelay.Proofs.Web.Abreast

/-!
# What a password shows

Two clients whose accounts differ in the password alone are given the same
scrobbles, over networks with the same replies.  Everything that anybody can
see of them is the same, turn by turn, but for the tokens in their
submissions, and a token is made of the digest of the password and of a
challenge that both clients were given.

No branch of a client looks at the password, so each task of one client has
its twin in the other.  The two networks are abreast since the beginning of a
turn: what is asked of them meanwhile differs in tokens only.
-/

namespace ScrobbleRelay.Service

open Audioscrobbler (Uplink)
open Web (Request Url)

/-- Two requests that differ at most in their tokens.  A handshake is the same
for both.  The forms of two submissions have the same names and values in the
same order, but for the values of `s`: these are made of the digests of two
passwords and of one challenge. -/
inductive AlikeButToken (digest digest' : String) : Request → Request → Prop
  | handshake (url : Url) :
      AlikeButToken digest digest' ⟨.get, url, none, ""⟩ ⟨.get, url, none, ""⟩
  | submission (url : Url) (front back : List (String × String))
      (challenge : String) (once : ∀ pair ∈ front ++ back, pair.1 ≠ "s") :
      AlikeButToken digest digest'
        ⟨.post, url, none, Web.formText
          (front ++ ("s", Digest.md5Hex (digest ++ challenge)) :: back)⟩
        ⟨.post, url, none, Web.formText
          (front ++ ("s", Digest.md5Hex (digest' ++ challenge)) :: back)⟩

/-- Two turns that show the same but for the tokens of their submissions:
they end alike, with the same error if there is one, write the same lines,
keep the same session, and say the same to a server that answers the same. -/
structure Turn.AlikeButToken (digest digest' : String)
    (turn turn' : Turn Uplink) : Prop where
  scrobble : turn.scrobble = turn'.scrobble
  ending : turn.ending = turn'.ending
  lines : turn.run.lines = turn'.run.lines
  session : turn.after.session = turn'.after.session
  exchange : List.Forall₂
    (fun hop hop' =>
      Service.AlikeButToken digest digest' hop.1 hop'.1 ∧ hop.2 = hop'.2)
    turn.exchange turn'.exchange

namespace AlikeButToken

variable {digest digest' : String} {r r' : Request}

theorem addressWise : Web.AddressWise (AlikeButToken digest digest') where
  url_eq h := by
    cases h with
    | handshake => rfl
    | submission => rfl
  elsewhere h url := by
    cases h with
    | handshake => exact .handshake url
    | submission _ front back challenge once =>
        exact .submission url front back challenge once

theorem eq_of_digest_eq (h : AlikeButToken digest digest r r') : r = r' := by
  cases h with
  | handshake => rfl
  | submission => rfl

end AlikeButToken

namespace Audioscrobbler

open Settings (AudioscrobblerSettings)
open Web (Network Response)

/-! ## Steps that do not know the account -/

section Answers

variable {σ : Type} {R : σ → σ → Prop}

theorem bodyOf_twin (activity : String) (response : Response) :
    (bodyOf activity response).Twin R (bodyOf activity response) := by
  unfold bodyOf
  cases response.isSuccess with
  | true => exact .ofExcept _
  | false => exact .fail _

theorem readHandshake_twin (body : String) :
    (readHandshake body : Task HandshakeFault σ Session).Twin R
      (readHandshake body) := by
  unfold readHandshake
  apply Task.Twin.bind (.ofExcept _)
  rintro (_ | url)
  rotate_left
  apply Task.Twin.bind (.log _ _ _)
  intro _
  all_goals
    apply Task.Twin.bind (.ofExcept _)
    intro challenge
    apply Task.Twin.bind (.ofExcept _)
    intro submitUrl
    cases (answerLines body)[3]?.bind (Text.after? "INTERVAL") with
    | none => exact .done _
    | some interval =>
        exact Task.Twin.bind (.log _ _ _) fun _ => .done _

end Answers

/-! ## The steps of two clients -/

/-- Two clients with the same session on networks that have been asked the
same, but for tokens, since two earlier moments. -/
structure Uplink.Abreast (digest digest' : String) (past past' : List Request)
    (uplink uplink' : Uplink) : Prop where
  network : uplink.network.Abreast (AlikeButToken digest digest') past past'
    uplink'.network
  session : uplink.session = uplink'.session

/-- What two clients were asked before does not matter from now on. -/
theorem Uplink.Abreast.restart {digest digest' : String}
    {past past' : List Request} {uplink uplink' : Uplink}
    (h : uplink.Abreast digest digest' past past' uplink') :
    uplink.Abreast digest digest' uplink.network.requests
      uplink'.network.requests uplink' where
  network := .start h.network.reachable h.network.replies
  session := h.session

section Clients

variable {digest digest' : String} {past past' : List Request}

theorem sent_twin (words : String) {r r' : Request}
    (h : AlikeButToken digest digest' r r') :
    (sent words r).Twin
      (Network.Abreast (AlikeButToken digest digest') past past')
      (sent words r') :=
  .mapError _ (Web.send_twin AlikeButToken.addressWise h)

theorem onNetwork_twin {ε α : Type} {t t' : Task ε Network α}
    (h : t.Twin (Network.Abreast (AlikeButToken digest digest') past past') t') :
    (onNetwork t).Twin (Uplink.Abreast digest digest' past past')
      (onNetwork t') :=
  h.within (fun _ _ huplink => huplink.network)
    fun _ _ _ _ huplink hnetwork => ⟨hnetwork, huplink.session⟩

/-- Two clients that keep the same session stay abreast. -/
theorem change_session_twin {ε : Type} (session? : Option Session) :
    (Task.change (fun uplink => { uplink with session := session? }) :
      Task ε Uplink Unit).Twin (Uplink.Abreast digest digest' past past')
      (.change fun uplink => { uplink with session := session? }) :=
  .change fun _ _ huplink => ⟨huplink.network, rfl⟩

variable (account : AudioscrobblerSettings) (other : String)

theorem submission_alike (session : Session) (scrobble : Scrobble) (url : Url) :
    AlikeButToken (Digest.md5Hex account.password) (Digest.md5Hex other)
      ⟨.post, url, none, submissionBody account session scrobble⟩
      ⟨.post, url, none,
        submissionBody { account with password := other } session scrobble⟩ := by
  refine .submission url [("u", account.username)]
    ((submissionForm account.username "" scrobble).drop 2) session.challenge ?_
  simp [submissionForm]

theorem handshake_twin :
    (handshake account).Twin
      (Network.Abreast (AlikeButToken digest digest') past past')
      (handshake { account with password := other }) := by
  unfold handshake
  refine .bind (.log _ _ _) ?_
  intro _
  refine .bind (Web.demandUrl_twin _) ?_
  intro url
  refine .bind (sent_twin _ (.handshake _)) ?_
  intro response
  refine .bind (bodyOf_twin _ response) ?_
  intro body
  exact .mapError _ (readHandshake_twin body)

theorem post_twin (session : Session) (scrobble : Scrobble) :
    (post account session scrobble).Twin
      (Network.Abreast
        (AlikeButToken (Digest.md5Hex account.password) (Digest.md5Hex other))
        past past')
      (post { account with password := other } session scrobble) := by
  unfold post
  refine .bind (Web.demandUrl_twin _) ?_
  intro url
  refine .bind
    (sent_twin _ (submission_alike account other session scrobble url)) ?_
  intro response
  refine .bind (bodyOf_twin _ response) ?_
  intro body
  exact .ofExcept _

theorem currentSession_twin :
    (currentSession account).Twin (Uplink.Abreast digest digest' past past')
      (currentSession { account with password := other }) := by
  refine .world_bind ?_
  intro uplink uplink' huplink
  rw [← huplink.session]
  cases uplink.session with
  | some session => exact .done session
  | none =>
      refine .bind (onNetwork_twin (handshake_twin account other)) ?_
      intro session
      refine .bind (change_session_twin (some session)) ?_
      intro _
      exact .done session

theorem submit_twin (scrobble : Scrobble) :
    (submit account scrobble).Twin
      (Uplink.Abreast (Digest.md5Hex account.password) (Digest.md5Hex other)
        past past')
      (submit { account with password := other } scrobble) := by
  refine .bind (currentSession_twin account other) ?_
  intro session
  refine .bind (onNetwork_twin (post_twin account other session scrobble)) ?_
  intro receipt
  cases receipt with
  | accepted => exact .log _ _ _
  | badAuth => exact .bind (change_session_twin none) fun _ => .fail _

/-! ## Whole runs -/

/-- One turn of two clients that are abreast: nothing that shows differs but
the tokens. -/
theorem turn_alike (scrobble : Scrobble) {uplink uplink' : Uplink}
    (h : uplink.Abreast (Digest.md5Hex account.password)
      (Digest.md5Hex other) past past' uplink') :
    Turn.AlikeButToken (Digest.md5Hex account.password) (Digest.md5Hex other)
      ⟨scrobble, uplink, (submit account scrobble).run uplink⟩
      ⟨scrobble, uplink',
        (submit { account with password := other } scrobble).run uplink'⟩ := by
  obtain ⟨hending, hlines, hafter⟩ :=
    submit_twin account other scrobble uplink uplink' h.restart
  exact {
    scrobble := rfl
    ending := hending
    lines := hlines
    session := hafter.session
    exchange := hafter.network.heard h.network.replies }

/-- Each turn leaves both clients abreast since its own beginning. -/
theorem turns_alike (scrobbles : List Scrobble) {uplink uplink' : Uplink}
    (h : uplink.Abreast (Digest.md5Hex account.password)
      (Digest.md5Hex other) past past' uplink') :
    List.Forall₂
      (Turn.AlikeButToken (Digest.md5Hex account.password)
        (Digest.md5Hex other))
      ((client account).turns scrobbles uplink)
      ((client { account with password := other }).turns scrobbles uplink') := by
  induction scrobbles generalizing uplink uplink' past past' with
  | nil => exact .nil
  | cons scrobble rest ih =>
      have hafter :=
        (submit_twin account other scrobble uplink uplink' h.restart).world
      exact .cons (turn_alike account other scrobble h) (ih hafter)

/-- Where two passwords have one digest, not even the tokens differ. -/
theorem exchanges_eq_of_digest_eq
    (hdigest : Digest.md5Hex account.password = Digest.md5Hex other)
    (scrobbles : List Scrobble) (before : Uplink) :
    ((client account).turns scrobbles before).map Turn.exchange =
      ((client { account with password := other }).turns scrobbles before).map
        Turn.exchange := by
  have hbefore : before.Abreast (Digest.md5Hex account.password)
      (Digest.md5Hex other) before.network.requests before.network.requests
      before := ⟨.start rfl rfl, rfl⟩
  have halike := turns_alike account other scrobbles hbefore
  rw [hdigest] at halike
  rw [← List.forall₂_eq_eq_eq, List.forall₂_map_left_iff,
    List.forall₂_map_right_iff]
  refine halike.imp ?_
  intro turn turn' hturn
  rw [← List.forall₂_eq_eq_eq]
  refine hturn.exchange.imp ?_
  rintro ⟨r, reply⟩ ⟨r', reply'⟩ ⟨hrequest, hreply⟩
  exact Prod.ext hrequest.eq_of_digest_eq hreply

/-- Two clients whose accounts differ in the password alone, given the same
scrobbles and the same replies, do the same turn by turn, but for the tokens
of their submissions, and these depend on the passwords through their digests
alone. -/
theorem password_shows_in_tokens_only (scrobbles : List Scrobble)
    (before : Uplink) :
    List.Forall₂
      (Turn.AlikeButToken (Digest.md5Hex account.password)
        (Digest.md5Hex other))
      ((client account).turns scrobbles before)
      ((client { account with password := other }).turns scrobbles before) :=
  turns_alike account other scrobbles ⟨.start rfl rfl, rfl⟩

end Clients

end Audioscrobbler

end ScrobbleRelay.Service
