import ScrobbleRelay.Proofs.Digest.Hex
import ScrobbleRelay.Proofs.Service.Submissions
import ScrobbleRelay.Proofs.Text.Digits

/-!
# The form of a submission

Whatever its texts hold, a submission posts a form that reads as the eight
pairs of its scrobble, in their order and each of them once.  No text can
therefore reach into another field, and scrobbles with the same form agree in
all that the form tells.
-/

namespace ScrobbleRelay.Service.Audioscrobbler

open Settings (AudioscrobblerSettings)
open Web (Network Request)

theorem readPairs?_submissionBody (account : AudioscrobblerSettings)
    (session : Session) (scrobble : Scrobble) :
    Web.readPairs? (submissionBody account session scrobble) =
      some [("u", account.username),
        ("s", sessionToken account.password session.challenge),
        ("a[0]", scrobble.artist), ("t[0]", scrobble.title),
        ("b[0]", scrobble.album), ("m[0]", scrobble.mbid),
        ("l[0]", toString scrobble.length.toInt),
        ("i[0]", scrobble.datePlayed)] :=
  Web.readPairs?_formText _

/-- What the form of a submission tells about a scrobble. -/
structure AgreeInForm (s t : Scrobble) : Prop where
  artist : s.artist = t.artist
  title : s.title = t.title
  album : s.album = t.album
  mbid : s.mbid = t.mbid
  length : s.length = t.length
  date : s.datePlayed = t.datePlayed

theorem length_eq_of_text {s t : Scrobble}
    (h : toString s.length.toInt = toString t.length.toInt) :
    s.length = t.length := by
  have hread := Text.intOfDigits?_toString s.length.toInt
  rw [h, Text.intOfDigits?_toString] at hread
  exact Int64.toInt_inj.mp (Option.some.inj hread).symm

theorem agreeInForm_of_submissionBody {account : AudioscrobblerSettings}
    {session session' : Session} {s t : Scrobble}
    (h : submissionBody account session s = submissionBody account session' t) :
    AgreeInForm s t := by
  have hpairs := Web.formText_injective h
  simp only [submissionForm, List.cons.injEq, Prod.mk.injEq, true_and,
    and_true] at hpairs
  obtain ⟨-, hartist, htitle, halbum, hmbid, hlength, hdate⟩ := hpairs
  exact ⟨hartist, htitle, halbum, hmbid, length_eq_of_text hlength, hdate⟩

/-- Whatever a submission posts is the form of its scrobble in some session. -/
theorem submit_posts (account : AudioscrobblerSettings) (scrobble : Scrobble)
    (u : Uplink) {r : Request}
    (hr : r ∈ u.network.since ((submit account scrobble).run u).world.network)
    (hpost : r.method = .post) :
    ∃ session, r.body = submissionBody account session scrobble := by
  let P (r : Request) : Prop := r.method = .post →
    ∃ session, r.body = submissionBody account session scrobble
  have hget (url : Web.Url) : P ⟨.get, url, none, ""⟩ := by
    rintro ⟨⟩
  have hform (session : Session) (url : Web.Url) :
      P ⟨.post, url, none, submissionBody account session scrobble⟩ :=
    fun _ => ⟨session, rfl⟩
  have hattains := submit_attains account scrobble hget hform hform
  exact (hattains.leads u).of_mem_since hr hpost

/-- Every body that a submission posts reads as eight pairs, each once and in
their order: the user name, a token of thirty-two hexadecimal digits, the texts
of the scrobble as they are, its length, which is read back from its digits,
and its date.  Scrobbles that are submitted by one body agree in all of these,
in whatever sessions. -/
theorem submission_is_eight_pairs (account : AudioscrobblerSettings)
    (scrobble : Scrobble) :
    (∀ (u : Uplink) (r : Request),
      r ∈ u.network.since ((submit account scrobble).run u).world.network →
      r.method = .post →
        ∃ session, r.body = submissionBody account session scrobble) ∧
    (∀ session,
      Web.readPairs? (submissionBody account session scrobble) =
        some [("u", account.username),
          ("s", sessionToken account.password session.challenge),
          ("a[0]", scrobble.artist), ("t[0]", scrobble.title),
          ("b[0]", scrobble.album), ("m[0]", scrobble.mbid),
          ("l[0]", toString scrobble.length.toInt),
          ("i[0]", scrobble.datePlayed)] ∧
      Digest.IsLowerHex 32 (sessionToken account.password session.challenge) ∧
      Text.intOfDigits? (toString scrobble.length.toInt).toList =
        some scrobble.length.toInt) ∧
    ∀ session session' other,
      submissionBody account session scrobble =
          submissionBody account session' other →
        AgreeInForm scrobble other := by
  refine ⟨?_, ?_, ?_⟩
  · intro u r hr hpost
    exact submit_posts account scrobble u hr hpost
  · intro session
    exact ⟨readPairs?_submissionBody account session scrobble,
      Digest.isLowerHex_md5Hex _, Text.intOfDigits?_toString _⟩
  · intro session session' other hbody
    exact agreeInForm_of_submissionBody hbody

/-- A scrobble whose texts are made of the signs of a form, and whose length is
the smallest there is. -/
def separatorScrobble : Scrobble where
  artist := "a[0]=b&t[0]=c"
  title := "100% + \"é\""
  length := Int64.minValue
  playedAt := ⟨1253311654, 0⟩
  album := "&"
  mbid := "="

/-- The same scrobble half a second later, which the form does not tell. -/
def laterScrobble : Scrobble :=
  { separatorScrobble with playedAt := ⟨1253311654, 500000000⟩ }

/-- An account of a user with a separator in the name. -/
def separatorAccount : AudioscrobblerSettings :=
  ⟨true, "u&s", "secret", "http://[::1]/", "tst", "1.0"⟩

/-- A session that was granted before. -/
def openSession : Session := ⟨"challenge", "http://[::1]/submit"⟩

/-- An uplink in an open session, on which the server takes the submission. -/
def openUplink : Uplink where
  network :=
    { reachable := true
      replies := [.answer ⟨200, none, "OK".toUTF8, false⟩]
      requests := [] }
  session := some openSession

/-- The scrobble of separators is posted, and its form has eight pairs. -/
theorem separatorScrobble_is_eight_pairs :
    (∃ r ∈ openUplink.network.since
        ((submit separatorAccount separatorScrobble).run
          openUplink).world.network,
      r.method = .post ∧ ∃ session,
        r.body = submissionBody separatorAccount session separatorScrobble ∧
        Web.readPairs? r.body =
          some [("u", "u&s"), ("s", sessionToken "secret" session.challenge),
            ("a[0]", "a[0]=b&t[0]=c"), ("t[0]", "100% + \"é\""),
            ("b[0]", "&"), ("m[0]", "="), ("l[0]", "-9223372036854775808"),
            ("i[0]", "2009-09-18 22:07:34")]) ∧
    AgreeInForm separatorScrobble laterScrobble := by
  obtain ⟨hposts, hpairs, hagree⟩ :=
    submission_is_eight_pairs separatorAccount separatorScrobble
  have hdate : separatorScrobble.datePlayed = "2009-09-18 22:07:34" := by
    decide +kernel
  have hlater : laterScrobble.datePlayed = "2009-09-18 22:07:34" := by
    decide +kernel
  have hbody : submissionBody separatorAccount openSession separatorScrobble =
      submissionBody separatorAccount openSession laterScrobble := by
    unfold submissionBody submissionForm
    rw [hdate, hlater]
    rfl
  have hsent : ((submit separatorAccount separatorScrobble).run
      openUplink).ending = .done () := by
    decide +kernel
  have hattains := submit_attains (P := fun _ => True)
    (Q := fun r => r.method = .post) separatorAccount separatorScrobble
    (fun _ => trivial) (fun _ _ => trivial) (fun _ _ => rfl)
  obtain ⟨r, hr, hpost⟩ := (hattains.done ⟨hsent, rfl⟩).exists_mem_since
  obtain ⟨session, hform⟩ := hposts openUplink r hr hpost
  refine ⟨⟨r, hr, hpost, session, hform, ?_⟩, hagree _ _ _ hbody⟩
  rw [hform, (hpairs session).1, hdate]
  rfl

end ScrobbleRelay.Service.Audioscrobbler
