import ScrobbleRelay.Proofs.Service.Requests
import ScrobbleRelay.Proofs.Web.FormTexts

/-!
# Requests that tell about a scrobble

A submission is a request that some account of some service makes for some
scrobble.  Showing a token is none, since it only asks; a login is none
either, since its form names another operation and no other service reads
such a form.
-/

namespace ScrobbleRelay.Service

open Settings (LastfmSettings)
open Web (Request)

namespace Lastfm

theorem sorted_perm (parameters : List (String × String)) :
    (sorted parameters).Perm parameters :=
  List.mergeSort_perm ..

theorem mem_signed {secret operation : String}
    {parameters : List (String × String)} {p : String × String} :
    p ∈ signed secret operation parameters ↔
      p = ("api_sig", signature secret (("method", operation) :: parameters)) ∨
        p = ("method", operation) ∨ p ∈ parameters := by
  simp only [signed, (sorted_perm _).mem_iff, List.mem_cons]

end Lastfm

/-- The bodies by which the services are told about a scrobble. -/
inductive Tells (scrobble : Scrobble) : String → Prop
  | audioscrobbler (account : Settings.AudioscrobblerSettings)
      (session : Audioscrobbler.Session) :
      Tells scrobble (Audioscrobbler.submissionBody account session scrobble)
  | lastfm (account : LastfmSettings) :
      Tells scrobble (Lastfm.scrobbleBody account scrobble)
  | listenbrainz : Tells scrobble (Listenbrainz.submission scrobble).text

def Submits (r : Request) : Prop :=
  r.method = .post ∧ ∃ scrobble, Tells scrobble r.body

theorem not_submits_get {r : Request} (h : r.method = .get) : ¬ Submits r := by
  rintro ⟨hpost, -⟩
  cases h.symm.trans hpost

/-- No service is told about a scrobble by the form of a login. -/
theorem not_tells_loginBody (account : LastfmSettings)
    (username password : String) (scrobble : Scrobble) :
    ¬ Tells scrobble (Lastfm.loginBody account username password) := by
  have hmethod (value : String) :
      ("method", value) ∈ Lastfm.signed account.apiSecret
          "auth.getMobileSession"
          (Lastfm.loginParameters account username password) ↔
        value = "auth.getMobileSession" := by
    simp [Lastfm.mem_signed, Lastfm.loginParameters]
  intro h
  generalize hbody : Lastfm.loginBody account username password = body at h
  cases h with
  | audioscrobbler other session =>
      have hpairs := Web.formText_injective hbody
      rw [hpairs] at hmethod
      simpa [Audioscrobbler.submissionForm] using
        (hmethod "auth.getMobileSession").mpr rfl
  | lastfm other =>
      have hpairs := Web.formText_injective hbody
      rw [hpairs] at hmethod
      have hscrobble := (hmethod _).mp (Lastfm.mem_signed.mpr (.inr (.inl rfl)))
      exact absurd hscrobble (by decide)
  | listenbrainz =>
      apply Web.brace_notMem_formText (Lastfm.signed account.apiSecret
        "auth.getMobileSession" (Lastfm.loginParameters account username password))
      have htext : Web.formText (Lastfm.signed account.apiSecret
          "auth.getMobileSession"
          (Lastfm.loginParameters account username password)) =
        (Listenbrainz.submission scrobble).text := hbody
      rw [htext, Web.Json.text, String.toList_ofList]
      simp [Listenbrainz.submission, Web.Json.chars]

end ScrobbleRelay.Service
