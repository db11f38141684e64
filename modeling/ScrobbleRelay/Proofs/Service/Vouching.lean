import ScrobbleRelay.Proofs.Service.Audioscrobbler.Answers
import ScrobbleRelay.Service.Listenbrainz

/-!
# Servers that vouch for a token

A client of ListenBrainz is built by one exchange in which its token is shown.
The server vouches for the token where the last answer of that exchange says
that it is valid and whose it is, and then the client is there; otherwise
building it fails and names the instance.  An account whose address is none, or
whose token may not stand in the head of a request, shows nothing to anybody.
-/

namespace ScrobbleRelay.Service.Listenbrainz

open Audioscrobbler (Made)
open Settings (ListenbrainzSettings)
open Web (Exchange Json Network Request Response Url)

/-- The address at which the token of an account is shown. -/
def validationUrl? (account : ListenbrainzSettings) : Option Url :=
  Url.ofText? (root account.apiUrl ++ "validate-token")

/-- The request that shows the token of an account. -/
def validation (account : ListenbrainzSettings) (url : Url) : Request :=
  ⟨.get, url, some ("Token " ++ account.token), ""⟩

/-- An account whose token can be shown. -/
structure Usable (account : ListenbrainzSettings) : Prop where
  address : (validationUrl? account).isSome = true
  token : Web.isHeaderText ("Token " ++ account.token) = true

/-- An exchange at whose end the server says that a token is valid and whose it
is. -/
def Vouched (x : Exchange) : Prop :=
  ∃ response body value report, x.final? = some response ∧
    response.isRefusal = false ∧ response.text = .ok body ∧
    Json.ofText? body = some value ∧
    TokenReport.ofJson? value = some report ∧
    report.valid = true ∧ report.userName.isSome = true

/-- The failure to build the client of an account. -/
def rejection (account : ListenbrainzSettings) (fault : Fault) : Failure :=
  fault.failure.context
    s!"Failed to authenticate with ListenBrainz ({account.name})"

/-! ## Showing a token -/

/-- Only an answer that is no refusal, and whose text is JSON of the expected
form, says anything. -/
theorem answerOf_eq_ok_iff {α : Type} {read : Json → Option α}
    {response : Response} {report : α} :
    answerOf read response = .ok report ↔
      response.isRefusal = false ∧ ∃ body value, response.text = .ok body ∧
        Json.ofText? body = some value ∧ read value = some report := by
  rw [answerOf, bind_eq_ok_iff]
  constructor
  · rintro ⟨body, hbody, hanswer⟩
    rw [mapError_eq_ok_iff] at hbody
    split at hanswer
    · cases hanswer
    next value hvalue =>
    split at hanswer
    · split at hanswer <;> cases hanswer
    next haccepted =>
    split at hanswer
    · next found hread =>
        cases hanswer
        exact ⟨by simpa using haccepted, body, value, hbody, hvalue, hread⟩
    · cases hanswer
  · rintro ⟨haccepted, body, value, hbody, hvalue, hread⟩
    refine ⟨body, mapError_eq_ok_iff.mpr hbody, ?_⟩
    simp only [hvalue, haccepted, hread]
    rfl

/-- What the server says at the end of an exchange about a token. -/
def reportIn? (x : Exchange) : Option TokenReport :=
  x.final?.bind fun response => (answerOf TokenReport.ofJson? response).toOption

theorem vouched_iff {x : Exchange} :
    Vouched x ↔ ∃ report, reportIn? x = some report ∧ report.vouches = true := by
  simp only [reportIn?, Option.bind_eq_some_iff, toOption_eq_some_iff,
    answerOf_eq_ok_iff, TokenReport.vouches, Bool.and_eq_true]
  constructor
  · rintro ⟨response, body, value, report, hfinal, haccepted, hbody, hvalue,
      hread, hvouches⟩
    exact ⟨report, ⟨response, hfinal, haccepted, body, value, hbody, hvalue,
      hread⟩, hvouches⟩
  · rintro ⟨report, ⟨response, hfinal, haccepted, body, value, hbody, hvalue,
      hread⟩, hvouches⟩
    exact ⟨response, body, value, report, hfinal, haccepted, hbody, hvalue,
      hread, hvouches⟩

variable {account : ListenbrainzSettings}

theorem demandUrl_ends {url : Url} (hurl : validationUrl? account = some url)
    (n : Network) :
    (Web.demandUrl (root account.apiUrl ++ "validate-token") :
      Task Fault Network Url).Ends n (.done url) n := by
  rw [Web.demandUrl, ← validationUrl?, hurl]
  exact .pure url n

/-- Showing a token is one exchange, and is done where the server vouches for
the token. -/
theorem authenticate_yields {url : Url}
    (hurl : validationUrl? account = some url)
    (htoken : Web.isHeaderText ("Token " ++ account.token) = true)
    (n : Network) :
    ∃ x, Made n (validation account url) x ∧
      (authenticate account).Yields n
        ((reportIn? x).bind fun report =>
          if report.vouches = true then some () else none)
        (n.after x) := by
  obtain ⟨x, result, hsent, hgives, hsend⟩ :=
    Web.send_yields (validation account url) n
  refine ⟨x, ⟨hgives, result, hsent⟩, ?_⟩
  have hcredentials :
      (credentials account.token : Task Fault Network String).Ends n
        (.done ("Token " ++ account.token)) n := by
    rw [credentials, if_pos htoken]
    exact .pure _ n
  have hcall :
      (call TokenReport.ofJson? account .get "validate-token" "").Yields n
        (reportIn? x) (n.after x) := by
    rw [reportIn?, hsent.final?_eq]
    refine Task.Yields.done_bind (demandUrl_ends hurl n)
      (.done_bind hcredentials ?_)
    apply (hsend.mapError _).bind
    intro response
    exact .ofExcept _ _
  apply hcall.bind
  intro report
  split
  · exact .pure () _
  · exact .fail _ _

/-! ## Building a client -/

/-- The client of a usable account is built where the server vouches for its
token, and otherwise the failure names the instance. -/
theorem connect_ends (h : Usable account) (n : Network) :
    ∃ url x, validationUrl? account = some url ∧
      Made n (validation account url) x ∧
      ((Vouched x ∧ (connect account).Ends n (.done (client account)) (n.after x)) ∨
        (¬ Vouched x ∧ ∃ fault, (connect account).Ends n
          (.failed (rejection account fault)) (n.after x))) := by
  obtain ⟨url, hurl⟩ := Option.isSome_iff_exists.mp h.address
  obtain ⟨x, hmade, hyields⟩ := authenticate_yields hurl h.token n
  refine ⟨url, x, hurl, hmade, ?_⟩
  by_cases hvouched : Vouched x
  · obtain ⟨report, hreport, hvouches⟩ := vouched_iff.mp hvouched
    rw [hreport, Option.bind_some, if_pos hvouches] at hyields
    left
    exact ⟨hvouched, (Task.Ends.mapError _ hyields).bind (.pure _ _)⟩
  · right
    refine ⟨hvouched, ?_⟩
    have hnone :
        ((reportIn? x).bind fun report =>
          if report.vouches = true then some () else none) = none := by
      rw [Option.bind_eq_none_iff]
      intro report hreport
      exact if_neg fun hvouches =>
        hvouched (vouched_iff.mpr ⟨report, hreport, hvouches⟩)
    rw [hnone] at hyields
    obtain ⟨fault, hfailed⟩ := hyields
    exact ⟨fault, (Task.Ends.mapError _ hfailed).bind_failed⟩

end ScrobbleRelay.Service.Listenbrainz
