import ScrobbleRelay.Proofs.Ends
import ScrobbleRelay.Proofs.Web.Exchange
import ScrobbleRelay.Service.Audioscrobbler.Client

/-!
# What answers of an Audioscrobbler server say

An answer to a handshake gives a session or none, and an answer to a
submission gives a receipt or none.  Both are read off the last reply of an
exchange, which has to be a success that can be read.  Reading neither
crashes nor touches the network.
-/

namespace ScrobbleRelay.Service.Audioscrobbler

open Web (Exchange Network Request Response)

variable {σ : Type}

/-- The session of a handshake answer: the first line tells of success, and
the next two, the challenge and the address for submissions, are not empty. -/
def sessionOf? (body : String) : Option Session := do
  let answer := answerLines body
  let _ ← (readStatus (answer[0]?.getD "")).toOption
  let challenge ← (demandLine .noChallenge answer[1]?).toOption
  let submitUrl ← (demandLine .noUrl answer[2]?).toOption
  return ⟨challenge, submitUrl⟩

def receiptOf? (body : String) : Option Receipt := (readReceipt body).toOption

def granted? (x : Exchange) : Option Session := x.text?.bind sessionOf?

def receipt? (x : Exchange) : Option Receipt := x.text?.bind receiptOf?

@[simp] theorem granted?_nil : granted? [] = none := rfl

@[simp] theorem receipt?_nil : receipt? [] = none := rfl

theorem readHandshake_yields (body : String) (w : σ) :
    (readHandshake body : Task HandshakeFault σ Session).Yields w
      (sessionOf? body) w := by
  unfold readHandshake sessionOf?
  apply Task.Yields.bind (Task.Yields.ofExcept _ w)
  rintro (_ | url)
  rotate_left
  apply Task.Yields.log_bind
  all_goals
    apply Task.Yields.bind (Task.Yields.ofExcept _ w)
    intro challenge
    apply Task.Yields.bind (Task.Yields.ofExcept _ w)
    intro submitUrl
    cases (answerLines body)[3]?.bind (Text.after? "INTERVAL") with
    | none => exact Task.Yields.pure _ w
    | some interval => exact .log_bind _ _ _ (Task.Yields.pure _ w)

/-- A success that can be read yields its text; every other answer fails. -/
theorem bodyOf_yields (activity : String) (response : Response) (w : σ) :
    (bodyOf activity response : Task Failure σ String).Yields w
      response.successText? w := by
  unfold bodyOf Response.successText?
  by_cases hsuccess : response.isSuccess = true
  · rw [if_pos hsuccess, if_pos hsuccess]
    cases htext : response.text with
    | ok text => exact Task.Yields.pure text w
    | error e => exact Task.Yields.fail _ w
  · rw [if_neg hsuccess, if_neg hsuccess]
    exact Task.Yields.fail _ w

/-! ## Exchanges whose last answer is read -/

/-- An attempt to send a request, with the replies that the network gave. -/
def Made (n : Network) (r : Request) (x : Exchange) : Prop :=
  n.Gives x ∧ ∃ result, Web.Sent n r x result

/-- Sending a request and reading the text of its answer is one exchange, and
yields what is read off that exchange. -/
theorem sent_then_yields {α : Type} {read : String → Option α}
    {reading : String → Task Failure Network α}
    (hread : ∀ body n, (reading body).Yields n (read body) n)
    (words activity : String) (r : Request) (n : Network) :
    ∃ x, Made n r x ∧
      (do
        let response ← sent words r
        let body ← bodyOf activity response
        reading body).Yields n (x.text?.bind read) (n.after x) := by
  obtain ⟨x, result, hsent, hgives, hsend⟩ := Web.send_yields r n
  refine ⟨x, ⟨hgives, result, hsent⟩, ?_⟩
  rw [hsent.text?_eq, Option.bind_assoc]
  apply (hsend.mapError _).bind
  intro response
  apply (bodyOf_yields activity response _).bind
  intro body
  exact hread body _

end ScrobbleRelay.Service.Audioscrobbler
