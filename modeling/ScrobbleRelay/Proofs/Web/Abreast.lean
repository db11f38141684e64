import Mathlib.Data.List.Forall2
import ScrobbleRelay.Proofs.Twins
import ScrobbleRelay.Proofs.Web.Exchange

/-!
# Networks abreast

Two networks are abreast since two earlier moments if they have the same
replies ahead and what was asked of them since then is related request by
request.  Sending one of two related requests over each of them shows no
difference: which redirections are followed depends on the replies and on the
addresses, and related requests have the same address.
-/

namespace ScrobbleRelay.Web

/-- Two networks with the same replies ahead, which had heard `past` and
`past'` and since then requests that are related one by one. -/
structure Network.Abreast (D : Request → Request → Prop)
    (past past' : List Request) (n n' : Network) : Prop where
  reachable : n.reachable = n'.reachable
  replies : n.replies = n'.replies
  requests : ∃ asked asked', n.requests = past ++ asked ∧
    n'.requests = past' ++ asked' ∧ List.Forall₂ D asked asked'

namespace Network.Abreast

variable {D : Request → Request → Prop} {past past' : List Request}
  {n n' m m' : Network} {r r' : Request}

/-- Networks that differ in their pasts alone are abreast from now on. -/
theorem start (hreachable : n.reachable = n'.reachable)
    (hreplies : n.replies = n'.replies) :
    n.Abreast D n.requests n'.requests n' where
  reachable := hreachable
  replies := hreplies
  requests := ⟨[], [], by simp⟩

/-- Networks stay abreast where each is asked one of two related requests. -/
theorem asked (h : n.Abreast D past past' n') (hr : D r r') :
    Abreast D past past'
      { n with replies := n.replies.tail, requests := n.requests ++ [r] }
      { n' with replies := n'.replies.tail, requests := n'.requests ++ [r'] } where
  reachable := h.reachable
  replies := congrArg List.tail h.replies
  requests := by
    obtain ⟨asked, asked', hpast, hpast', hasked⟩ := h.requests
    refine ⟨asked ++ [r], asked' ++ [r'], ?_, ?_, ?_⟩
    · rw [hpast, List.append_assoc]
    · rw [hpast', List.append_assoc]
    · exact List.rel_append hasked (.cons hr .nil)

/-- What was said since two networks came abreast is related hop by hop, and
the replies are the same. -/
theorem heard (hreplies : n.replies = n'.replies)
    (h : m.Abreast D n.requests n'.requests m') :
    List.Forall₂ (fun hop hop' => D hop.1 hop'.1 ∧ hop.2 = hop'.2)
      (n.heard m) (n'.heard m') := by
  obtain ⟨asked, asked', hasked, hasked', halike⟩ := h.requests
  have hreply : n.replyAt = n'.replyAt := by
    funext i
    rw [replyAt, replyAt, hreplies]
  rw [Network.heard, Network.heard, hasked, hasked', List.drop_left,
    List.drop_left, hreply]
  rw [List.forall₂_iff_get] at halike ⊢
  obtain ⟨hlength, hall⟩ := halike
  constructor
  · simpa using hlength
  · intro i hi hi'
    simpa using hall i (by simpa using hi) (by simpa using hi')

end Network.Abreast

/-- Related requests have the same address, and stay related where both are
sent to another one. -/
structure AddressWise (D : Request → Request → Prop) : Prop where
  url_eq : ∀ {r r'}, D r r' → r.url = r'.url
  elsewhere : ∀ {r r'}, D r r' → ∀ url, D { r with url } { r' with url }

theorem demandUrl_twin {ε σ : Type} {R : σ → σ → Prop} (text : String) :
    (demandUrl text : Task ε σ Url).Twin R (demandUrl text) := by
  unfold demandUrl
  cases Url.ofText? text with
  | none => exact .crash
  | some url => exact .done url

section Sending

variable {D : Request → Request → Prop} {past past' : List Request}
  {r r' : Request}

/-- Whether a request can be sent depends on its address, and the reply on the
network alone. -/
theorem exchange_twin (hD : AddressWise D) (h : D r r') :
    (exchange r).Twin (Network.Abreast D past past') (exchange r') := by
  intro n n' hn
  have hasked := hn.asked h
  simp only [Task.run, exchange, ← hD.url_eq h, ← hn.reachable, ← hn.replies]
    at hasked ⊢
  cases checkUrl r.url with
  | error e => exact ⟨rfl, rfl, hn⟩
  | ok =>
      by_cases hreach : n.reachable = true
      · simp only [if_pos hreach]
        cases n.replies.head?.getD lastReply with
        | hangUp => exact ⟨rfl, rfl, hasked⟩
        | answer response => exact ⟨rfl, rfl, hasked⟩
      · simp only [if_neg hreach]
        exact ⟨rfl, rfl, hn⟩

/-- The replies lead both requests on to the same addresses. -/
theorem sendFrom_twin (left : Nat) (hD : AddressWise D) (h : D r r') :
    (sendFrom left r).Twin (Network.Abreast D past past')
      (sendFrom left r') := by
  induction left generalizing r r' with
  | zero =>
      rw [sendFrom, sendFrom]
      refine .bind (exchange_twin hD h) ?_
      intro response
      cases response.isRedirection with
      | true => exact .fail WebError.tooManyRedirections
      | false => exact .done response
  | succ left ih =>
      rw [sendFrom, sendFrom]
      refine .bind (exchange_twin hD h) ?_
      intro response
      cases response.isRedirection with
      | true =>
          rw [← hD.url_eq h]
          refine .bind (.ofExcept _) ?_
          intro url
          exact ih (hD.elsewhere h url)
      | false => exact .done response

theorem send_twin (hD : AddressWise D) (h : D r r') :
    (send r).Twin (Network.Abreast D past past') (send r') :=
  sendFrom_twin greatestRedirections hD h

end Sending

end ScrobbleRelay.Web
