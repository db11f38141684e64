import ScrobbleRelay.Proofs.Ends
import ScrobbleRelay.Web.Http

/-!
# Exchanges

A request and the redirections that are followed from it make one exchange:
the requests that reached a server, each with its reply.  `Followed` says
which exchanges and which results a request can have, and `send` is shown to
make such an exchange and no other.  What an exchange gave is read off its
last reply.
-/

namespace ScrobbleRelay.Web

/-- The requests that reached a server, each with its reply. -/
abbrev Exchange := List (Request × Reply)

/-- The text of an answer, where it is a success that can be read. -/
def Response.successText? (response : Response) : Option String :=
  if response.isSuccess then response.text.toOption else none

theorem Response.successText?_eq_none {response : Response}
    (h : response.isRedirection = true) : response.successText? = none := by
  simp only [Response.isRedirection, List.contains_eq_mem, decide_eq_true_eq,
    List.mem_cons, List.not_mem_nil, or_false] at h
  rcases h with h | h | h | h | h <;>
    simp [Response.successText?, Response.isSuccess, h]

/-- The text of the last reply, where it is a success that can be read. -/
def Exchange.text? (x : Exchange) : Option String :=
  match x.getLast? with
  | some (_, .answer response) => response.successText?
  | _ => none

/-- The answer that ends an exchange: the last reply, unless it sends the client
elsewhere. -/
def Exchange.final? (x : Exchange) : Option Response :=
  match x.getLast? with
  | some (_, .answer response) =>
    if response.isRedirection then none else some response
  | _ => none

theorem Exchange.text?_eq_bind (x : Exchange) :
    x.text? = x.final?.bind Response.successText? := by
  unfold Exchange.text? Exchange.final?
  split
  · next response hlast =>
      by_cases hfurther : response.isRedirection = true
      · rw [if_pos hfurther, Response.successText?_eq_none hfurther]
        rfl
      · rw [if_neg hfurther]
        rfl
  · rfl

/-- The exchange of one request and its result, where at most `left`
redirections are followed: each of them is asked for in place of the address
before it, and nothing else of the request changes. -/
inductive Followed : Nat → Request → Exchange → Except WebError Response → Prop
  | refused {left : Nat} {r : Request} {e : WebError}
      (unsendable : checkUrl r.url = .error e) :
      Followed left r [] (.error e)
  | hungUp {left : Nat} {r : Request}
      (sendable : checkUrl r.url = .ok ()) :
      Followed left r [(r, .hangUp)] (.error .hungUp)
  | answered {left : Nat} {r : Request} {response : Response}
      (sendable : checkUrl r.url = .ok ())
      (final : response.isRedirection = false) :
      Followed left r [(r, .answer response)] (.ok response)
  | exhausted {r : Request} {response : Response}
      (sendable : checkUrl r.url = .ok ())
      (further : response.isRedirection = true) :
      Followed 0 r [(r, .answer response)] (.error .tooManyRedirections)
  | lost {left : Nat} {r : Request} {response : Response} {e : WebError}
      (sendable : checkUrl r.url = .ok ())
      (further : response.isRedirection = true)
      (nowhere : redirected r.url response.location = .error e) :
      Followed (left + 1) r [(r, .answer response)] (.error e)
  | onward {left : Nat} {r : Request} {response : Response} {url : Url}
      {rest : Exchange} {result : Except WebError Response}
      (sendable : checkUrl r.url = .ok ())
      (further : response.isRedirection = true)
      (there : redirected r.url response.location = .ok url)
      (next : Followed left { r with url } rest result) :
      Followed (left + 1) r ((r, .answer response) :: rest) result

namespace Followed

variable {left : Nat} {r : Request} {x : Exchange}
  {result : Except WebError Response}

/-- A request that can be sent reaches a server first. -/
theorem head?_eq_of_sendable
    (h : Followed left r x result) (hsend : checkUrl r.url = .ok ()) :
    x.head?.map Prod.fst = some r := by
  cases h with
  | refused unsendable => simp [hsend] at unsendable
  | hungUp => rfl
  | answered => rfl
  | exhausted => rfl
  | lost => rfl
  | onward => rfl

theorem ne_nil_of_ok {response : Response}
    (h : Followed left r x (.ok response)) : x ≠ [] := by
  cases h <;> simp

/-- Requests of an exchange differ from the first one in their addresses
alone. -/
theorem eq_with_url (h : Followed left r x result) :
    ∀ hop ∈ x, hop.1 = { r with url := hop.1.url } := by
  induction h with
  | refused => simp
  | hungUp => simp
  | answered => simp
  | exhausted => simp
  | lost => simp
  | onward sendable further there next ih =>
      intro hop hhop
      rcases List.mem_cons.mp hhop with rfl | hrest
      · rfl
      · exact ih hop hrest

theorem final?_eq (h : Followed left r x result) :
    x.final? = result.toOption := by
  induction h with
  | refused => rfl
  | hungUp => rfl
  | answered sendable final =>
      simp [Exchange.final?, final, Except.toOption]
  | exhausted sendable further =>
      simp [Exchange.final?, further, Except.toOption]
  | lost sendable further =>
      simp [Exchange.final?, further, Except.toOption]
  | @onward left r response url rest result sendable further there next ih =>
      rw [← ih]
      cases rest with
      | nil => simp [Exchange.final?, further]
      | cons hop others => simp [Exchange.final?]

end Followed

/-! ## Exchanges on a network -/

namespace Network

/-- The reply that a network gives to the request with a number. -/
def replyAt (n : Network) (i : Nat) : Reply := n.replies[i]?.getD lastReply

def after (n : Network) (x : Exchange) : Network :=
  { n with
    replies := n.replies.drop x.length
    requests := n.requests ++ x.map Prod.fst }

/-- The replies of an exchange are those that the network gives next. -/
def Gives (n : Network) (x : Exchange) : Prop :=
  ∀ i (h : i < x.length), x[i].2 = n.replyAt i

/-- What was said between two states of a network. -/
def heard (before after : Network) : Exchange :=
  (after.requests.drop before.requests.length).zipIdx.map
    fun (r, i) => (r, before.replyAt i)

@[simp] theorem after_nil (n : Network) : n.after [] = n := by
  simp [after]

@[simp] theorem after_reachable (n : Network) (x : Exchange) :
    (n.after x).reachable = n.reachable := rfl

@[simp] theorem after_requests (n : Network) (x : Exchange) :
    (n.after x).requests = n.requests ++ x.map Prod.fst := rfl

theorem after_append (n : Network) (x y : Exchange) :
    n.after (x ++ y) = (n.after x).after y := by
  simp [after]

theorem replyAt_after (n : Network) (x : Exchange) (i : Nat) :
    (n.after x).replyAt i = n.replyAt (x.length + i) := by
  simp [replyAt, after]

theorem gives_nil (n : Network) : n.Gives [] := by
  intro i hi
  simp at hi

theorem gives_singleton {n : Network} {hop : Request × Reply}
    (h : hop.2 = n.replyAt 0) : n.Gives [hop] := by
  intro i hi
  obtain rfl : i = 0 := by simpa using hi
  simpa using h

theorem Gives.append {n : Network} {x y : Exchange}
    (hx : n.Gives x) (hy : (n.after x).Gives y) : n.Gives (x ++ y) := by
  intro i hi
  by_cases hlt : i < x.length
  · rw [List.getElem_append_left hlt]
    exact hx i hlt
  · have hge : x.length ≤ i := Nat.le_of_not_lt hlt
    have hrest : i - x.length < y.length := by
      simp only [List.length_append] at hi
      omega
    rw [List.getElem_append_right hge, hy _ hrest, replyAt_after]
    congr 1
    omega

/-- What is said between a network and the same network after an exchange is
that exchange. -/
theorem heard_after {n : Network} {x : Exchange} (h : n.Gives x) :
    n.heard (n.after x) = x := by
  apply List.ext_getElem
  · simp [heard]
  · intro i hi hx
    have hreply := h i hx
    simp [heard, ← hreply]

end Network

/-! ## What sending does -/

/-- What an attempt to send a request gives: a network out of reach hears
nothing of it, and any other network has an exchange. -/
def Sent (n : Network) (r : Request) (x : Exchange)
    (result : Except WebError Response) : Prop :=
  (n.reachable = true ∧ Followed greatestRedirections r x result) ∨
    (n.reachable = false ∧ x = [] ∧ ∃ e, result = .error e)

/-- One request over a network in reach: it cannot be sent, the server hangs
up, or the server answers. -/
theorem exchange_run_cases (r : Request) {n : Network}
    (hreach : n.reachable = true) :
    (∃ e, checkUrl r.url = .error e ∧
      (exchange r).run n = ⟨.failed e, n, []⟩) ∨
    (checkUrl r.url = .ok () ∧ n.replyAt 0 = .hangUp ∧
      (exchange r).run n = ⟨.failed .hungUp, n.after [(r, .hangUp)], []⟩) ∨
    ∃ response, checkUrl r.url = .ok () ∧ n.replyAt 0 = .answer response ∧
      (exchange r).run n =
        ⟨.done response, n.after [(r, .answer response)], []⟩ := by
  cases hsend : checkUrl r.url with
  | error e => exact .inl ⟨e, rfl, by simp [exchange, Task.run, hsend]⟩
  | ok =>
      right
      have hreply : n.replies.head?.getD lastReply = n.replyAt 0 := by
        cases hreplies : n.replies <;> simp [Network.replyAt, hreplies]
      cases hnext : n.replyAt 0 with
      | hangUp =>
          left
          simp [exchange, Task.run, hsend, hreach, hreply, hnext, Network.after]
      | answer response =>
          right
          refine ⟨response, rfl, rfl, ?_⟩
          simp [exchange, Task.run, hsend, hreach, hreply, hnext, Network.after]

theorem exchange_run_unreachable (r : Request) {n : Network}
    (hreach : n.reachable = false) :
    ∃ e, (exchange r).run n = ⟨.failed e, n, []⟩ := by
  cases hsend : checkUrl r.url with
  | error e => exact ⟨e, by simp [exchange, Task.run, hsend]⟩
  | ok => exact ⟨.unreachable, by simp [exchange, Task.run, hsend, hreach]⟩

section SendFrom

variable {left : Nat} {r : Request} {n m : Network} {response : Response}

theorem sendFrom_run_failed {e : WebError}
    (h : (exchange r).run n = ⟨.failed e, m, []⟩) :
    (sendFrom left r).run n = ⟨.failed e, m, []⟩ := by
  rw [sendFrom, Task.run_bind, h]

theorem sendFrom_run_final
    (h : (exchange r).run n = ⟨.done response, m, []⟩)
    (hfinal : response.isRedirection = false) :
    (sendFrom left r).run n = ⟨.done response, m, []⟩ := by
  rw [sendFrom, Task.run_bind, h]
  simp [hfinal]

theorem sendFrom_run_exhausted
    (h : (exchange r).run n = ⟨.done response, m, []⟩)
    (hfurther : response.isRedirection = true) :
    (sendFrom 0 r).run n = ⟨.failed .tooManyRedirections, m, []⟩ := by
  rw [sendFrom, Task.run_bind, h]
  simp [hfurther]

theorem sendFrom_run_further
    (h : (exchange r).run n = ⟨.done response, m, []⟩)
    (hfurther : response.isRedirection = true) :
    (sendFrom (left + 1) r).run n =
      match redirected r.url response.location with
      | .ok url => (sendFrom left { r with url }).run m
      | .error e => ⟨.failed e, m, []⟩ := by
  rw [sendFrom, Task.run_bind, h]
  cases hthere : redirected r.url response.location <;>
    simp [hfurther, hthere, Task.run_bind]

end SendFrom

/-- Sending a request over a network in reach is one exchange. -/
theorem sendFrom_followed (left : Nat) (r : Request) {n : Network}
    (hreach : n.reachable = true) :
    ∃ x result, Followed left r x result ∧ n.Gives x ∧
      (sendFrom left r).run n = (Task.ofExcept result).run (n.after x) := by
  rcases exchange_run_cases r hreach with
    ⟨e, hsend, hrun⟩ | ⟨hsend, hreply, hrun⟩ | ⟨response, hsend, hreply, hrun⟩
  · refine ⟨[], .error e, .refused hsend, n.gives_nil, ?_⟩
    simp [sendFrom_run_failed hrun]
  · refine ⟨_, _, .hungUp hsend, Network.gives_singleton hreply.symm, ?_⟩
    simp [sendFrom_run_failed hrun]
  · have hgives : n.Gives [(r, .answer response)] :=
      Network.gives_singleton hreply.symm
    cases hfurther : response.isRedirection with
    | false =>
        refine ⟨_, _, .answered hsend hfurther, hgives, ?_⟩
        simp [sendFrom_run_final hrun hfurther]
    | true =>
        cases left with
        | zero =>
            refine ⟨_, _, .exhausted hsend hfurther, hgives, ?_⟩
            simp [sendFrom_run_exhausted hrun hfurther]
        | succ left =>
            cases hthere : redirected r.url response.location with
            | error e =>
                refine ⟨_, _, .lost hsend hfurther hthere, hgives, ?_⟩
                simp [sendFrom_run_further hrun hfurther, hthere]
            | ok url =>
                obtain ⟨x, result, hx, hnext, hrest⟩ :=
                  sendFrom_followed left { r with url }
                    (n := n.after [(r, .answer response)]) hreach
                refine ⟨_, _, .onward hsend hfurther hthere hx,
                  hgives.append hnext, ?_⟩
                rw [sendFrom_run_further hrun hfurther, hthere]
                simpa [← Network.after_append] using hrest

/-- Sending a request is an exchange on a network in reach, and nothing on
any other. -/
theorem send_sent (r : Request) (n : Network) :
    ∃ x result, Sent n r x result ∧ n.Gives x ∧
      (send r).run n = (Task.ofExcept result).run (n.after x) := by
  cases hreach : n.reachable with
  | true =>
      obtain ⟨x, result, hx, hgives, hrun⟩ :=
        sendFrom_followed greatestRedirections r hreach
      exact ⟨x, result, .inl ⟨hreach, hx⟩, hgives, hrun⟩
  | false =>
      obtain ⟨e, hrun⟩ := exchange_run_unreachable r hreach
      refine ⟨[], .error e, .inr ⟨hreach, rfl, e, rfl⟩, n.gives_nil, ?_⟩
      simp [send, sendFrom_run_failed hrun]

theorem send_yields (r : Request) (n : Network) :
    ∃ x result, Sent n r x result ∧ n.Gives x ∧
      (send r).Yields n result.toOption (n.after x) := by
  obtain ⟨x, result, hsent, hgives, hrun⟩ := send_sent r n
  refine ⟨x, result, hsent, hgives, ?_⟩
  cases result with
  | ok response => exact ⟨by rw [hrun]; rfl, by rw [hrun]; rfl⟩
  | error e => exact ⟨e, by rw [hrun]; rfl, by rw [hrun]; rfl⟩

/-- A request that can be sent is answered by a network in reach whose next
reply is an answer for it. -/
theorem send_done_of_answer {r : Request} {n : Network} {response : Response}
    (hreach : n.reachable = true) (hsend : checkUrl r.url = .ok ())
    (hreply : n.replyAt 0 = .answer response)
    (hfinal : response.isRedirection = false) :
    (send r).Ends n (.done response) (n.after [(r, .answer response)]) := by
  rcases exchange_run_cases r hreach with
    ⟨e, hrefused, -⟩ | ⟨-, hhangUp, -⟩ | ⟨other, -, hother, hrun⟩
  · cases hsend.symm.trans hrefused
  · cases hreply.symm.trans hhangUp
  · obtain rfl := Reply.answer.inj (hreply.symm.trans hother)
    have hsent : (send r).run n =
        ⟨.done response, n.after [(r, .answer response)], []⟩ :=
      sendFrom_run_final hrun hfinal
    exact ⟨congrArg Run.ending hsent, congrArg Run.world hsent⟩

namespace Sent

variable {n : Network} {r : Request} {x : Exchange}
  {result : Except WebError Response}

/-- Nothing was said, or the exchange is that of the request. -/
theorem eq_nil_or_followed (h : Sent n r x result) :
    x = [] ∨ Followed greatestRedirections r x result := by
  rcases h with ⟨-, hx⟩ | ⟨-, hx, -⟩
  · exact .inr hx
  · exact .inl hx

theorem final?_eq (h : Sent n r x result) : x.final? = result.toOption := by
  rcases h with ⟨-, hx⟩ | ⟨-, rfl, e, rfl⟩
  · exact hx.final?_eq
  · rfl

theorem text?_eq (h : Sent n r x result) :
    x.text? = result.toOption.bind Response.successText? := by
  rw [x.text?_eq_bind, h.final?_eq]

/-- A request that can be sent is heard of exactly on a network in reach. -/
theorem ne_nil_iff (h : Sent n r x result) (hsend : checkUrl r.url = .ok ()) :
    x ≠ [] ↔ n.reachable = true := by
  rcases h with ⟨hreach, hx⟩ | ⟨hreach, rfl, -⟩
  · have hfirst := hx.head?_eq_of_sendable hsend
    simp only [hreach, iff_true]
    rintro rfl
    simp at hfirst
  · simp [hreach]

end Sent

end ScrobbleRelay.Web
