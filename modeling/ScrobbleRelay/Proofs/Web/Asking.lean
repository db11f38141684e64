import ScrobbleRelay.Proofs.Leads
import ScrobbleRelay.Proofs.Web.Exchange

/-!
# What is asked of a network

Every task only adds requests to those that a network has heard.
`Network.Asking` names what all of the added requests have in common; it is a
preorder, so that the requests of a task are those of its steps.  Sending a
request adds that request, and others that differ from it in their addresses
alone.

`Network.Heard` says that one of the added requests has a property.  It stays
true when there are more requests, before or after, and so a task has been
heard of where one of its steps was.
-/

namespace ScrobbleRelay.Web

/-- One network is another one after more requests, all of which have a
property. -/
def Network.Asking (P : Request → Prop) (n m : Network) : Prop :=
  ∃ asked, m.requests = n.requests ++ asked ∧ ∀ r ∈ asked, P r

namespace Network

variable {P Q : Request → Prop} {n m : Network}

instance : Std.Refl (Network.Asking P) where
  refl n := ⟨[], by simp⟩

instance : IsTrans Network (Network.Asking P) where
  trans n m k := by
    rintro ⟨first, hfirst, hall⟩ ⟨second, hsecond, hothers⟩
    refine ⟨first ++ second, by rw [hsecond, hfirst, List.append_assoc], ?_⟩
    intro r hr
    exact (List.mem_append.mp hr).elim (hall r) (hothers r)

end Network

/-- One network is another one after more requests, one of which has a
property. -/
def Network.Heard (P : Request → Prop) (n m : Network) : Prop :=
  ∃ asked, m.requests = n.requests ++ asked ∧ ∃ r ∈ asked, P r

namespace Network

variable {P Q : Request → Prop} {n m k : Network}

instance : Trans (Network.Asking Q) (Network.Heard P) (Network.Heard P) where
  trans := by
    rintro n m k ⟨first, hfirst, -⟩ ⟨second, hsecond, r, hr, hP⟩
    exact ⟨first ++ second, by rw [hsecond, hfirst, List.append_assoc], r,
      List.mem_append_right first hr, hP⟩

instance : Trans (Network.Heard P) (Network.Asking Q) (Network.Heard P) where
  trans := by
    rintro n m k ⟨first, hfirst, r, hr, hP⟩ ⟨second, hsecond, -⟩
    exact ⟨first ++ second, by rw [hsecond, hfirst, List.append_assoc], r,
      List.mem_append_left second hr, hP⟩

/-- The requests after those that a network has heard already. -/
def since (n m : Network) : List Request := m.requests.drop n.requests.length

theorem since_after (n : Network) (x : Exchange) :
    n.since (n.after x) = x.map Prod.fst := by
  rw [since, after_requests, List.drop_left]

theorem Asking.of_mem_since (h : n.Asking P m) {r : Request}
    (hr : r ∈ n.since m) : P r := by
  obtain ⟨asked, hasked, hall⟩ := h
  rw [since, hasked, List.drop_left] at hr
  exact hall r hr

theorem Heard.exists_mem_since (h : n.Heard P m) : ∃ r ∈ n.since m, P r := by
  obtain ⟨asked, hasked, hone⟩ := h
  rw [since, hasked, List.drop_left]
  exact hone

end Network

theorem demandUrl_leads {ε σ : Type} {R : σ → σ → Prop} [Std.Refl R]
    (text : String) : (demandUrl text : Task ε σ Url).Leads R := by
  unfold demandUrl
  cases Url.ofText? text with
  | none => exact .crash
  | some url => exact .pure url

variable {P Q : Request → Prop}

/-- Sending a request asks for it, and for the same at other addresses. -/
theorem send_leads {r : Request}
    (h : ∀ url, P { r with url }) : (send r).Leads (Network.Asking P) := by
  intro n
  obtain ⟨x, result, hsent, -, hrun⟩ := send_sent r n
  have hworld : ((send r).run n).world = n.after x := by
    rw [hrun]
    cases result <;> rfl
  rw [hworld]
  refine ⟨x.map Prod.fst, n.after_requests x, ?_⟩
  intro asked hasked
  obtain ⟨hop, hhop, rfl⟩ := List.mem_map.mp hasked
  rcases hsent.eq_nil_or_followed with rfl | hfollowed
  · simp at hhop
  · rw [hfollowed.eq_with_url hop hhop]
    exact h _

theorem send_attains {r : Request} (h : ∀ url, P { r with url })
    (hheard : ∀ url, Q { r with url }) :
    (send r).Attains (Network.Asking P) (Network.Heard Q) where
  leads := send_leads h
  done {n _ m} hsend := by
    obtain ⟨x, result, hsent, -, hrun⟩ := send_sent r n
    rw [Task.Ends, hrun] at hsend
    cases result with
    | error e => cases hsend.1
    | ok answer =>
        obtain ⟨-, rfl⟩ := hsend
        rcases hsent with ⟨-, hfollowed⟩ | ⟨-, -, e, herror⟩
        · obtain ⟨hop, hhop⟩ :=
            List.exists_mem_of_ne_nil x hfollowed.ne_nil_of_ok
          refine ⟨x.map Prod.fst, n.after_requests x, hop.1,
            List.mem_map_of_mem hhop, ?_⟩
          rw [hfollowed.eq_with_url hop hhop]
          exact hheard _
        · cases herror

end ScrobbleRelay.Web
