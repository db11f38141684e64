import ScrobbleRelay.Web.Http

/-!
# Addresses of the web

An address of the web that was read from a text has a host and a port to
connect to, so a request can be sent to it.  More pairs in its query change
nothing about that.
-/

namespace ScrobbleRelay.Web

/-- What an authority gives keeps its scheme, and has a host where the scheme
asks for one. -/
theorem host_isSome_of_withAuthority?
    {scheme cs : List Char} {query fragment : Option (List Char)} {u : Url}
    (h : withAuthority? scheme cs query fragment = some u) :
    u.scheme = scheme ∧ (isSpecial scheme = true → u.host.isSome = true) := by
  simp only [withAuthority?, Option.bind_eq_bind, Option.bind_eq_some_iff] at h
  obtain ⟨port, -, hu⟩ := h
  split at hu
  · split at hu
    · cases hu
    · next hplain =>
        obtain rfl := Option.some.inj hu
        refine ⟨rfl, fun hspecial => absurd ?_ hplain⟩
        simp [hspecial]
  · obtain ⟨host, hhost, hu⟩ := Option.bind_eq_some_iff.mp hu
    obtain rfl := Option.some.inj hu
    obtain ⟨name, -, hname⟩ := Option.map_eq_some_iff.mp hhost
    exact ⟨rfl, fun _ => hname ▸ rfl⟩

theorem localFile?_scheme
    {cs : List Char} {query fragment : Option (List Char)} {u : Url}
    (h : localFile? cs query fragment = some u) : u.scheme = fileScheme := by
  simp only [localFile?, pure] at h
  split at h
  · split at h
    · split at h
      · obtain rfl := Option.some.inj h
        rfl
      · split at h
        · obtain rfl := Option.some.inj h
          rfl
        · obtain ⟨host, -, hu⟩ := Option.bind_eq_some_iff.mp h
          split at hu <;> obtain rfl := Option.some.inj hu <;> rfl
    · obtain rfl := Option.some.inj h
      rfl
  · obtain rfl := Option.some.inj h
    rfl

namespace Url

variable {s : String} {u : Url}

/-- The scheme of an address of the web has a default port. -/
theorem isSpecial_of_isWeb (h : u.isWeb = true) :
    isSpecial u.scheme = true := by
  simp only [isWeb, Bool.or_eq_true, beq_iff_eq] at h
  rcases h with h | h <;> rw [h] <;> decide

/-- Where the scheme of an address that a text writes asks for a host, there
is one. -/
theorem host_isSome_of_ofText? (h : ofText? s = some u)
    (hspecial : isSpecial u.scheme = true) : u.host.isSome = true := by
  simp only [ofText?, Option.bind_eq_bind, Option.bind_eq_some_iff] at h
  obtain ⟨⟨scheme, rest⟩, -, hu⟩ := h
  simp only at hu
  by_cases hscheme : isSpecial scheme = true
  · rw [if_pos hscheme] at hu
    exact (host_isSome_of_withAuthority? hu).2 hscheme
  · suffices hkept : u.scheme = scheme from absurd (hkept ▸ hspecial) hscheme
    rw [if_neg hscheme] at hu
    split at hu
    · next hfile => rw [localFile?_scheme hu, hfile]
    · split at hu
      · exact (host_isSome_of_withAuthority? hu).1
      · obtain rfl := Option.some.inj hu
        rfl
      · obtain rfl := Option.some.inj hu
        rfl

theorem checkUrl_eq_ok_of_isWeb (h : ofText? s = some u)
    (hweb : u.isWeb = true) : checkUrl u = .ok () := by
  have hspecial := isSpecial_of_isWeb hweb
  have hhost := host_isSome_of_ofText? h hspecial
  have hport : u.connectPort?.isSome = true := by
    unfold connectPort?
    cases u.port with
    | none => exact hspecial
    | some port => rfl
  simp only [checkUrl, ← Option.not_isSome, hhost, hport, hweb]
  rfl

/-- More pairs in the query of an address are no matter for sending. -/
@[simp] theorem checkUrl_withPairs (u : Url) (pairs : List (String × String)) :
    checkUrl (u.withPairs pairs) = checkUrl u := by
  unfold withPairs
  split <;> rfl

end Url

end ScrobbleRelay.Web
