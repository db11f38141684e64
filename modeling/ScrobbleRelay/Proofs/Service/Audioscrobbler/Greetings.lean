import ScrobbleRelay.Proofs.Service.Audioscrobbler.Course
import ScrobbleRelay.Proofs.Web.Asking
import ScrobbleRelay.Proofs.Web.Queries

/-!
# Where a handshake goes

A client without a session asks the address of its account, and greets it in
the query: the query of the address comes first, as it is, and five parameters
follow.  Three of them hold texts of the account, and each is read back as
exactly that text, so none of these texts can reach into another parameter, the
path or the host.
-/

namespace ScrobbleRelay.Service.Audioscrobbler

open Settings (AudioscrobblerSettings)
open Web (Request Url)

variable {account : AudioscrobblerSettings} {url : Url}

/-- A request that greets the server of an account at an address. -/
structure Greets (account : AudioscrobblerSettings) (url : Url)
    (r : Request) : Prop where
  /-- Nothing but the query differs from the address. -/
  address : r = ⟨.get, { url with query := r.url.query }, none, ""⟩
  /-- The query of the address is followed by five pairs, and the server is
  asked for no fragment. -/
  query : ∃ added,
    r.url.query = some (url.beforeAdded ++ added) ∧
    r.url.requestText = String.ofList (url.originChars ++ url.pathChars ++
      '?' :: url.beforeAdded ++ added) ∧
    Web.readPairs? (String.ofList added) =
      some [("hs", "true"), ("p", "1.1"), ("c", account.clientId),
        ("v", account.clientVersion), ("u", account.username)]
  /-- The parameters of the address are followed by five more, of which the
  texts of the account fill the last three. -/
  parameters : ∃ c v u,
    r.url.parameters = url.parameters ++
      ["hs=true".toList, "p=1.1".toList, c, v, u] ∧
    Web.readPair? c = some ("c", account.clientId) ∧
    Web.readPair? v = some ("v", account.clientVersion) ∧
    Web.readPair? u = some ("u", account.username)

theorem handshakeRequest_greets (account : AudioscrobblerSettings) (url : Url) :
    Greets account url (handshakeRequest account url) := by
  let pairs := greeting account.clientId account.clientVersion account.username
  have hurl : (handshakeRequest account url).url = url.withPairs pairs := rfl
  have hparameters :
      (url.withPairs pairs).parameters = url.parameters ++ pairs.map Web.pairChars :=
    url.parameters_withPairs (by simp [pairs, greeting])
  have hconstant :
      Web.pairChars ("hs", "true") = "hs=true".toList ∧
        Web.pairChars ("p", "1.1") = "p=1.1".toList := by
    decide +kernel
  refine ⟨?_, ⟨(Web.formText pairs).toList, ?_, ?_, ?_⟩, ?_⟩
  · rw [handshakeRequest, url.withPairs_eq]
  · rw [hurl, url.withPairs_eq]
  · rw [hurl, url.requestText_withPairs]
  · rw [String.ofList_toList]
    exact Web.readPairs?_formText pairs
  · refine ⟨_, _, _, ?_, Web.readPair?_pairChars _, Web.readPair?_pairChars _,
      Web.readPair?_pairChars _⟩
    rw [hurl, hparameters, ← hconstant.1, ← hconstant.2]
    rfl

/-- Two accounts greet one address alike but for the last three parameters. -/
theorem Greets.alike {other : AudioscrobblerSettings} {r r' : Request}
    (h : Greets account url r) (h' : Greets other url r') :
    r' = { r with url := { r.url with query := r'.url.query } } ∧
    r'.url.parameters.take (url.parameters.length + 2) =
      r.url.parameters.take (url.parameters.length + 2) := by
  obtain ⟨c, v, u, hparameters, -⟩ := h.parameters
  obtain ⟨c', v', u', hparameters', -⟩ := h'.parameters
  constructor
  · rw [h.address, h'.address]
  · rw [hparameters, hparameters', List.take_length_add_append,
      List.take_length_add_append]
    rfl

theorem submit_first_request
    (hurl : Url.ofText? account.handshakeUrl = some url)
    (hsend : Web.checkUrl url = .ok ()) (scrobble : Scrobble) {u : Uplink}
    (hfresh : u.session = none) (hreach : u.network.reachable = true) :
    ∃ others, u.network.since ((submit account scrobble).run u).world.network =
      handshakeRequest account url :: others := by
  obtain ⟨h, p, ending, kept, hcourse, -, -, hworld⟩ :=
    submit_course account hurl scrobble u
  obtain ⟨session?, hgreeting⟩ := hcourse.greeting
  have hne : h ≠ [] := (hgreeting.ne_nil_iff hsend).mpr ⟨hfresh, hreach⟩
  obtain ⟨result, hfollowed⟩ := hgreeting.eq_nil_or_followed.resolve_left hne
  have hrequest : Web.checkUrl (handshakeRequest account url).url = .ok () := by
    rw [handshakeRequest, Url.checkUrl_withPairs]
    exact hsend
  obtain ⟨hop, hops, rfl⟩ := List.exists_cons_of_ne_nil hne
  have hfirst : hop.1 = handshakeRequest account url := by
    simpa using hfollowed.head?_eq_of_sendable hrequest
  refine ⟨(hops ++ p).map Prod.fst, ?_⟩
  rw [hworld, Web.Network.since_after, List.cons_append, List.map_cons, hfirst]

/-- Where a server can be reached, a submission without a session first greets
it at the address of the account, whatever texts the account holds.  Accounts
with the same address differ there in the last three parameters alone. -/
theorem handshake_greets_at_its_address
    (hurl : Url.ofText? account.handshakeUrl = some url)
    (hweb : url.isWeb = true) {u : Uplink} (hfresh : u.session = none)
    (hreach : u.network.reachable = true) (scrobble : Scrobble) :
    ∃ r others,
      u.network.since ((submit account scrobble).run u).world.network =
        r :: others ∧
      Greets account url r ∧
      ∀ other : AudioscrobblerSettings,
        other.handshakeUrl = account.handshakeUrl →
        ∃ r' others',
          u.network.since ((submit other scrobble).run u).world.network =
            r' :: others' ∧
          Greets other url r' ∧
          r' = { r with url := { r.url with query := r'.url.query } } ∧
          r'.url.parameters.take (url.parameters.length + 2) =
            r.url.parameters.take (url.parameters.length + 2) := by
  have hsend := Url.checkUrl_eq_ok_of_isWeb hurl hweb
  obtain ⟨others, hrequests⟩ :=
    submit_first_request hurl hsend scrobble hfresh hreach
  have hgreets := handshakeRequest_greets account url
  refine ⟨_, others, hrequests, hgreets, ?_⟩
  intro other hsame
  rw [← hsame] at hurl
  obtain ⟨others', hrequests'⟩ :=
    submit_first_request hurl hsend scrobble hfresh hreach
  have hgreets' := handshakeRequest_greets other url
  exact ⟨_, others', hrequests', hgreets', hgreets.alike hgreets'⟩

/-- An account at an address with a query and a fragment of its own, whose
texts are made of the signs of a query. -/
def intrudingAccount : AudioscrobblerSettings where
  enabled := true
  username := "me +&hs=false"
  password := "secret"
  handshakeUrl := "HTTP://[::1]:80/a/../nudge?x=%41&&y#top"
  clientId := "a&u=x"
  clientVersion := "1#?=é"

/-- A server that has nothing to say. -/
def silentUplink : Uplink where
  network := { reachable := true, replies := [], requests := [] }
  session := none

/-- The texts of the account stay in their own parameters. -/
theorem intrudingAccount_greets_at_its_address :
    ∃ url r others,
      Url.ofText? intrudingAccount.handshakeUrl = some url ∧
      silentUplink.network.since
        ((submit intrudingAccount ⟨"", "", 0, ⟨0, 0⟩, "", ""⟩).run
          silentUplink).world.network = r :: others ∧
      Greets intrudingAccount url r ∧
      r.url.requestText =
        "http://[::1]/nudge?x=%41&&y&hs=true&p=1.1&c=a%26u%3Dx" ++
          "&v=1%23%3F%3D%C3%A9&u=me+%2B%26hs%3Dfalse" := by
  obtain ⟨url, hurl⟩ :
      ∃ url, Url.ofText? intrudingAccount.handshakeUrl = some url :=
    Option.isSome_iff_exists.mp (by decide +kernel)
  have hisWeb :
      (Url.ofText? intrudingAccount.handshakeUrl).all Url.isWeb = true := by
    decide +kernel
  have hasked :
      (silentUplink.network.since
        ((submit intrudingAccount ⟨"", "", 0, ⟨0, 0⟩, "", ""⟩).run
          silentUplink).world.network).head?.map (·.url.requestText) =
        some ("http://[::1]/nudge?x=%41&&y&hs=true&p=1.1&c=a%26u%3Dx" ++
          "&v=1%23%3F%3D%C3%A9&u=me+%2B%26hs%3Dfalse") := by
    decide +kernel
  rw [hurl] at hisWeb
  obtain ⟨r, others, hrequests, hgreets, -⟩ :=
    handshake_greets_at_its_address hurl hisWeb (u := silentUplink) rfl rfl
      ⟨"", "", 0, ⟨0, 0⟩, "", ""⟩
  rw [hrequests] at hasked
  exact ⟨url, r, others, hurl, hrequests, hgreets, Option.some.inj hasked⟩

end ScrobbleRelay.Service.Audioscrobbler
