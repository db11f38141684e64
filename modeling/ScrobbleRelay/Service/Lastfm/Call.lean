import ScrobbleRelay.Digest.Md5
import ScrobbleRelay.Web.Http
import ScrobbleRelay.Web.Json

/-!
# Calls of the Last.fm service

A call names an operation and gives parameters by name.  It is signed with the digest of all names
and values in the order of the names, followed by the secret of the application; the signature is
one more parameter.  The answer is a value of JSON.
-/

namespace ScrobbleRelay.Service.Lastfm

open Web (Json Network)

/-- Parameters in the order of their names. -/
def sorted (parameters : List (String × String)) : List (String × String) :=
  parameters.mergeSort fun a b => a.1 ≤ b.1

def signature (secret : String) (parameters : List (String × String)) : String :=
  Digest.md5Hex
    (String.join ((sorted parameters).map fun (name, value) => name ++ value) ++ secret)

/-- The parameters of a call of an operation with their signature. -/
def signed (secret operation : String) (parameters : List (String × String)) :
    List (String × String) :=
  let all := ("method", operation) :: parameters
  sorted (("api_sig", signature secret all) :: all)

def address : String := "https://ws.audioscrobbler.com/2.0/?format=json"

/-- Call an operation.  The failure is the one text that tells what went wrong. -/
def call (secret operation : String) (parameters : List (String × String)) :
    Task String Network Json := do
  let url ← Web.demandUrl address
  let response ← (Web.send
    ⟨.post, url, none, Web.formText (signed secret operation parameters)⟩).mapError (·.message)
  if response.status != 200 then
    Task.fail s!"Non Success status ({response.statusText})"
  else
    let body ← Task.ofExcept (response.text.mapError (·.message))
    match Json.ofText? body with
    | some value => return value
    | none => Task.fail "invalid response"

/-- Words for an answer without what it should hold. -/
def missing (field : String) : String := s!"missing field `{field}`"

end ScrobbleRelay.Service.Lastfm
