import ScrobbleRelay.Task
import ScrobbleRelay.Web.Url

/-!
# Requests over HTTP

A request is sent over a network that answers with replies in a fixed order, and remembers the
requests that reached a server.  A network can also be out of reach, and then no request gets
anywhere.  Answers that send the client elsewhere are followed, five times at most, with the same
method and body.
-/

namespace ScrobbleRelay.Web

/-- What a request wants. -/
inductive Method
  | get
  | post
  deriving Repr, DecidableEq

/-- The name of a method as it is written. -/
def Method.label : Method → String
  | get => "GET"
  | post => "POST"

/-- A request: what it wants and where, the credentials in its head, and its body. -/
structure Request where
  method : Method
  url : Url
  authorization : Option String
  body : String
  deriving Repr, DecidableEq

/-- An answer of a server.  `broken` tells that the end of its body cannot be found. -/
structure Response where
  status : Nat
  location : Option String
  body : ByteArray
  broken : Bool

/-- What a server does with a request. -/
inductive Reply
  | answer (response : Response)
  | hangUp

/-- A network: whether servers can be reached, their replies to come, and the requests that have
reached one. -/
structure Network where
  reachable : Bool
  replies : List Reply
  requests : List Request

/-- The reply of a server that has nothing else to say. -/
def lastReply : Reply := .answer ⟨500, none, ByteArray.empty, false⟩

/-- Why a request failed. -/
inductive WebError
  | unreachable
  | hungUp
  | noHost
  | noPort
  | notWeb
  | tooManyRedirections
  | noLocation
  | badLocation
  | brokenBody
  | notText
  deriving Repr, DecidableEq

def WebError.message : WebError → String
  | unreachable => "Io Error: Network is unreachable (os error 101)"
  | hungUp => "Io Error: unexpected end of file"
  | noHost => "URL is missing a host"
  | noPort => "URL is missing a port"
  | notWeb => "Invalid base URL"
  | tooManyRedirections => "Too many redirections"
  | noLocation => "InvalidResponse: missing or invalid location header"
  | badLocation => "InvalidResponse: invalid redirection url"
  | brokenBody => "Io Error: InvalidResponse: invalid chunk size"
  | notText => "Io Error: stream did not contain valid UTF-8"

def statusWords : Nat → String
  | 100 => "Continue"
  | 101 => "Switching Protocols"
  | 102 => "Processing"
  | 200 => "OK"
  | 201 => "Created"
  | 202 => "Accepted"
  | 203 => "Non Authoritative Information"
  | 204 => "No Content"
  | 205 => "Reset Content"
  | 206 => "Partial Content"
  | 207 => "Multi-Status"
  | 208 => "Already Reported"
  | 226 => "IM Used"
  | 300 => "Multiple Choices"
  | 301 => "Moved Permanently"
  | 302 => "Found"
  | 303 => "See Other"
  | 304 => "Not Modified"
  | 305 => "Use Proxy"
  | 307 => "Temporary Redirect"
  | 308 => "Permanent Redirect"
  | 400 => "Bad Request"
  | 401 => "Unauthorized"
  | 402 => "Payment Required"
  | 403 => "Forbidden"
  | 404 => "Not Found"
  | 405 => "Method Not Allowed"
  | 406 => "Not Acceptable"
  | 407 => "Proxy Authentication Required"
  | 408 => "Request Timeout"
  | 409 => "Conflict"
  | 410 => "Gone"
  | 411 => "Length Required"
  | 412 => "Precondition Failed"
  | 413 => "Payload Too Large"
  | 414 => "URI Too Long"
  | 415 => "Unsupported Media Type"
  | 416 => "Range Not Satisfiable"
  | 417 => "Expectation Failed"
  | 418 => "I'm a teapot"
  | 421 => "Misdirected Request"
  | 422 => "Unprocessable Entity"
  | 423 => "Locked"
  | 424 => "Failed Dependency"
  | 426 => "Upgrade Required"
  | 428 => "Precondition Required"
  | 429 => "Too Many Requests"
  | 431 => "Request Header Fields Too Large"
  | 451 => "Unavailable For Legal Reasons"
  | 500 => "Internal Server Error"
  | 501 => "Not Implemented"
  | 502 => "Bad Gateway"
  | 503 => "Service Unavailable"
  | 504 => "Gateway Timeout"
  | 505 => "HTTP Version Not Supported"
  | 506 => "Variant Also Negotiates"
  | 507 => "Insufficient Storage"
  | 508 => "Loop Detected"
  | 510 => "Not Extended"
  | 511 => "Network Authentication Required"
  | _ => "<unknown status code>"

namespace Response

def statusText (r : Response) : String := s!"{r.status} {statusWords r.status}"

def isSuccess (r : Response) : Bool := 200 ≤ r.status && r.status < 300

/-- Whether an answer reports an error of the client or of the server. -/
def isRefusal (r : Response) : Bool := 400 ≤ r.status && r.status < 600

/-- Whether an answer sends the client elsewhere. -/
def isRedirection (r : Response) : Bool := [301, 302, 303, 307, 308].contains r.status

def text (r : Response) : Except WebError String :=
  if r.broken then .error .brokenBody
  else
    match String.fromUTF8? r.body with
    | some s => .ok s
    | none => .error .notText

end Response

/-- Whether a text may stand in the head of a request: it holds no control character but the tab. -/
def isHeaderText (s : String) : Bool :=
  s.toUTF8.toList.all fun b => b == 9 || (32 ≤ b && b != 127)

/-- Whether a text in the head of an answer holds visible ASCII characters, blanks and tabs only. -/
def isVisible (s : String) : Bool :=
  s.toList.all fun c => c == '\t' || (32 ≤ c.toNat && c.toNat < 127)

/-- The address that an answer sends the client to. -/
def redirected (base : Url) (location : Option String) : Except WebError Url :=
  match location with
  | none => .error .noLocation
  | some text =>
    if isVisible text then
      match Url.ofText? text with
      | some url => .ok url
      | none =>
        if Url.hasScheme text then .error .badLocation
        else
          match base.resolve? text with
          | some url => .ok url
          | none => .error .badLocation
    else .error .noLocation

/-- Whether a request can be sent to an address. -/
def checkUrl (url : Url) : Except WebError Unit :=
  if url.host.isNone then .error .noHost
  else if url.connectPort?.isNone then .error .noPort
  else if url.isWeb then .ok ()
  else .error .notWeb

/-- Send one request and wait for its answer. -/
def exchange (r : Request) : Task WebError Network Response := fun network =>
  match checkUrl r.url with
  | .error e => ⟨.failed e, network, []⟩
  | .ok () =>
    if network.reachable then
      let after := { network with
        replies := network.replies.tail
        requests := network.requests ++ [r] }
      match network.replies.head?.getD lastReply with
      | .answer response => ⟨.done response, after, []⟩
      | .hangUp => ⟨.failed .hungUp, after, []⟩
    else ⟨.failed .unreachable, network, []⟩

/-- The most redirections that are followed. -/
def greatestRedirections : Nat := 5

/-- Send a request and follow redirections, at most `left` of them. -/
def sendFrom (left : Nat) (r : Request) : Task WebError Network Response := do
  let response ← exchange r
  if response.isRedirection then
    match left with
    | 0 => Task.fail .tooManyRedirections
    | left + 1 =>
      let url ← Task.ofExcept (redirected r.url response.location)
      sendFrom left { r with url }
  else return response

/-- Send a request and follow redirections. -/
def send (r : Request) : Task WebError Network Response := sendFrom greatestRedirections r

/-- An address that must be one: a text that is no address is a crash. -/
def demandUrl {ε σ : Type} (text : String) : Task ε σ Url :=
  match Url.ofText? text with
  | some url => Task.done url
  | none => Task.crash

/-- A failure of the web, told as a plain failure. -/
def WebError.failure (e : WebError) : Failure := .plain e.message

end ScrobbleRelay.Web
