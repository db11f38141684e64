import ScrobbleRelay.Bus.MatchRule
import ScrobbleRelay.Task

/-!
# Sessions on the bus

A program says hello to the bus and then subscribes with a match rule.  The bus may refuse either.
An error by which the bus itself refuses a subscription is told twice, once as the refusal and once
as its cause.
-/

namespace ScrobbleRelay.Bus

open Settings (BusSettings)

/-- An error that the bus answers with. -/
structure Refusal where
  name : String
  text : String
  deriving Repr, DecidableEq

def Refusal.message (r : Refusal) : String := r.name ++ ": " ++ r.text

/-- The last parts of the names of the errors of the bus itself. -/
def ownErrors : List String :=
  ["Failed", "NoMemory", "ServiceUnknown", "NameHasNoOwner", "NoReply", "IOError", "BadAddress",
    "NotSupported", "LimitsExceeded", "AccessDenied", "AuthFailed", "NoServer", "Timeout",
    "NoNetwork", "AddressInUse", "Disconnected", "InvalidArgs", "FileNotFound", "FileExists",
    "UnknownMethod", "UnknownObject", "UnknownInterface", "UnknownProperty", "PropertyReadOnly",
    "TimedOut", "MatchRuleNotFound", "MatchRuleInvalid", "Spawn.ExecFailed", "Spawn.ForkFailed",
    "Spawn.ChildExited", "Spawn.ChildSignaled", "Spawn.Failed", "Spawn.FailedToSetup",
    "Spawn.ConfigInvalid", "Spawn.ServiceNotValid", "Spawn.ServiceNotFound",
    "Spawn.PermissionsInvalid", "Spawn.FileInvalid", "Spawn.NoMemory", "UnixProcessIdUnknown",
    "InvalidSignature", "InvalidFileContent", "SELinuxSecurityContextUnknown",
    "AdtAuditDataUnknown", "ObjectPathInUse", "InconsistentMessage",
    "InteractiveAuthorizationRequired", "NotContainer"]

/-- Whether a refusal is one of the errors of the bus itself. -/
def Refusal.isOwn (r : Refusal) : Bool :=
  ownErrors.any fun part => r.name == "org.freedesktop.DBus.Error." ++ part

/-- A bus: how it answers a greeting and a subscription, and the rules it was given. -/
structure Broker where
  greetingRefusal : Option Refusal
  subscriptionRefusal : Option Refusal
  rules : List String
  deriving Repr, DecidableEq

/-- The name that the bus gives to the program. -/
def ownName : String := ":1.42"

/-- The failure to reach any bus, and the failure to be greeted by one. -/
def connectionFailure (causes : List String) : Failure :=
  ⟨"Failed to connect to the session bus", causes⟩

/-- The causes of a failure where there is no bus. -/
def noBus : List String :=
  ["I/O error: No such file or directory (os error 2)", "No such file or directory (os error 2)"]

/-- The failure of a rule with a name that is none. -/
def NameError.failure (e : NameError) : Failure := ⟨e.message, [e.message]⟩

def Refusal.causes (r : Refusal) : List String :=
  if r.isOwn then [r.message, r.message] else [r.message]

/-- Say hello to the bus. -/
def greet : Task Failure (Option Broker) Unit := do
  match ← Task.world with
  | none => Task.fail (connectionFailure noBus)
  | some broker =>
    match broker.greetingRefusal with
    | some refusal => Task.fail (connectionFailure [refusal.message])
    | none => pure ()

/-- Give a rule to the bus. -/
def subscribe (signalName : String) (rule : MatchRule) : Task Failure (Option Broker) Unit := do
  Task.log .debug .bus ("Adding match rule: " ++ rule.text)
  Task.change fun broker => broker.map fun b => { b with rules := b.rules ++ [rule.text] }
  match (← Task.world).bind (·.subscriptionRefusal) with
  | some refusal => Task.fail ⟨s!"Failed to subscribe to {signalName} signals", refusal.causes⟩
  | none => Task.log .info .bus s!"Subscribed to {signalName} on the session bus as {ownName}"

/-- Connect to the bus and subscribe to the signal of the settings. -/
def connect (settings : BusSettings) : Task Failure (Option Broker) MatchRule := do
  greet
  let rule ← Task.ofExcept ((MatchRule.ofSettings settings).mapError NameError.failure)
  subscribe settings.signalName rule
  return rule

end ScrobbleRelay.Bus
