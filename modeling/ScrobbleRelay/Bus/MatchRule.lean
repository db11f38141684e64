import ScrobbleRelay.Bus.Name
import ScrobbleRelay.Bus.Signal
import ScrobbleRelay.Settings.Basic

/-!
# Match rules

A match rule tells the bus which signals to deliver.  It asks for a member, and for an interface, a
path and a sender where these are set.  `MatchRule.ofSettings` checks the names in the order member,
interface, path, sender; `MatchRule.text` writes the rule as the bus reads it, and `MatchRule.read?`
reads such a text back; `MatchRule.Matches` says which signals the rule lets through.
-/

namespace ScrobbleRelay.Bus

open Settings (BusSettings)

/-- A rule made of accepted names. -/
structure MatchRule where
  member : String
  interface : Option String
  path : Option String
  sender : Option SenderName
  deriving Repr, DecidableEq

namespace MatchRule

def checkOption {ε : Type} (check : String → Except ε Unit) : Option String → Except ε Unit
  | none => .ok ()
  | some name => check name

/-- The member name of a rule is well formed. -/
def checkMemberName (name : String) : Except NameError Unit :=
  (checkMember name).mapError NameError.member

/-- The interface of a rule is well formed. -/
def checkInterfaceName (name : String) : Except NameError Unit :=
  (checkInterface name).mapError NameError.interface

/-- The path of a rule is well formed. -/
def checkPath (path : String) : Except NameError Unit :=
  (checkObjectPath path).mapError NameError.objectPath

def senderOfOption : Option String → Except NameError (Option SenderName)
  | none => .ok none
  | some name => (SenderName.ofText name).map some

def ofSettings (s : BusSettings) : Except NameError MatchRule := do
  checkMemberName s.signalName
  checkOption checkInterfaceName s.interface
  checkOption checkPath s.path
  let sender ← senderOfOption s.sender
  return ⟨s.signalName, s.interface, s.path, sender⟩

/-- The components of a rule, keys with values, in the order in which they are written. -/
def components (r : MatchRule) : List (String × String) :=
  [("type", "signal")]
    ++ (r.sender.map fun sender => ("sender", sender.text)).toList
    ++ (r.interface.map fun interface => ("interface", interface)).toList
    ++ [("member", r.member)]
    ++ (r.path.map fun path => ("path", path)).toList

def componentText (component : String × String) : String :=
  component.1 ++ "='" ++ component.2 ++ "'"

def text (r : MatchRule) : String := ",".intercalate (r.components.map componentText)

/-- The component that a piece of a rule text holds. -/
def readComponent? (piece : List Char) : Option (String × String) :=
  match piece.splitOn '\'' with
  | [start, value, []] =>
    if start.getLast? = some '=' then some (String.ofList start.dropLast, String.ofList value)
    else none
  | _ => none

/-- The components that a rule text holds between its commas. -/
def readComponents (ruleText : String) : List (String × String) :=
  (ruleText.toList.splitOn ',').filterMap readComponent?

/-- The subscription that a rule text describes; a text without a member, or for messages other than
signals, describes none. -/
def read? (ruleText : String) : Option BusSettings :=
  let components := readComponents ruleText
  match components.lookup "type", components.lookup "member" with
  | some "signal", some member =>
    some ⟨member, components.lookup "interface", components.lookup "path",
      components.lookup "sender"⟩
  | _, _ => none

/-- Whether the bus name of a signal satisfies the sender of a rule: a unique name must be equal, a
well-known name cannot be checked. -/
def senderMatches (sender : Option SenderName) (signal : Signal) : Bool :=
  match sender with
  | some (.unique name) => signal.sender == some name
  | _ => true

/-- Whether a rule lets a signal through. -/
def lets (r : MatchRule) (signal : Signal) : Bool :=
  signal.member == r.member
    && r.interface.all (· == signal.interface)
    && r.path.all (· == signal.path)
    && senderMatches r.sender signal

/-- The signals that a rule lets through, as a proposition. -/
def Matches (r : MatchRule) (signal : Signal) : Prop := r.lets signal = true

instance (r : MatchRule) (signal : Signal) : Decidable (r.Matches signal) :=
  inferInstanceAs (Decidable (_ = true))

end MatchRule

end ScrobbleRelay.Bus
