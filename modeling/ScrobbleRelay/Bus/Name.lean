/-!
# Names on the bus

The grammars of the names that a subscription is made of: members, interfaces, object paths, and the
names of senders, which are unique or well-known.  Each check runs over the characters from the
first to the last and reports the first fault.  Lengths count bytes.
-/

namespace ScrobbleRelay.Bus

/-- What is wrong with a dotted name or a member name. -/
inductive NameFault
  | vacant (least : Nat)
  | short (name : String) (least : Nat)
  | long (name : String)
  | leadingDigit
  | digitInElement
  | emptyElement
  | noColon
  | noDot
  | character (c : Char)
  deriving Repr, DecidableEq

/-- The greatest length of a name, in bytes. -/
def greatestLength : Nat := 255

def NameFault.message : NameFault → String
  | vacant least => s!"must contain at least {least} characters"
  | short name least =>
    s!"`{name}` is {name.utf8ByteSize} characters long, " ++
      s!"which is smaller than minimum allowed ({least})"
  | long name =>
    s!"`{name}` is {name.utf8ByteSize} characters long, " ++
      s!"which is longer than maximum allowed ({greatestLength})"
  | leadingDigit => "must not start with a digit"
  | digitInElement => "each element must not start with a digit"
  | emptyElement => "must not contain a double `.`"
  | noColon => "must start with a `:`"
  | noDot => "must contain at least 1 `.`"
  | character c => s!"`{c}` character not allowed"

/-- The characters of a member or of an element of an interface. -/
def isWordChar (c : Char) : Bool := c.isAlphanum || c == '_'

def isBusNameChar (c : Char) : Bool := isWordChar c || c == '-'

/-- The length of a name lies within its bounds. -/
def checkLength (least : Nat) (name : String) : Except NameFault Unit :=
  if name.utf8ByteSize < least then .error (.short name least)
  else if greatestLength < name.utf8ByteSize then .error (.long name)
  else .ok ()

/-- Every character passes a test. -/
def checkChars (allowed : Char → Bool) : List Char → Except NameFault Unit
  | [] => .ok ()
  | c :: rest => if allowed c then checkChars allowed rest else .error (.character c)

/-- The elements of a dotted name, read from the start of an element (`fresh`) or from inside one.
An element is empty only at the end; where `digitsFirst` is unset no element starts with a digit.
`dotted` tells whether a dot was met. -/
def checkElements (allowed : Char → Bool) (digitsFirst : Bool) (fresh dotted : Bool) :
    List Char → Except NameFault Unit
  | [] => if dotted then .ok () else .error .noDot
  | c :: rest =>
    if c = '.' then
      if fresh then .error .emptyElement
      else checkElements allowed digitsFirst true true rest
    else if c.isDigit && fresh && !digitsFirst then .error .digitInElement
    else if allowed c then checkElements allowed digitsFirst false dotted rest
    else .error (.character c)

/-- Member names: letters, digits and underscores, no digit first. -/
def checkMember (name : String) : Except NameFault Unit := do
  checkLength 1 name
  match name.toList with
  | c :: _ => if c.isDigit then .error .leadingDigit else checkChars isWordChar name.toList
  | [] => .ok ()

/-- Interface names: two elements or more, joined by dots. -/
def checkInterface (name : String) : Except NameFault Unit := do
  checkLength 3 name
  checkElements isWordChar false true false name.toList

/-- The name of the bus itself, which counts as unique. -/
def busItself : String := "org.freedesktop.DBus"

/-- Unique names: a colon and elements joined by dots. -/
def checkUnique (name : String) : Except NameFault Unit :=
  if name.isEmpty then .error (.vacant 4)
  else if greatestLength < name.utf8ByteSize then .error (.long name)
  else if name = busItself then .ok ()
  else
    match name.toList with
    | ':' :: rest => checkElements isBusNameChar true false false rest
    | _ => .error .noColon

/-- Well-known names: two elements or more, joined by dots, hyphens allowed. -/
def checkWellKnown (name : String) : Except NameFault Unit :=
  if name.isEmpty then .error (.vacant 3)
  else do
    checkLength 3 name
    checkElements isBusNameChar false true false name.toList

/-- What is wrong with an object path. -/
inductive PathFault
  | vacant
  | noSlashFirst (byte : UInt8)
  | doubleSlash
  | slashLast
  | byte (b : UInt8)
  deriving Repr, DecidableEq

/-- A byte as the character of the same number. -/
def charOfByte (b : UInt8) : Char := Char.ofNat b.toNat

/-- The words for a fault of an object path. -/
def PathFault.message : PathFault → String
  | vacant => "invalid length 0, expected > 0 character"
  | noSlashFirst b => s!"invalid value: character `{charOfByte b}`, expected /"
  | doubleSlash => "invalid value: string \"//\", expected /"
  | slashLast =>
    "invalid value: character `/`, expected an alphanumeric character or `_`"
  | byte b =>
    s!"invalid value: character `{charOfByte b}`, expected an alphanumeric character, `_` or `/`"

/-- The bytes of an object path after a slash (`afterSlash`) or after another byte.  A slash stands
between two elements, or alone. -/
def checkPathBytes (afterSlash : Bool) : List UInt8 → Except PathFault Unit
  | [] => .ok ()
  | b :: rest =>
    if b = 47 then
      if afterSlash then .error .doubleSlash
      else if rest.isEmpty then .error .slashLast
      else checkPathBytes true rest
    else if isWordChar (charOfByte b) then checkPathBytes false rest
    else .error (.byte b)

/-- Object paths: elements of letters, digits and underscores, each after a slash; or one slash. -/
def checkObjectPath (path : String) : Except PathFault Unit :=
  match path.toUTF8.toList with
  | [] => .error .vacant
  | b :: rest => if b = 47 then checkPathBytes true rest else .error (.noSlashFirst b)

/-- Why a text is no name of its kind. -/
inductive NameError
  | member (fault : NameFault)
  | interface (fault : NameFault)
  | objectPath (fault : PathFault)
  | sender (unique wellKnown : NameFault)
  deriving Repr, DecidableEq

def NameError.message : NameError → String
  | member fault => "Invalid method or signal name: " ++ fault.message
  | interface fault => "Invalid interface or error name: " ++ fault.message
  | objectPath fault => fault.message
  | sender unique wellKnown =>
    s!"Neither a valid unique ({unique.message}) nor a well-known ({wellKnown.message}) bus name"

/-- An accepted sender. -/
inductive SenderName
  | unique (name : String)
  | wellKnown (name : String)
  deriving Repr, DecidableEq

def SenderName.text : SenderName → String
  | unique name => name
  | wellKnown name => name

/-- The sender that a text names: unique where it can be, else well-known. -/
def SenderName.ofText (name : String) : Except NameError SenderName :=
  match checkUnique name with
  | .ok () => .ok (.unique name)
  | .error u =>
    match checkWellKnown name with
    | .ok () => .ok (.wellKnown name)
    | .error w => .error (.sender u w)

end ScrobbleRelay.Bus
