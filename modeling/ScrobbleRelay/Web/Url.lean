import ScrobbleRelay.Web.Domain.Label
import ScrobbleRelay.Web.Form

/-!
# Addresses

An absolute address, read as the living standard of addresses asks and kept in normal form: scheme
and host in lower case, the default port left out, dot segments removed, and characters that may not
stand for themselves written as percent-encoded bytes.  `Url.ofText?` reads an address, `Url.text`
writes it, and `Url.resolve?` reads a reference against an address.  Hosts of the schemes of the web
are written in ASCII.
-/

namespace ScrobbleRelay.Web

/-- The path of an address: segments after slashes, or any text. -/
inductive UrlPath
  | rooted (segments : List (List Char))
  | bare (text : List Char)
  deriving Repr, DecidableEq

/-- An absolute address. -/
structure Url where
  scheme : List Char
  username : List Char
  password : List Char
  host : Option (List Char)
  port : Option Nat
  path : UrlPath
  query : Option (List Char)
  fragment : Option (List Char)
  deriving Repr, DecidableEq

/-- Whether a byte is a control or lies beyond ASCII. -/
def isControlByte (b : UInt8) : Bool := b < 32 || 126 < b

/-- The characters that are percent-encoded in a fragment. -/
def fragmentSet : List Char := [' ', '"', '<', '>', '`']

/-- The characters that are percent-encoded in a query. -/
def querySet : List Char := [' ', '"', '#', '<', '>']

/-- The characters that are percent-encoded in a path. -/
def pathSet : List Char := fragmentSet ++ ['#', '?', '\x7b', '\x7d']

/-- The characters that are percent-encoded in a user name and a password. -/
def userSet : List Char := pathSet ++ ['/', ':', ';', '=', '@', '[', '\\', ']', '^', '|']

/-- Text with the characters of a set, controls and all beyond ASCII percent-encoded. -/
def percentChars (set cs : List Char) : List Char :=
  (String.ofList cs).toUTF8.toList.flatMap fun b =>
    let c := Char.ofNat b.toNat
    if isControlByte b || set.contains c then percentEncoded b else [c]

/-- The bytes of a text with its percent-encoded bytes decoded. -/
def percentBytes : List Char → List UInt8
  | [] => []
  | '%' :: a :: b :: rest =>
    match hexDigitValue? a, hexDigitValue? b with
    | some x, some y => UInt8.ofNat (16 * x + y) :: percentBytes rest
    | _, _ => 37 :: percentBytes (a :: b :: rest)
  | c :: rest => c.toString.toUTF8.toList ++ percentBytes rest

/-- The schemes whose addresses always have a host and a path, with their default ports. -/
def defaultPorts : List (String × Nat) :=
  [("http", 80), ("https", 443), ("ws", 80), ("wss", 443), ("ftp", 21)]

def defaultPort? (scheme : List Char) : Option Nat := defaultPorts.lookup (String.ofList scheme)

/-- Whether a scheme has a host in all of its addresses. -/
def isSpecial (scheme : List Char) : Bool := (defaultPort? scheme).isSome

/-- Whether a character separates segments of a path. -/
def isSlash (special : Bool) (c : Char) : Bool := c == '/' || (special && c == '\\')

/-! ### Hosts -/

def hostSeparators : List Char :=
  ['\x00', '\t', '\n', '\r', ' ', '#', '/', ':', '<', '>', '?', '@', '[', '\\', ']', '^', '|']

def isForbiddenInHost (c : Char) : Bool := hostSeparators.contains c

/-- The characters that no host of a special scheme holds. -/
def isForbiddenInDomain (c : Char) : Bool :=
  isForbiddenInHost c || c.toNat ≤ 0x1F || c == '%' || c.toNat == 0x7F

/-- A part of a numeric address: decimal, or octal or hexadecimal after its mark. -/
def numberPart? (cs : List Char) : Option Nat :=
  let digits (base : Nat) (ds : List Char) : Option Nat :=
    ds.foldlM (fun n d => ((hexDigitValue? d).filter (· < base)).map (n * base + ·)) 0
  match cs with
  | [] => none
  | '0' :: 'x' :: ds => digits 16 ds
  | '0' :: 'X' :: ds => digits 16 ds
  | '0' :: d :: ds => digits 8 (d :: ds)
  | ds => digits 10 ds

/-- The parts of a name between dots, without an empty last one. -/
def labels (host : List Char) : List (List Char) :=
  let parts := splitAll '.' host
  if 1 < parts.length && parts.getLast? == some [] then parts.dropLast else parts

/-- Whether the last part of a name is a number, so that the name must be a numeric address. -/
def endsInNumber (host : List Char) : Bool :=
  match (labels host).getLast? with
  | some last =>
    (!last.isEmpty && last.all Char.isDigit) || (2 ≤ last.length && (numberPart? last).isSome)
  | none => false

/-- A number of 32 bits as four decimal numbers. -/
def fourParts (n : Nat) : List Char :=
  s!"{n / 0x1000000 % 256}.{n / 0x10000 % 256}.{n / 0x100 % 256}.{n % 256}".toList

/-- A numeric address of up to four parts, the last one filling all bytes that are left. -/
def numericHost? (host : List Char) : Option (List Char) := do
  let parts ← (labels host).mapM numberPart?
  let last ← parts.getLast?
  let others := parts.dropLast
  if 4 < parts.length || others.any (255 < ·) || Nat.pow 256 (4 - others.length) ≤ last then none
  else
    some (fourParts (others.zipIdx.foldl (fun n (p, i) => n + p * Nat.pow 256 (3 - i)) last))

/-- A decimal number below 256 without zeros in front. -/
def decimalByte? (cs : List Char) : Option Nat :=
  if cs.isEmpty || 3 < cs.length || !cs.all Char.isDigit then none
  else
    let n := cs.foldl (fun n d => n * 10 + (d.toNat - 48)) 0
    if 255 < n || (1 < cs.length && cs.head? == some '0') then none else some n

/-- The groups of an address in brackets: four hexadecimal digits at most between colons; at the end
of the address the last one may be four decimal numbers. -/
def groups? (atEnd : Bool) (cs : List Char) : Option (List Nat) :=
  if cs.isEmpty then some []
  else
    let parts := splitAll ':' cs
    let lastIsFour := (parts.getLast?.map fun last => last.contains '.').getD false
    let group (part : List Char) : Option Nat :=
      if part.isEmpty || 4 < part.length then none
      else part.foldlM (fun n d => (hexDigitValue? d).map (n * 16 + ·)) 0
    if atEnd && lastIsFour then do
      let front ← parts.dropLast.mapM group
      let bytes ← (splitAll '.' (parts.getLast?.getD [])).mapM decimalByte?
      match bytes with
      | [a, b, c, d] => some (front ++ [256 * a + b, 256 * c + d])
      | _ => none
    else parts.mapM group

/-- A list of characters before and after its first double colon. -/
def splitDouble? : List Char → Option (List Char × List Char)
  | ':' :: ':' :: rest => some ([], rest)
  | c :: rest => (splitDouble? rest).map fun (a, b) => (c :: a, b)
  | [] => none

def eightGroups? (cs : List Char) : Option (List Nat) :=
  match splitDouble? cs with
  | some (front, back) => do
    let front ← groups? false front
    let back ← groups? true back
    if 8 ≤ front.length + back.length then none
    else some (front ++ List.replicate (8 - front.length - back.length) 0 ++ back)
  | none => (groups? true cs).filter (·.length == 8)

/-- The length of the run of zeros at the front of a list. -/
def zeroRun (groups : List Nat) : Nat := (groups.takeWhile (· == 0)).length

/-- Groups between colons, the first of the longest runs of two or more zeros left out. -/
def groupsText (groups : List Nat) : List Char :=
  let hex (gs : List Nat) := [':'].intercalate (gs.map (Nat.toDigits 16))
  let runs := (List.range groups.length).map fun i => zeroRun (groups.drop i)
  let longest := runs.foldl max 0
  if longest < 2 then hex groups
  else
    let place := runs.findIdx (· == longest)
    hex (groups.take place) ++ "::".toList ++ hex (groups.drop (place + longest))

/-- The host of an address in normal form. -/
def hostOf? (special : Bool) (cs : List Char) : Option (List Char) :=
  match cs with
  | '[' :: rest =>
    if rest.getLast? == some ']' then
      (eightGroups? rest.dropLast).map fun groups => '[' :: groupsText groups ++ [']']
    else none
  | _ =>
    if special then
      match String.fromUTF8? (ByteArray.mk (percentBytes cs).toArray) with
      | none => none
      | some name =>
        match Domain.asciiName? name.toList with
        | none => none
        | some name =>
          if name.isEmpty || name.any isForbiddenInDomain then none
          else if endsInNumber name then numericHost? name
          else some name
    else if cs.any isForbiddenInHost then none
    else some (percentChars [] cs)

/-! ### Paths -/

/-- Whether a segment stands for the directory itself. -/
def isDot (segment : List Char) : Bool :=
  ["." , "%2e"].contains (String.ofList (segment.map Char.toLower))

/-- Whether a segment stands for the directory above. -/
def isDoubleDot (segment : List Char) : Bool :=
  ["..", ".%2e", "%2e.", "%2e%2e"].contains (String.ofList (segment.map Char.toLower))

/-- Segments after a path given by its reversed segments; dot segments are removed, and one at the
end leaves an empty segment. -/
def addSegments (above : List (List Char)) : List (List Char) → List (List Char)
  | [] => above.reverse
  | [segment] =>
    if isDoubleDot segment then (above.tail.reverse) ++ [[]]
    else if isDot segment then above.reverse ++ [[]]
    else above.reverse ++ [percentChars pathSet segment]
  | segment :: rest =>
    if isDoubleDot segment then addSegments above.tail rest
    else if isDot segment then addSegments above rest
    else addSegments (percentChars pathSet segment :: above) rest

/-- The pieces of a path between slashes. -/
def splitPath (special : Bool) (cs : List Char) : List (List Char) :=
  splitAll '/' (cs.map fun c => if isSlash special c then '/' else c)

/-- The path of a text that begins after the host. -/
def rootedPath (special : Bool) (cs : List Char) : UrlPath :=
  match cs with
  | [] => .rooted (if special then [[]] else [])
  | c :: rest =>
    .rooted (addSegments [] (splitPath special (if isSlash special c then rest else c :: rest)))

/-- A text before and after the first occurrence of a character. -/
def cutAt (mark : Char) (cs : List Char) : List Char × Option (List Char) :=
  match cs.dropWhile (· != mark) with
  | [] => (cs, none)
  | _ :: rest => (cs.takeWhile (· != mark), some rest)

def queryChars (special : Bool) (cs : List Char) : List Char :=
  percentChars (if special then '\'' :: querySet else querySet) cs

/-! ### Whole addresses -/

/-- The text before the last `@` of an authority, if it has one, and the rest. -/
def splitUser (authority : List Char) : Option (List Char) × List Char :=
  match authority.reverse.dropWhile (· != '@') with
  | [] => (none, authority)
  | _ :: reversed => (some reversed.reverse, authority.drop (reversed.length + 1))

/-- The user name and the password of a text before an `@`. -/
def userAndPassword (user : List Char) : List Char × List Char :=
  let (name, password) := cutAt ':' user
  (percentChars userSet name, percentChars userSet (password.getD []))

/-- The host and the port of an authority; a colon inside of brackets belongs to the host. -/
def splitPort (cs : List Char) : List Char × Option (List Char) :=
  match cs with
  | '[' :: _ =>
    let (inside, after) := cutAt ']' cs
    match after with
    | some (':' :: port) => (inside ++ [']'], some port)
    | some rest => (inside ++ ']' :: rest, none)
    | none => (cs, none)
  | _ => cutAt ':' cs

/-- A port: a number below 65536, or none where it is left out or the default one. -/
def portOf? (scheme : List Char) : Option (List Char) → Option (Option Nat)
  | none => some none
  | some [] => some none
  | some digits =>
    if digits.all Char.isDigit then
      let n := digits.foldl (fun n d => n * 10 + (d.toNat - 48)) 0
      if 65535 < n then none
      else some (if defaultPort? scheme == some n then none else some n)
    else none

/-- A port of a scheme without the web ends at a backslash, which then begins the path. -/
def splitBackslash (port : Option (List Char)) : Option (List Char) × List Char :=
  match port with
  | some digits => (some (digits.takeWhile (· != '\\')), digits.dropWhile (· != '\\'))
  | none => (none, [])

/-- The address of a scheme and of what follows `//`, without query and fragment.  A host may only
be left out outside of the web, and only where there is no user and no port; a lone `@` may only
stand there if nothing at all follows. -/
def withAuthority? (scheme cs : List Char) (query fragment : Option (List Char)) : Option Url := do
  let special := isSpecial scheme
  let authority := cs.takeWhile fun c => !isSlash special c
  let (user, rest) := splitUser authority
  let (username, password) := userAndPassword (user.getD [])
  let (hostText, portText) := splitPort rest
  let (portText, slash) := splitBackslash portText
  let path := slash ++ cs.dropWhile fun c => !isSlash special c
  let isLast := path.isEmpty && query.isNone && fragment.isNone
  let port ← portOf? scheme portText
  let host ←
    if hostText.isEmpty then
      if special || portText.isSome || !username.isEmpty || !password.isEmpty ||
          (user == some [] && !isLast) then none
      else some none
    else (hostOf? special hostText).map some
  return { scheme, username, password, host, port, path := rootedPath special path,
           query, fragment }

def fileScheme : List Char := "file".toList

/-- Whether a text is the letter of a drive with its mark. -/
def isDrive : List Char → Bool
  | [c, mark] => c.isAlpha && (mark == ':' || mark == '|')
  | _ => false

/-- The address of a local file, from what follows its scheme, without query and fragment.  The
machine itself is no host, and what stands before the letter of a drive is none either. -/
def localFile? (cs : List Char) (query fragment : Option (List Char)) : Option Url := do
  let noHost (path : List Char) : Url :=
    { scheme := fileScheme, username := [], password := [], host := none, port := none,
      path := rootedPath true path, query, fragment }
  match cs with
  | c :: d :: after =>
    if isSlash true c && isSlash true d then
      let hostText := after.takeWhile fun c => !isSlash true c
      let path := after.dropWhile fun c => !isSlash true c
      if hostText.isEmpty then return noHost path
      else if isDrive hostText then return noHost after
      else
        let host ← hostOf? true hostText
        if host == "localhost".toList || isDrive ((splitPath true (path.drop 1)).headD []) then
          return noHost path
        else return { noHost path with host := some host }
    else return noHost cs
  | _ => return noHost cs

/-- A text without controls and blanks at its ends, and without tabs and line breaks. -/
def cleaned (s : String) : List Char :=
  let isEdge (c : Char) : Bool := c.toNat ≤ 0x20
  let trimmed := ((s.toList.dropWhile isEdge).reverse.dropWhile isEdge).reverse
  trimmed.filter fun c => c != '\t' && c != '\n' && c != '\r'

/-- The scheme of a text, and what follows its colon. -/
def splitScheme? (cs : List Char) : Option (List Char × List Char) :=
  match cs with
  | c :: _ =>
    if c.isAlpha then
      let scheme := cs.takeWhile fun c => c.isAlphanum || c == '+' || c == '-' || c == '.'
      match cs.drop scheme.length with
      | ':' :: rest => some (scheme.map Char.toLower, rest)
      | _ => none
    else none
  | [] => none

namespace Url

def ofText? (s : String) : Option Url := do
  let (scheme, rest) ← splitScheme? (cleaned s)
  let special := isSpecial scheme
  let (rest, fragment) := cutAt '#' rest
  let fragment := fragment.map (percentChars fragmentSet)
  let (rest, query) := cutAt '?' rest
  let query := query.map (queryChars special)
  if special then
    withAuthority? scheme (rest.dropWhile (isSlash true)) query fragment
  else if scheme = fileScheme then localFile? rest query fragment
  else
    match rest with
    | '/' :: '/' :: rest => withAuthority? scheme rest query fragment
    | '/' :: _ =>
      return { scheme, username := [], password := [], host := none, port := none,
               path := rootedPath false rest, query, fragment }
    | _ =>
      return { scheme, username := [], password := [], host := none, port := none,
               path := .bare (percentChars [] rest), query, fragment }

/-- Whether a text has a scheme, so that it is no reference relative to another address. -/
def hasScheme (s : String) : Bool := (splitScheme? (cleaned s)).isSome

/-- The segments of a path without the last one. -/
def directory : UrlPath → List (List Char)
  | .rooted segments => segments.dropLast
  | .bare _ => []

/-- An address with another path, query and fragment. -/
def leadingTo (base : Url) (path : UrlPath) (query fragment : Option (List Char)) : Url :=
  { base with path, query, fragment }

/-- The path of a relative reference, from the directory of an address on. -/
def relativePath (base : Url) (reference : List Char) : UrlPath :=
  .rooted
    (addSegments (directory base.path).reverse (splitPath (isSpecial base.scheme) reference))

/-- The address that a relative reference means at an address. -/
def resolve? (base : Url) (reference : String) : Option Url :=
  let special := isSpecial base.scheme
  let (rest, fragment) := cutAt '#' (cleaned reference)
  let fragment := fragment.map (percentChars fragmentSet)
  let (rest, query) := cutAt '?' rest
  let query := query.map (queryChars special)
  match base.path, rest with
  | .bare _, [] => if query.isNone && fragment.isSome then some { base with fragment } else none
  | .bare _, _ => none
  | .rooted _, [] => some { base with query := query.or base.query, fragment }
  | .rooted _, c :: after =>
    if isSlash special c then
      match after with
      | d :: after =>
        if isSlash special d then withAuthority? base.scheme after query fragment
        else some (base.leadingTo (rootedPath special rest) query fragment)
      | [] => some (base.leadingTo (rootedPath special rest) query fragment)
    else some (base.leadingTo (base.relativePath rest) query fragment)

def pathChars (u : Url) : List Char :=
  match u.path with
  | .rooted segments => segments.flatMap fun segment => '/' :: segment
  | .bare text => text

/-- A part with a mark before it, where there is one. -/
def marked (mark : Char) : Option (List Char) → List Char
  | some cs => mark :: cs
  | none => []

def portChars (u : Url) : List Char := marked ':' (u.port.map fun n => (toString n).toList)

/-- What a request asks for: path and query. -/
def targetChars (u : Url) : List Char := u.pathChars ++ marked '?' u.query

/-- Scheme, host and port as they are written. -/
def originChars (u : Url) : List Char :=
  u.scheme ++ "://".toList ++ u.host.getD [] ++ u.portChars

/-- The address as a server is asked for it: without user and fragment. -/
def requestText (u : Url) : String := String.ofList (u.originChars ++ u.targetChars)

def connectPort? (u : Url) : Option Nat := u.port.or (defaultPort? u.scheme)

def isWeb (u : Url) : Bool := u.scheme == "http".toList || u.scheme == "https".toList

/-- The address with more pairs at the end of its query. -/
def withPairs (u : Url) (pairs : List (String × String)) : Url :=
  let added := (formText pairs).toList
  match u.query with
  | some (c :: cs) => { u with query := some (c :: cs ++ '&' :: added) }
  | _ => { u with query := some added }

end Url

end ScrobbleRelay.Web
