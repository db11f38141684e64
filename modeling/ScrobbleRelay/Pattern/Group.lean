import ScrobbleRelay.Pattern.Reading
import ScrobbleRelay.Text.Letter

/-!
# The beginning of groups

A parenthesis begins a group, whose part of a text may be remembered under a name, or it only sets
flags.  What begins like a look at the text around is refused.
-/

namespace ScrobbleRelay.Pattern

/-- What a parenthesis begins: flags for what follows, or a group. -/
inductive Opening
  | flags (span : Span) (signs : List FlagSign)
  | group (span : Span) (captures : Bool) (signs : List FlagSign)
  deriving Repr

def flagOf? : Char → Option Flag
  | 'i' => some .ignoreCase
  | 'm' => some .multiLine
  | 's' => some .dotAll
  | 'U' => some .swapGreed
  | 'u' => some .unicode
  | 'R' => some .carriageReturns
  | 'x' => some .loose
  | _ => none

/-- Read one sign of a list of flags, behind those before it. -/
def readFlagSign (signs : List FlagSign) (c : Char) : Reader FlagSign := do
  let span ← spanOf c
  let flag ←
    if c == '-' then pure none
    else
      match flagOf? c with
      | some flag => pure (some flag)
      | none => complain .flagUnknown span
  match signs.find? (·.flag == flag) with
  | some earlier =>
    complainAgainst earlier.span (if flag.isSome then .flagTwice else .flagNegatedTwice) span
  | none => return ⟨span, flag⟩

/-- Read the flags up to the colon or the parenthesis that ends them. -/
def readFlags : Nat → List FlagSign → Reader (List FlagSign)
  | 0, signs => return signs
  | fuel + 1, signs => do
    match ← ahead with
    | [] => complainHere .flagCut
    | c :: _ =>
      if c == ':' || c == ')' then
        match signs.getLast? with
        | some ⟨span, none⟩ => complain .flagDangling span
        | _ => return signs
      else
        let sign ← readFlagSign signs c
        advance
        readFlags fuel (signs ++ [sign])

/-- Whether a character may stand in the name of a group, as its first or later. -/
def isNameChar (first : Bool) (c : Char) : Bool :=
  if first then c == '_' || Text.isLetter c
  else c == '_' || c == '.' || c == '[' || c == ']' || Text.isLetterOrNumber c

/-- Read the characters of a name up to the bracket that closes it. -/
def readNameChars : Nat → Bool → Reader (List Char)
  | 0, _ => complainHere .nameCut
  | fuel + 1, first => do
    match ← ahead with
    | [] => complainHere .nameCut
    | '>' :: _ => return []
    | c :: _ =>
      if isNameChar first c then
        advance
        let more ← readNameChars fuel false
        return c :: more
      else complainOf c .nameCharacter

/-- Read the name of a group; no other group may have it. -/
def readName : Reader Unit := do
  let start ← here
  let name ← readNameChars ((← ahead).length + 1) true
  let span := ⟨start, ← here⟩
  advance
  if name.isEmpty then complain .nameEmpty (.at start)
  match (← get).names.lookup name with
  | some earlier => complainAgainst earlier .nameTwice span
  | none => modify fun r => { r with names := (name, span) :: r.names }

/-- The beginnings of looks at the text around. -/
def lookMarks : List String := ["?=", "?!", "?<=", "?<!"]

/-- Read the text at the front of what is left, if it is there. -/
def readMark (mark : String) : Reader Bool := do
  if mark.toList.isPrefixOf (← ahead) then
    advanceBy mark.length
    return true
  else return false

def readNameMark : Reader Bool := do
  if ← readMark "?P<" then return true else readMark "?<"

/-- Read the beginning of a group, from its parenthesis on. -/
def readOpening : Reader Opening := do
  let span ← spanOf '('
  advance
  skipSpace
  for mark in lookMarks do
    if ← readMark mark then complainSince span.first .lookAround
  let inner ← here
  if ← readNameMark then
    readName
    return .group span true []
  else if ← readMark "?" then
    if (← ahead).isEmpty then complain .groupOpen span
    let signs ← readFlags ((← ahead).length + 1) []
    let closes := (← ahead).head? == some ')'
    advance
    if !closes then return .group span false signs
    else if signs.isEmpty then complain .nothingToRepeat (.at inner)
    else return .flags ⟨span.first, ← here⟩ signs
  else return .group span true []

end ScrobbleRelay.Pattern
