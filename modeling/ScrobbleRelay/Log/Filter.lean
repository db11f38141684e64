import ScrobbleRelay.Log
import ScrobbleRelay.Pattern
import ScrobbleRelay.Text.Blank

/-!
# Filters of log lines

A filter is a list of directives, each of them a level for all parts of the program whose names
begin in a given way, and an optional pattern that must occur in every line.  Of the directives for
a part the one with the longest name counts.
-/

namespace ScrobbleRelay.Log

/-- A level for the parts whose names begin with a text; level `0` shows nothing. -/
structure Directive where
  name : Option String
  level : Nat
  deriving Repr, DecidableEq

/-- Which lines are shown. -/
structure Filter where
  directives : List Directive
  within : Option Pattern.Shape
  deriving Repr

/-- The names of levels in the order of their numbers. -/
def levelNames : List String := ["OFF", "ERROR", "WARN", "INFO", "DEBUG", "TRACE"]

def greatestLevel : Nat := 5

/-- The number of a level given by its name in letters of either case. -/
def levelOfName? (name : String) : Option Nat :=
  let upper := String.ofList (name.toList.map Char.toUpper)
  levelNames.findIdx? (· == upper)

/-- One directive of a specification: a name, a level, or both around an equals sign; an error is
the part that makes no sense. -/
def readDirective (text : String) : Except String Directive :=
  match text.splitOn "=" with
  | [one] =>
    match levelOfName? one with
    | some level => .ok ⟨none, level⟩
    | none => .ok ⟨some one, greatestLevel⟩
  | [name, level] =>
    let level := Text.trim level
    if level.isEmpty then .ok ⟨some name, greatestLevel⟩
    else
      match levelOfName? level with
      | some level => .ok ⟨some name, level⟩
      | none => .error level
  | _ => .error text

/-- Directives with one more; an earlier one for the same name is replaced. -/
def insertDirective (directives : List Directive) (d : Directive) : List Directive :=
  if directives.any fun e => e.name == d.name then
    directives.map fun e => if e.name == d.name then d else e
  else directives ++ [d]

/-- The lines of a warning about a part of a specification that is left out. -/
def warningLines (about : String) : List String :=
  s!"warning: {about}, ignoring it".splitOn "\n"

/-- The warning about a part of a specification that makes no sense. -/
def specificationWarning (part : String) : List String :=
  warningLines s!"invalid logging spec {part}"

/-- The warning about a pattern that cannot be used. -/
def patternWarning (pattern : String) (refusal : Pattern.Refusal) : List String :=
  warningLines s!"invalid regex filter - {refusal.message pattern}"

/-- The directives of the items of a specification, and the warnings about the other items. -/
def readDirectives (items : List String) : List Directive × List String :=
  items.foldl
    (fun (directives, warnings) item =>
      let item := Text.trim item
      if item.isEmpty then (directives, warnings)
      else
        match readDirective item with
        | .ok d => (insertDirective directives d, warnings)
        | .error part => (directives, warnings ++ specificationWarning s!"'{part}'"))
    ([], [])

/-- What is shown where a specification says nothing: errors only. -/
def errorsOnly : List Directive := [⟨none, 1⟩]

/-- The pattern that a specification ends with, and the warning about it if it cannot be used. -/
def readPattern : Option String → Option Pattern.Shape × List String
  | none => (none, [])
  | some pattern =>
    match Pattern.ofText pattern with
    | .ok shape => (some shape, [])
    | .error refusal => (none, patternWarning pattern refusal)

/-- The filter of a specification, and the warnings about its parts that make no sense. -/
def Filter.ofText (specification : String) : Filter × List String :=
  match specification.splitOn "/" with
  | directives :: rest =>
    if 1 < rest.length then
      (⟨errorsOnly, none⟩, specificationWarning s!"'{specification}' (too many '/'s)")
    else
      let (read, warnings) := readDirectives (directives.splitOn ",")
      let (within, more) := readPattern rest.head?
      (⟨if read.isEmpty then errorsOnly else read, within⟩, warnings ++ more)
  | [] => (⟨errorsOnly, none⟩, [])

def programPart : String := "cmus_scrobbler"

/-- The filter without a specification: information, and more about this program if it is asked to
be verbose. -/
def Filter.standard (verbose : Bool) : Filter :=
  ⟨⟨none, 3⟩ :: (if verbose then [⟨some programPart, 4⟩] else []), none⟩

def Origin.fullName (o : Origin) : String := programPart ++ "::" ++ o.label

/-- Whether a directive speaks about a part. -/
def Directive.covers (d : Directive) (o : Origin) : Bool :=
  match d.name with
  | none => true
  | some name => o.fullName.startsWith name

/-- The length of the name of a directive. -/
def Directive.weight (d : Directive) : Nat := (d.name.map String.utf8ByteSize).getD 0

def Filter.directiveFor? (f : Filter) (o : Origin) : Option Directive :=
  (f.directives.filter (·.covers o)).foldl
    (fun best d =>
      match best with
      | some b => if b.weight ≤ d.weight then some d else some b
      | none => some d) none

def Filter.shows (f : Filter) (line : Line) : Bool :=
  match f.directiveFor? line.origin with
  | some d => line.level.rank ≤ d.level && f.within.all (·.occursIn line.text)
  | none => false

end ScrobbleRelay.Log
