/-!
# Paths

A path is a text whose parts stand between slashes.  A path that begins with a slash starts at the
root, every other path at the working directory.  Empty parts mean nothing; a part of one dot stays
where it is, a part of two dots goes up.
-/

namespace ScrobbleRelay.Files

def partsOf (path : String) : List String :=
  (path.splitOn "/").filter fun part => !part.isEmpty

/-- Whether a path starts at the root. -/
def isAbsolute (path : String) : Bool := path.startsWith "/"

/-- Whether a path asks for a directory by a slash at its end. -/
def endsInSlash (path : String) : Bool := path.endsWith "/"

/-- The parts of a path that say where to go: a single dot counts only at the front of a path from
the working directory. -/
def stepsOf (path : String) : List String :=
  match partsOf path with
  | [] => []
  | first :: rest =>
    let rest := rest.filter (· != ".")
    if first = "." && isAbsolute path then rest else first :: rest

/-- The path of the directory that holds what a path leads to; the root and the empty path have
none. -/
def parent? (path : String) : Option String :=
  match stepsOf path with
  | [] => none
  | steps =>
    let above := "/".intercalate steps.dropLast
    some (if isAbsolute path then "/" ++ above else above)

/-- The path of a name below a directory. -/
def join (directory name : String) : String :=
  if directory.isEmpty || endsInSlash directory then directory ++ name
  else directory ++ "/" ++ name

end ScrobbleRelay.Files
