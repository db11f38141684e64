/-!
# Values and documents of TOML

A document is written as assignments and headings, and means a table: names with values, in the
order in which they were first given.  Integers are those of 64 bits, floating-point numbers are
held by their bits, and of a date or time only the fact that it is one is kept.
-/

namespace ScrobbleRelay.Toml

/-- A value of a document. -/
inductive Value where
  | string (s : String)
  | integer (n : Int)
  | float (bits : UInt64)
  | boolean (b : Bool)
  | datetime
  | array (items : List Value)
  | table (entries : List (String × Value))
  deriving Repr

abbrev Entries := List (String × Value)

/-- A value given to a name, which may stand at the end of a path of names. -/
structure Assignment where
  path : List String
  name : String
  value : Value
  deriving Repr

/-- The heading of a part of a document: a table, or one more element of an array of tables. -/
structure Heading where
  path : List String
  name : String
  isElement : Bool
  deriving Repr, DecidableEq

/-- A part of a document: a heading and the assignments below it. -/
structure Section where
  heading : Heading
  assignments : List Assignment
  deriving Repr

/-- A document as it is written: assignments without a heading, then parts. -/
structure Document where
  assignments : List Assignment
  sections : List Section
  deriving Repr

end ScrobbleRelay.Toml
