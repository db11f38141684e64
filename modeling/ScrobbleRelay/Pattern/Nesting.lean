import ScrobbleRelay.Pattern.Tree

/-!
# The nesting of patterns

Repetitions, groups, sequences, choices and classes hold other patterns, and a part that is held in
too many of them is nested too deep.  Parts are tried in their order, each before what it holds.
-/

namespace ScrobbleRelay.Pattern

/-- The span of the first part of a class that is nested deeper than allowed. -/
def ClassNode.tooDeep? (allowed : Nat) : ClassNode → Option Span
  | bracketed s _ inner =>
    match allowed with
    | 0 => some s
    | n + 1 => inner.tooDeep? n
  | union s items =>
    match allowed with
    | 0 => some s
    | n + 1 => listTooDeep? n items
  | combined s _ left right =>
    match allowed with
    | 0 => some s
    | n + 1 => left.tooDeep? n <|> right.tooDeep? n
  | _ => none
where
  /-- The span of the first item of several that is nested deeper than allowed. -/
  listTooDeep? (allowed : Nat) : List ClassNode → Option Span
    | [] => none
    | c :: rest => c.tooDeep? allowed <|> listTooDeep? allowed rest

/-- The span of the first part of a pattern that is nested deeper than allowed. -/
def Node.tooDeep? (allowed : Nat) : Node → Option Span
  | bracketed s _ inner =>
    match allowed with
    | 0 => some s
    | n + 1 => inner.tooDeep? n
  | repeated s _ _ inner =>
    match allowed with
    | 0 => some s
    | n + 1 => inner.tooDeep? n
  | group s _ _ inner =>
    match allowed with
    | 0 => some s
    | n + 1 => inner.tooDeep? n
  | sequence s parts =>
    match allowed with
    | 0 => some s
    | n + 1 => listTooDeep? n parts
  | choice s branches =>
    match allowed with
    | 0 => some s
    | n + 1 => listTooDeep? n branches
  | _ => none
where
  /-- The span of the first of several patterns that is nested deeper than allowed. -/
  listTooDeep? (allowed : Nat) : List Node → Option Span
    | [] => none
    | n :: rest => n.tooDeep? allowed <|> listTooDeep? allowed rest

end ScrobbleRelay.Pattern
