/-!
# Texts that begin in a given way

What follows a given opening of a text.
-/

namespace ScrobbleRelay.Text

/-- What follows an opening in a text that begins with it. -/
def after? (opening s : String) : Option String :=
  if opening.toList.isPrefixOf s.toList then some (String.ofList (s.toList.drop opening.length))
  else none

end ScrobbleRelay.Text
