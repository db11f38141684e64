import ScrobbleRelay.Proofs.Web.FormTexts
import ScrobbleRelay.Web.Url

/-!
# Queries with more pairs

Pairs are added behind a query.  What it holds already stays in front as it
is, so its parameters come first and unchanged, and each added pair is one more
parameter, whatever its texts hold.
-/

namespace ScrobbleRelay.Web

/-! ## Parameters -/

namespace Url

/-- What stands before the pairs that are added to a query: the query itself,
and an ampersand unless it is empty. -/
def beforeAdded (u : Url) : List Char :=
  if u.query.getD [] = [] then [] else u.query.getD [] ++ ['&']

/-- The parameters of an address as they are written; a query that is empty or
not there has none. -/
def parameters (u : Url) : List (List Char) :=
  if u.query.getD [] = [] then [] else splitAll '&' (u.query.getD [])

variable (u : Url) (pairs : List (String × String))

/-- More pairs change nothing about an address but its query. -/
theorem withPairs_eq :
    u.withPairs pairs =
      { u with query := some (u.beforeAdded ++ (formText pairs).toList) } := by
  unfold withPairs beforeAdded
  split
  next c cs hquery => simp [hquery]
  next hquery =>
    have hempty : u.query.getD [] = [] := by
      rcases hown : u.query with _ | _ | ⟨c, cs⟩
      · rfl
      · rfl
      · exact absurd hown (hquery c cs)
    simp [hempty]

/-- The parameters that an address has stay first, and each added pair is one
more. -/
theorem parameters_withPairs {pairs : List (String × String)} (h : pairs ≠ []) :
    (u.withPairs pairs).parameters = u.parameters ++ pairs.map pairChars := by
  have hadded : (formText pairs).toList ≠ [] := by
    intro hempty
    have hpieces := splitAll_formText h
    rw [hempty] at hpieces
    obtain ⟨pair, others, rfl⟩ := List.exists_cons_of_ne_nil h
    simp [splitAll, pairChars] at hpieces
  rw [withPairs_eq, parameters, Option.getD_some, if_neg (by simp [hadded]),
    parameters, beforeAdded]
  by_cases hown : u.query.getD [] = []
  · rw [if_pos hown, if_pos hown, List.nil_append, List.nil_append,
      splitAll_formText h]
  · have hsplit (front rest : List Char) : splitAll '&' (front ++ '&' :: rest) =
        splitAll '&' front ++ splitAll '&' rest := by
      simp only [splitAll_eq_splitOn, List.splitOn_append_cons_self]
    rw [if_neg hown, if_neg hown, List.append_assoc, List.singleton_append,
      hsplit, splitAll_formText h]

/-- What a server is asked for: the address without its fragment, its own query
first. -/
theorem requestText_withPairs :
    (u.withPairs pairs).requestText =
      String.ofList (u.originChars ++ u.pathChars ++
        '?' :: u.beforeAdded ++ (formText pairs).toList) := by
  rw [withPairs_eq]
  simp [requestText, targetChars, originChars, portChars, pathChars, marked]

end Url

end ScrobbleRelay.Web
