import Issuebot.Python

/-!
# GitHub failures

One error type for every GitHub failure, with a stable category.
-/

namespace Issuebot
set_option autoImplicit false

inductive ErrorCategory where
  | auth
  | notFound
  | rateLimited
  | transport
  | status
  | response
  | config
  deriving DecidableEq, Repr

/-- The word an error prints. -/
def ErrorCategory.value : ErrorCategory → String
  | auth => "auth"
  | notFound => "not_found"
  | rateLimited => "rate_limited"
  | transport => "transport"
  | status => "status"
  | response => "response"
  | config => "config"

/-- `GitHubError`; `ceiling` marks its subclass `PageCeilingError`, whose category is
`response`. -/
structure GitHubError where
  category : ErrorCategory
  message : String
  ceiling : Bool := false
  deriving DecidableEq, Repr

/-- `str(exc)` -/
def GitHubError.text (error : GitHubError) : String := error.category.value ++ ": " ++ error.message

/-- A read stopped at its ceiling. -/
def pageCeilingError (overflow : String) : GitHubError where
  category := .response
  message := overflow
  ceiling := true

end Issuebot
