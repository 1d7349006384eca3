import ProxyTestbed.Number.Read

/-!
# What is wrong with a declaration

A backend declares its routes in environment variables. A declaration that breaks the rules is
rejected with a `DeclarationProblem`. A port is accepted by its characters before its number is read,
so a port of characters that only look like digits, or of too many digits, passes the rules and then
fails as a number: that is the second way in which reading a declaration can fail. Building one fails
in that way too, with a port of too many digits.
-/

namespace ProxyTestbed

/-- A rule of the declarations that is broken. -/
inductive DeclarationProblem
  | unsupportedScheme (scheme : String)
  | noSourceGiven
  | colonInUsername
  | badPort (value : String)
  | badVirtualHost (value : String)
  | noHostname (value : String)
  | badRedirect (value : String)
  | redirectWithoutSource (value : String)
  | badBasicAuth (value : String)
  | badCredentials (credentials : String)
  deriving DecidableEq, Repr

def DeclarationProblem.message : DeclarationProblem → String
  | .unsupportedScheme scheme => s!"unsupported scheme {Text.quoted scheme}"
  | .noSourceGiven => "a redirect needs at least one source"
  | .colonInUsername => "username must not contain ':'"
  | .badPort value => s!"invalid port in VIRTUAL_HOST: {value}"
  | .badVirtualHost value => s!"invalid VIRTUAL_HOST format: {value}"
  | .noHostname value => s!"missing hostname in VIRTUAL_HOST: {value}"
  | .badRedirect value => s!"invalid redirect rule format: {value}"
  | .redirectWithoutSource value => s!"redirect rule without sources: {value}"
  | .badBasicAuth value => s!"invalid basic auth format: {value}"
  | .badCredentials credentials => s!"invalid credentials format: {credentials}"

/-- Why a declaration cannot be read or built. -/
inductive DeclarationFault
  /-- It breaks a rule. -/
  | rejected (problem : DeclarationProblem)
  /-- A port has no number. -/
  | number (problem : Number.IntegerProblem)
  deriving DecidableEq, Repr

def DeclarationFault.message : DeclarationFault → String
  | .rejected problem => problem.message
  | .number problem => problem.message

end ProxyTestbed
