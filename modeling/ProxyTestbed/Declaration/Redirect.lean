import ProxyTestbed.Declaration.Problem
import ProxyTestbed.Text.Pieces

/-!
# Redirect declarations

    source[,source]...->target

Blanks do not count. `Redirect.write` builds a declaration and `Redirect.read` reads one.
-/

namespace ProxyTestbed

/-- Hosts that are sent on to another one. -/
structure Redirect where
  /-- The hosts, never none. -/
  sources : List String
  target : String
  deriving DecidableEq, Repr

namespace Redirect

/-- The declaration that sends the sources to the target. -/
def write (sources : List String) (target : String) : Except DeclarationProblem String :=
  if sources.isEmpty then .error .noSourceGiven
  else .ok (",".intercalate sources ++ "->" ++ target)

/-- Reads a declaration. Sources without a name are left out. -/
def read (value : String) : Except DeclarationProblem Redirect :=
  match Text.splitArrows (Text.dropBlanks value.toList) with
  | [sourceText, target] =>
    if target.isEmpty then .error (.badRedirect value)
    else
      let sources := (Text.splitOn ',' sourceText).filter fun s => !s.isEmpty
      if sources.isEmpty then .error (.redirectWithoutSource value)
      else .ok ⟨sources.map String.ofList, String.ofList target⟩
  | _ => .error (.badRedirect value)

end Redirect

end ProxyTestbed
