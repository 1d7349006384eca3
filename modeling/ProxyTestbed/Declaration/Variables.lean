import ProxyTestbed.Declaration.Redirect
import ProxyTestbed.Declaration.VirtualHost
import ProxyTestbed.Dictionary

/-!
# Declarations in environment variables

A backend carries its declarations in variables whose names begin with a fixed word. They are read in
the order of their names, by code point, whatever order they were set in.
-/

namespace ProxyTestbed

/-- Environment variables. -/
abbrev Variables := Dictionary String

namespace Variables

/-- The beginning of the names of virtual host variables. -/
def virtualHostWord : String := "VIRTUAL_HOST"

/-- The beginning of the names of redirect variables. -/
def redirectWord : String := "PROXY_FULL_REDIRECT"

/-- Values under the names `word1`, `word2`, and so on. -/
def numbered (word : String) (values : List String) : Variables :=
  values.zipIdx.map fun (value, i) => (s!"{word}{i + 1}", value)

/-- The values of the variables whose names begin with `word`, in the order of their names. -/
def declared (word : String) (env : Variables) : List String :=
  ((env.filter fun e => word.toList.isPrefixOf e.1.toList).mergeSort
    fun a b => !decide (b.1 < a.1)).map (·.2)

def virtualHosts (env : Variables) : Except DeclarationFault (List VirtualHost) :=
  (declared virtualHostWord env).mapM VirtualHost.read

def redirects (env : Variables) : Except DeclarationProblem (List Redirect) :=
  (declared redirectWord env).mapM Redirect.read

end Variables

end ProxyTestbed
