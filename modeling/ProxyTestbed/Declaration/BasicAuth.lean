import ProxyTestbed.Declaration.VirtualHost

/-!
# Declarations of protected hosts

    host[/path] -> user:password

`BasicAuth.write` builds a declaration and `BasicAuth.read` reads one. Only the user name is checked
for colons when a declaration is built; when one is read the password must have none either.
-/

namespace ProxyTestbed

/-- A host, or a path of it, that asks for a name and a password. -/
structure BasicAuth where
  host : String
  path : Option String
  username : String
  password : String
  deriving DecidableEq, Repr

namespace BasicAuth

/-- The declaration that protects a host or a path of it. -/
def write (a : BasicAuth) : Except DeclarationProblem String :=
  if a.username.toList.contains ':' then .error .colonInUsername
  else .ok (a.host ++ VirtualHost.rooted a.path ++ " -> " ++ a.username ++ ":" ++ a.password)

def read (value : String) : Except DeclarationProblem BasicAuth :=
  match Text.splitArrows value.toList with
  | [targetText, credentialText] =>
    let credentials := Text.trim credentialText
    match Text.splitOn ':' credentials with
    | [username, password] =>
      let (host, rest) := Text.cutAt '/' (Text.trim targetText)
      .ok {
        host := String.ofList host
        path := rest.map fun r => String.ofList ('/' :: r)
        username := String.ofList username
        password := String.ofList password }
    | _ => .error (.badCredentials (String.ofList credentials))
  | _ => .error (.badBasicAuth value)

end BasicAuth

end ProxyTestbed
