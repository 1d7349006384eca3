import ProxyTestbed.Seconds
import ProxyTestbed.Text.Pieces

/-!
# What is probed

A probe goes to a port at an address, whatever virtual host it asks for: the host is only named in the
request, and over an encrypted connection while it is set up.
-/

namespace ProxyTestbed

/-- A virtual host behind a port, and a path of it. -/
structure Target where
  address : String
  /-- Nothing if the port is not known, so the probe leads nowhere. -/
  port : Option Int
  host : String
  path : String
  deriving DecidableEq, Repr

namespace Target

/-- The text for a thing that is not there. -/
def missingText : String := "None"

/-- A whole number as it stands in a report, or the text for none. -/
def numberText (n : Option Int) : String :=
  match n with
  | none => missingText
  | some n => toString n

/-- A number of seconds as it stands in a report, or the text for none. -/
def secondsText {τ : Type} [Seconds τ] (seconds : Option τ) : String :=
  match seconds with
  | none => missingText
  | some seconds => Seconds.written seconds

/-- A path with a slash at its front. -/
def rooted (path : String) : String :=
  if path.toList.head? = some '/' then path else "/" ++ path

def url (t : Target) (scheme : String) : String :=
  s!"{scheme}://{t.address}:{numberText t.port}{rooted t.path}"

/-- The name of a host without a port: what stands in brackets, or before a single colon. -/
def nameOf (host : List Char) : List Char :=
  match host with
  | '[' :: r => (Text.cutAt ']' r).1
  | host => if host.count ':' = 1 then (Text.cutAt ':' host).1 else host

/-- The name that the server is asked for while an encrypted connection is set up. -/
def serverName (host : String) : String :=
  String.ofList (nameOf host.toList)

end Target

end ProxyTestbed
