import ProxyTestbed.Number.Read
import ProxyTestbed.Outside.Request

/-!
# The command that makes a certificate

The program is asked for a key and a certificate that it signs by itself, naming the host as its subject
and as its only alternative name. Its numbers are written among the arguments, if they are not too long for that.
-/

namespace ProxyTestbed.CertificateRun

/-- The program and its arguments. -/
def arguments (run : CertificateRun) : Except Number.IntegerProblem (List String) := do
  let keyBits ← Number.writeInteger run.keyBits
  let days ← Number.writeInteger run.days
  return [run.program, "req", "-x509", "-newkey", s!"rsa:{keyBits}",
    "-keyout", run.keyPath.toString, "-out", run.certPath.toString,
    "-days", days, "-nodes", "-sha256",
    "-subj", s!"/O=Test Org/CN={run.hostname}",
    "-addext", s!"subjectAltName=DNS:{run.hostname}",
    "-addext", "keyUsage=digitalSignature,keyEncipherment",
    "-addext", "extendedKeyUsage=serverAuth"]

/-- How many seconds the program is given. -/
def timeLimit : Int := 60

end ProxyTestbed.CertificateRun
