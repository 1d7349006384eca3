import ProxyTestbed.Certificate.Command
import ProxyTestbed.Certificate.Hostname
import ProxyTestbed.Outside.Files

/-!
# Certificates for host names

A certificate and its key are two files in a directory, at places that follow from the host name. Another
program makes them. A host name whose files are there is a conflict; a run that fails or takes too long
leaves no files.
-/

namespace ProxyTestbed

structure Certificate where
  hostname : String
  certPath : Path
  keyPath : Path
  notBefore : Moment
  notAfter : Moment
  deriving DecidableEq, Repr

namespace Certificate

variable {σ τ : Type} [Host σ τ]

def certDirectory : String := "certs"

def keyDirectory : String := "private"

def certPathFor (directory : Path) (hostname : String) : Path :=
  (directory.child certDirectory).child s!"{hostname}.crt"

def keyPathFor (directory : Path) (hostname : String) : Path :=
  (directory.child keyDirectory).child s!"{hostname}.key"

/-- How a certificate is to be made. -/
structure Options where
  days : Int
  keyBits : Int
  /-- The program that makes it. -/
  program : String
  deriving DecidableEq, Repr

/-- How a certificate is made, if nothing else is said. -/
def Options.usual : Options := ⟨365, 2048, "openssl"⟩

/-- The mode of a key: only its owner reads and writes it. -/
def keyMode : Nat := 0o600

/-- Nothing may be at a path. -/
def checkFree (hostname : String) (path : Path) : Act σ τ Unit := do
  if ← Files.isThere path then throw (.certificate (.conflict hostname path.toString))

/-- The arguments of a run can be written. -/
def checkWritten (run : CertificateRun) : Act σ τ Unit :=
  match run.arguments with
  | .ok _ => pure ()
  | .error problem => throw (.foreign (.plain (.program .value) problem.message))

/-- Runs the program, which writes the key before the certificate. -/
def perform (run : CertificateRun) : Act σ τ (RunEnd τ) := do
  let report ← ask (.run run)
  if let some content := report.key then Files.write run.keyPath content
  if let some content := report.certificate then Files.write run.certPath content
  match report.ending with
  | .broken fault => throw fault
  | ending => return ending

/-- Takes away what a run left. -/
def discardFiles (run : CertificateRun) : Act σ τ Unit := do
  Files.discard run.certPath
  Files.discard run.keyPath

/-- The error of a run that failed or took too long. -/
def runError (kind : ProcessError) (stderr : String) : Foreign :=
  .plain (.process kind) stderr

/-- Makes the files of a certificate, or none of them. -/
def generate (run : CertificateRun) : Act σ τ Unit := do
  let report (e : Foreign) : Option (Fault τ) :=
    if e.isMissing then some (.certificate (.noProgram run.program run.hostname e)) else none
  match ← reporting report (perform run) with
  | .failed stderr =>
    discardFiles run
    throw (.certificate (.failed run.hostname stderr (runError .failed stderr)))
  | .expired =>
    discardFiles run
    throw (.certificate (.expired run.hostname (runError .expired "")))
  | .done | .broken _ => return ()

def issue (directory : Path) (hostname : String) (options : Options) : Act σ τ Certificate := do
  if !Hostname.isAccepted hostname then throw (.certificate (.invalidHostname hostname))
  let certPath := certPathFor directory hostname
  let keyPath := keyPathFor directory hostname
  checkFree hostname certPath
  checkFree hostname keyPath
  Files.makeDirectories true certPath.parent
  Files.makeDirectories true keyPath.parent
  let notBefore ← wallClock
  let run : CertificateRun := ⟨options.program, hostname, keyPath, certPath, options.keyBits, options.days⟩
  checkWritten run
  generate run
  Files.setMode keyPath keyMode
  record .info .certs s!"Generated self-signed certificate for {hostname}: {certPath}"
  match notBefore.addDays options.days with
  | .ok notAfter => return ⟨hostname, certPath, keyPath, notBefore, notAfter⟩
  | .error problem => throw (.calendar problem)

end Certificate

end ProxyTestbed
