import PodTelemetry.Error
import PodTelemetry.Network.Address

namespace PodTelemetry

open Network (SocketAddress)

/-! ## The server and its TLS material

A server can only be started when its certificate and its private key can be
read. -/

/-- Where the server listens and where its certificate and key lie. -/
structure ServerConfig where
  address : SocketAddress := .overIPv4 ⟨0, 0, 0, 0⟩ 9443
  certificatePath : String := "/tmp/k8s-webhook-server/serving-certs/tls.crt"
  keyPath : String := "/tmp/k8s-webhook-server/serving-certs/tls.key"
  deriving DecidableEq, Repr

/-- Why a file cannot be read. -/
inductive FileFault where
  | missing
  | isDirectory
  | notDirectory
  | nameTooLong
  | containsNul
  deriving DecidableEq, Repr

def FileFault.text : FileFault → String
  | .missing => "No such file or directory (os error 2)"
  | .isDirectory => "Is a directory (os error 21)"
  | .notDirectory => "Not a directory (os error 20)"
  | .nameTooLong => "File name too long (os error 36)"
  | .containsNul => "file name contained an unexpected NUL byte"

/-- What a machine answers when the file at a path is read: whether there is a
private key in it, and no second one. -/
abbrev Files := String → Except FileFault Bool

/-- A bare machine, on which there are no files. -/
def bareFiles : Files := fun _ => .error .missing

/-! ### Starting -/

/-- Why TLS material cannot be used. -/
inductive MaterialFault where
  | unreadable (path : String) (fault : FileFault)
  | unsupportedKey
  deriving DecidableEq, Repr

def MaterialFault.text : MaterialFault → String
  | .unreadable path fault =>
      s!"failed to read from file \x60{path}\x60: {fault.text}"
  | .unsupportedKey => "private key format not supported"

namespace ServerConfig

/-- What is amiss with the TLS material. The certificate is read before the
key. -/
def materialFault? (config : ServerConfig) (files : Files) :
    Option MaterialFault :=
  match files config.certificatePath, files config.keyPath with
  | .error fault, _ => some (.unreadable config.certificatePath fault)
  | .ok _, .error fault => some (.unreadable config.keyPath fault)
  | .ok _, .ok false => some .unsupportedKey
  | .ok _, .ok true => none

/-- The error with which the server does not start. -/
def startError? (config : ServerConfig) (files : Files) : Option Error :=
  (config.materialFault? files).map fun fault =>
    ⟨.configuration,
      "failed to load TLS material from " ++ config.certificatePath ++
      " and " ++ config.keyPath ++ ": " ++ fault.text⟩

/-- The server starts exactly when the certificate can be read and there is a
private key where one is expected. -/
theorem startError?_eq_none_iff {config : ServerConfig} {files : Files} :
    config.startError? files = none ↔
      (∃ holdsKey, files config.certificatePath = .ok holdsKey) ∧
        files config.keyPath = .ok true := by
  unfold startError? materialFault?
  rw [Option.map_eq_none_iff]
  cases files config.certificatePath with
  | error fault => simp
  | ok holdsKey =>
      cases files config.keyPath with
      | error fault => simp
      | ok found => cases found <;> simp

example : ({} : ServerConfig).startError? bareFiles ≠ none := by
  decide

end ServerConfig

end PodTelemetry
