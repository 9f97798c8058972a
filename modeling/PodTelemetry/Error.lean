namespace PodTelemetry

/-! ## Errors -/

/-- Which part of the work an error comes from. -/
inductive ErrorKind where
  | kubernetes
  | decode
  | namespaceLookup
  | topology
  | injection
  | serialization
  | configuration
  | server
  deriving DecidableEq, Repr, Inhabited

/-- An error with the account that its source gives of it. -/
structure Error where
  kind : ErrorKind
  account : String
  deriving DecidableEq, Repr, Inhabited

/-- What an error's text starts with. -/
def ErrorKind.heading : ErrorKind → String
  | .kubernetes => "kubernetes error"
  | .decode => "decode error"
  | .namespaceLookup => "namespace error"
  | .topology => "topology error"
  | .injection => "injection error"
  | .serialization => "serialization error"
  | .configuration => "configuration error"
  | .server => "server error"

def Error.text (error : Error) : String :=
  error.kind.heading ++ ": " ++ error.account

/-- A prerequisite is missing when the namespace or the topology could not be
found out. -/
def Error.isPrerequisite (error : Error) : Bool :=
  error.kind = .namespaceLookup || error.kind = .topology

end PodTelemetry
