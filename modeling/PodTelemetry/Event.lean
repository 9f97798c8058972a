namespace PodTelemetry

/-! ## Events that are logged -/

inductive Level where
  | error | warn | info | debug | trace
  deriving DecidableEq, Repr, Inhabited

inductive FieldValue where
  | text (value : String)
  | count (value : Nat)
  deriving DecidableEq, Repr, Inhabited

structure Event where
  level : Level
  message : String
  fields : List (String × FieldValue)
  deriving DecidableEq, Repr, Inhabited

end PodTelemetry
