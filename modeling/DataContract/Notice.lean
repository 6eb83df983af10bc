/-
Notices: what the program says about its work.
-/
namespace DataContract

/-- How much a notice matters. -/
inductive Level where
  | debug
  | info
  | warning
  | error
  deriving DecidableEq

/-- The name of a level. -/
def Level.name : Level → String
  | .debug => "DEBUG"
  | .info => "INFO"
  | .warning => "WARNING"
  | .error => "ERROR"

/-- A notice. -/
structure Notice where
  level : Level
  message : String
  deriving DecidableEq

end DataContract
