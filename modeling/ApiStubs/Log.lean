/- Records of what the compiler did, by weight. -/

set_option autoImplicit false

namespace ApiStubs.Log

inductive Level where
  | debug
  | info
  | warning
  | error
deriving DecidableEq, Repr

def Level.weight : Level → Nat
  | .debug => 10
  | .info => 20
  | .warning => 30
  | .error => 40

def Level.name : Level → String
  | .debug => "DEBUG"
  | .info => "INFO"
  | .warning => "WARNING"
  | .error => "ERROR"

structure Record where
  level : Level
  text : String
deriving DecidableEq, Repr

def Record.line (r : Record) : String :=
  "[" ++ r.level.name ++ "] " ++ r.text

end ApiStubs.Log
