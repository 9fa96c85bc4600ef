import Railroad.Named

namespace Railroad

inductive LogLevel where
  | critical
  | error
  | warning
  | info
  | debug
  deriving DecidableEq, Repr

instance : Named LogLevel where
  family := "LogLevel"
  all := [.critical, .error, .warning, .info, .debug]
  name
    | .critical => "CRITICAL"
    | .error => "ERROR"
    | .warning => "WARNING"
    | .info => "INFO"
    | .debug => "DEBUG"

end Railroad
