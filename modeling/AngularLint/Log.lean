/-! Log records. -/

namespace AngularLint

inductive LogLevel where
  | info
  | warning
deriving DecidableEq, Repr

def LogLevel.name : LogLevel → String
  | .info => "INFO"
  | .warning => "WARNING"

/-- A message for the log, under the name of the part of the program that wrote it. -/
structure LogRecord where
  level : LogLevel
  logger : String
  message : String
deriving DecidableEq, Repr

def LogRecord.line (record : LogRecord) : String :=
  s!"{record.level.name} {record.logger}: {record.message}"

end AngularLint
