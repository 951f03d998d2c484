/-!
# Notices

What the program logs while it runs: a level, the part of the program
that speaks, and a text.
-/

namespace DeliveryAudit

/-- How important a notice is. -/
inductive Level where
  | debug
  | info
  | warning
deriving DecidableEq

/-- A level in writing. -/
def Level.text : Level → String
  | debug => "DEBUG"
  | info => "INFO"
  | warning => "WARNING"

/-- The part of the program that speaks. -/
inductive Speaker where
  | settings
  | retry
  | reader
  | audit
  | main
deriving DecidableEq

/-- The name under which a part of the program speaks. -/
def Speaker.name : Speaker → String
  | settings => "src.config"
  | retry => "src.retry"
  | reader => "src.readers"
  | audit => "src.validator"
  | main => "main"

/-- One notice. -/
structure Notice where
  level : Level
  speaker : Speaker
  text : String
deriving DecidableEq

end DeliveryAudit
