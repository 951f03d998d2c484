/-!
# Environments

An environment gives some names a text.
-/

namespace DeliveryAudit

/-- The environment variables. -/
structure Environment where
  value? : String → Option String

namespace Environment

/-- The environment with these variables. -/
def ofList (entries : List (String × String)) : Environment := ⟨fun name => entries.lookup name⟩

/-- The text of a variable, unless it is empty or not there. -/
def nonempty? (env : Environment) (name : String) : Option String :=
  (env.value? name).filter fun s => !s.isEmpty

end Environment

end DeliveryAudit
