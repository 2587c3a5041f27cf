/-!
# Environments

Named texts that a program is given from outside.
-/

namespace RouterTelemetry

/-- Variables with their values; of two with one name the first counts. -/
abbrev Environment := List (String × String)

namespace Environment

/-- The value of a variable. -/
def value? (environment : Environment) (name : String) : Option String :=
  environment.lookup name

/-- Sets a variable unless it is set. -/
def withDefault (name value : String) (environment : Environment) : Environment :=
  match environment.value? name with
  | some _ => environment
  | none => environment ++ [(name, value)]

end Environment

end RouterTelemetry
