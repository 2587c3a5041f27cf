import RouterTelemetry.Group
import RouterTelemetry.Json.Fault

/-!
# Failures

Everything that can stop a run, with the path and the group in which it arose.
-/

namespace RouterTelemetry

/-- Why something could not be done. -/
inductive Failure where
  | invalidEndpoint (url reason : String)
  /-- No complete answer came, for the reason that the transport gives. -/
  | transport (reason : String)
  | login (reason : String)
  | decode (path : String) (fault : Json.Fault)
  | emptyResponse (resource : String)
  | inResource (resource : String) (cause : Failure)
  | inGroup (group : Group) (cause : Failure)
  | configuration (reason : String)
  | registry (reason : String)
  | io (reason : String)

/-- The wording of a failure. -/
def Failure.message : Failure → String
  | .invalidEndpoint url reason =>
      "Invalid Bbox endpoint " ++ Text.quoted url ++ ": " ++ reason
  | .transport reason => "HTTP transport error: " ++ reason
  | .login reason => "Authentication failed: " ++ reason
  | .decode path fault => "Failed to decode " ++ path ++ ": " ++ fault.message
  | .emptyResponse resource => "Empty response from " ++ resource
  | .inResource resource cause => resource ++ ": " ++ cause.message
  | .inGroup group cause => group.name ++ " metrics: " ++ cause.message
  | .configuration reason => "Configuration error: " ++ reason
  | .registry reason => "Metrics error: " ++ reason
  | .io reason => "IO error: " ++ reason

/-- The failure arose while logging in, however deeply it is wrapped. -/
def Failure.isLogin : Failure → Bool
  | .login _ => true
  | .inResource _ cause => cause.isLogin
  | .inGroup _ cause => cause.isLogin
  | _ => false

end RouterTelemetry
