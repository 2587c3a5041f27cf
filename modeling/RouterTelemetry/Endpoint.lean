import RouterTelemetry.Failure
import RouterTelemetry.Url.Basic

/-!
# Endpoints

The address of the router.  An endpoint that is given by its user has to be
secure; one that is built from a URL is taken as it is.
-/

namespace RouterTelemetry

/-- The address of the router. -/
structure Endpoint where
  url : Url
deriving Repr, DecidableEq

/-- Every resource is below this path. -/
def interfaceRoot : String :=
  "/api/v1"

namespace Endpoint

/-- The only scheme that is accepted. -/
def secureScheme : String :=
  "https"

/-- Reads an address and checks that it is secure. -/
def parse (text : String) : Except Failure Endpoint :=
  match Url.parse text with
  | .error fault => .error (.invalidEndpoint text fault.message)
  | .ok url =>
      if url.scheme = secureScheme then
        .ok ⟨url⟩
      else
        .error (.invalidEndpoint text ("scheme must be https, got " ++ url.scheme))

/-- A text without the slashes at its end. -/
def withoutEndSlashes (text : String) : String :=
  String.ofList ((text.toList.reverse.dropWhile (· == '/')).reverse)

/-- The address of a path below the root of the interface. -/
def addressOf (endpoint : Endpoint) (path : String) : String :=
  withoutEndSlashes endpoint.url.href ++ interfaceRoot ++ path

end Endpoint

end RouterTelemetry
