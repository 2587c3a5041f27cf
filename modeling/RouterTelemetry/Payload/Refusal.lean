import RouterTelemetry.Json.Format

/-!
# Refused logins

The body with which the router explains why it refuses a request.
-/

namespace RouterTelemetry.Payload

open Json

/-- What is wrong with one parameter of a request. -/
structure RefusalDetail where
  name : String := ""
  reason : String := ""
deriving Repr, DecidableEq

/-- How it is written. -/
def RefusalDetail.format : Format RefusalDetail :=
  .record "ApiErrorDetail" {} <|
  .field "name" .text (·.name) (fun v r => { r with name := v }) <|
  .field "reason" .text (·.reason) (fun v r => { r with reason := v }) <|
  .nil

/-- Why a request is refused. -/
structure Refusal where
  domain : String := ""
  code : String := ""
  details : List RefusalDetail := []
deriving Repr, DecidableEq

/-- How the refusal itself is written. -/
def Refusal.format : Format Refusal :=
  .record "ApiException" {} <|
  .field "domain" .text (·.domain) (fun v r => { r with domain := v }) <|
  .field "code" .text (·.code) (fun v r => { r with code := v }) <|
  .field "errors" (.list RefusalDetail.format) (·.details) (fun v r => { r with details := v }) <|
  .nil

/-- The whole body, in which the refusal has to be present. -/
def Refusal.page : Format Refusal :=
  .record "ApiError" {} (.cons "exception" "exception" [] true Refusal.format id
    (fun refusal _ => refusal) .nil)

/-- A refusal as a message tells it. -/
def Refusal.message (refusal : Refusal) : String :=
  "domain=" ++ refusal.domain ++ " code=" ++ refusal.code ++
    String.join (refusal.details.map fun detail => ", " ++ detail.name ++ ": " ++ detail.reason)

end RouterTelemetry.Payload
