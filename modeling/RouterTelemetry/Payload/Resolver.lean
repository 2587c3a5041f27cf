import RouterTelemetry.Json.Format

/-!
# The name resolver

Queries answered by the router.
-/

namespace RouterTelemetry.Payload

open Json

/-- The name resolver: queries, and answer times in milliseconds. -/
structure Resolver where
  queries : Measure := .missing
  min : Measure := .missing
  max : Measure := .missing
  average : Measure := .missing

/-- How it is written. -/
def Resolver.format : Format Resolver :=
  .record "DnsStats" {} <|
  .field "nbqueries" .measure (·.queries) (fun v r => { r with queries := v }) <|
  .field "min" .measure (·.min) (fun v r => { r with min := v }) <|
  .field "max" .measure (·.max) (fun v r => { r with max := v }) <|
  .field "avg" .measure (·.average) (fun v r => { r with average := v }) <|
  .nil

/-- An element of `/dns/stats`. -/
def Resolver.page : Format Resolver :=
  .wrapped "DnsStatistics" {} "dns" Resolver.format

end RouterTelemetry.Payload
