import RouterTelemetry.Projection.Script
import RouterTelemetry.Snapshot

/-!
# Samples of the name resolver
-/

namespace RouterTelemetry.Projection

open Payload

/-- Queries and answer times. -/
def resolver (resolver : Resolver) : Script :=
  [plain "bbox_dns_number_of_queries" resolver.queries "dns.nbqueries",
    plain "bbox_dns_min" resolver.min "dns.min",
    plain "bbox_dns_max" resolver.max "dns.max",
    plain "bbox_dns_average" resolver.average "dns.avg"]

/-- The group of the resolver. -/
def dns (pages : List Resolver) : Script :=
  inform "Store DNS metrics" :: withFirst pages Resource.resolver.path resolver

end RouterTelemetry.Projection
