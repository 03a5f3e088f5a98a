import Hypermedia.Filter.Compile
import Hypermedia.Operation.Write

/-!
# Deleting operations

The records that meet a request's filters, or one record. Deleting what is not there is no error.
-/

namespace Hypermedia.Operation

open Hypermedia.Filter (Request Condition)

/-- The records that meet a request's filters removed one by one; answers how many. -/
def deleteCollection (r : Resource) (request : Request) : Service Nat := do
  let found ← Service.ask (.find r.name (Filter.condition r request) { fields := some [idField] })
  removeEach r.name 0 found

def deleteInstance (r : Resource) (id : String) : Service Unit := do
  let _ ← Service.ask (.removeFirst r.name (Condition.byId id))
  pure ()

end Hypermedia.Operation
