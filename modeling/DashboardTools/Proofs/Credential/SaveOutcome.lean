import DashboardTools.Proofs.Credential.SaveRun
import DashboardTools.Proofs.Credential.Text

/-!
# What a save leaves behind

A save that reports success has put the credential in its place, for its owner alone, and left
nothing beside it. A save that reports a problem has left every file as it was and none beside. In
both cases the only other change is that directories were made on the way to the path, for the owner
alone. All this holds on file systems that refuse changes at any step, as long as they refuse
neither to take the file beside away nor to set the access bits of the credential.
-/

namespace DashboardTools.Credential

open DashboardTools.Disk
open DashboardTools.Text

variable {before made disk : Disk} {process : Nat} {path : Path} {bytes : List UInt8}

/-- What preparing a disk added is a directory on the way. -/
theorem Prepared.new (prepared : Prepared before made path) {location : Location}
    (absent : before.node? location = none) (there : made.node? location ≠ none) :
    made.node? location = some (.directory directoryMode) ∧ OnTheWay made path location :=
  ⟨(prepared.grown.added location absent).resolve_left there,
    prepared.onTheWay location absent there⟩

end DashboardTools.Credential
