import CrossAudit.Console.Session
import CrossAudit.Snapshot.Launcher

/-!
# Reading a session

A session starts from the snapshot of a project and the snapshot of a machine.
-/

namespace CrossAudit
namespace Snapshot

/-- The session on a project and a machine, in a directory of the given name. -/
def session (machine : Json) (w : Workspace) (directory : String) : Console.Session :=
  { launcher := launcher machine w
    config := configOf machine
    environment := variablesOf machine
    base := baseDirectory machine
    directory := directory }

end Snapshot
end CrossAudit
