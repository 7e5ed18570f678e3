import EditorLink.Probe
import EditorLink.Session.Rehearsal
/-!
# Rehearsed probes

A probe against a server whose answers are known in advance: everything that can
happen in the session happens before the probe goes on.
-/
namespace EditorLink.Probe

/-- Carries out a move; one that is not possible changes nothing. -/
def make (p : Probe) (m : ProbeMove) : Probe := (p.move? Rehearsal.depth m).getD p

def rehearse (server : RehearsedServer) (p : Probe) : Probe :=
  let settled := { p with pool := Rehearsal.settle server p.pool [] }
  [ProbeMove.proceed, .print, .shutDown].foldl make settled

end EditorLink.Probe
