import AccessBaseline.Call
import AccessBaseline.Reconcile.Report

/-! Dialogues that keep a report. The report outlives a failure, so that what was changed before it
stays counted. -/
namespace AccessBaseline

abbrev Reconcile := ExceptT Failure (StateT Report Dialogue)

namespace Reconcile

def attempt (a : Attempt α) : Reconcile α := fun report => do return (← a.run, report)

instance : MonadLift Attempt Reconcile := ⟨attempt⟩

def note (event : Event) : Reconcile Unit := attempt (.note event)

def change (kind : Change) (call : Attempt Unit) : Reconcile Unit := do
  attempt call
  modify (·.count kind)

def flag (anomaly : Anomaly) : Reconcile Unit := do
  note (.warn (anomaly.message ++ ". Please review manually."))
  modify (·.flag anomaly)

def runFrom (report : Report) (r : Reconcile α) : Dialogue (Except Failure α × Report) :=
  r.run report

end Reconcile

end AccessBaseline
