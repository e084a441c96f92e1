import AccessBaseline.Console.Table
import AccessBaseline.Ownership
import AccessBaseline.Reconcile.Report

/-! What the tools print when they are done. -/
namespace AccessBaseline.Console

inductive Mark where
  | success
  | warning
  | failure

namespace Mark

def symbol : Mark → String
  | success => "✓"
  | warning => "!"
  | failure => "✗"

def colour : Mark → String
  | success => "32"
  | warning => "33"
  | failure => "31"

def text (mark : Mark) (coloured : Bool) : String :=
  if coloured then "\x1b[" ++ mark.colour ++ "m" ++ mark.symbol ++ "\x1b[0m" else mark.symbol

end Mark

def marked (coloured : Bool) (mark : Mark) (message : String) : String :=
  mark.text coloured ++ " " ++ message

def baselineTable (report : Report) : String :=
  table ["Change", "Count"] <|
    [("Roles created", report.rolesCreated), ("Permissions granted", report.permissionsGranted),
      ("Groups created", report.groupsCreated), ("Group roles assigned", report.groupRolesAssigned),
      ("Members added", report.membersAdded), ("Needs manual review", report.anomalies.length)].map
      fun (label, n) => [label, toString n]

def baselineSummary (coloured : Bool) (report : Report) : List String :=
  baselineTable report :: report.anomalies.map (marked coloured .warning ·.message) ++
    [marked coloured .success
      ("Baseline permissions setup completed (" ++ toString report.changes ++ " changes)")]

def ownershipTable (report : Ownership.Report) : String :=
  table ["Capabilities", "Owner grants", "Contributor grants", "Skipped"]
    [[report.processed, report.ownerGrants, report.contributorGrants, report.skipped.length].map
      (toString ·)]

/-- The capabilities that were skipped for a reason other than being deleted. -/
def unreadable (report : Ownership.Report) : List (List String) :=
  (report.skipped.filter (·.2 ≠ .deleted)).map fun (id, reason) => [id, reason.message]

def ownershipSummary (coloured : Bool) (report : Ownership.Report) : List String :=
  let failures := unreadable report
  ownershipTable report ::
    (if failures.isEmpty then [] else [table ["Capability", "Reason"] failures]) ++
    [marked coloured .success
      ("Capability ownership bootstrap completed (" ++ toString report.grants ++ " grants)")]

end AccessBaseline.Console
