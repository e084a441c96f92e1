/-! What a reconciliation changed, and what it found but left alone. -/
namespace AccessBaseline

inductive Anomaly where
  | undeclaredRole (name : String)
  | undeclaredPermission (role space permission : String)
  | undeclaredGroupRole (group roleId : String) (roleName? : Option String) (scope : String)
  | unexpectedMember (group member : String)
  deriving DecidableEq

def Anomaly.message : Anomaly → String
  | undeclaredRole name => "role '" ++ name ++ "' exists in the system but is not declared in config"
  | undeclaredPermission role space permission =>
    "role '" ++ role ++ "' has unexpected permission '" ++ permission ++
      "' in namespace '" ++ space ++ "'"
  | undeclaredGroupRole group roleId roleName? scope =>
    "group '" ++ group ++ "' has unexpected role assigned (role: " ++
      roleName?.getD "<unknown>" ++ ", id: " ++ roleId ++ ", scope: " ++ scope ++ ")"
  | unexpectedMember group member => "group '" ++ group ++ "' has unexpected member '" ++ member ++ "'"

inductive Change where
  | roleCreated
  | permissionGranted
  | groupCreated
  | groupRoleAssigned
  | memberAdded
  deriving DecidableEq

structure Report where
  rolesCreated : Nat := 0
  permissionsGranted : Nat := 0
  groupsCreated : Nat := 0
  groupRolesAssigned : Nat := 0
  membersAdded : Nat := 0
  anomalies : List Anomaly := []
  deriving DecidableEq

namespace Report

def count (report : Report) : Change → Report
  | .roleCreated => { report with rolesCreated := report.rolesCreated + 1 }
  | .permissionGranted => { report with permissionsGranted := report.permissionsGranted + 1 }
  | .groupCreated => { report with groupsCreated := report.groupsCreated + 1 }
  | .groupRoleAssigned => { report with groupRolesAssigned := report.groupRolesAssigned + 1 }
  | .memberAdded => { report with membersAdded := report.membersAdded + 1 }

def flag (report : Report) (anomaly : Anomaly) : Report :=
  { report with anomalies := report.anomalies ++ [anomaly] }

def changes (report : Report) : Nat :=
  report.rolesCreated + report.permissionsGranted + report.groupsCreated +
    report.groupRolesAssigned + report.membersAdded

theorem changes_count (report : Report) (change : Change) :
    (report.count change).changes = report.changes + 1 := by
  cases change <;> simp only [count, changes] <;> omega

end Report

end AccessBaseline
