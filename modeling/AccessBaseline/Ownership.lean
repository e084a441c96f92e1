import AccessBaseline.Call
import AccessBaseline.Config
import AccessBaseline.Metadata

/-! Owners of capabilities. Where the metadata declares an owner, members become contributors and
the declared one owner; elsewhere all members become owners. A capability whose members or metadata
cannot be read is skipped; a role that cannot be granted ends the run. -/
namespace AccessBaseline

namespace Ownership

open Attempt (call note)

inductive SkipReason where
  | deleted
  | membersUnavailable (cause : String)
  | malformedMetadata (cause : String)
  deriving DecidableEq

def SkipReason.message : SkipReason → String
  | deleted => "deleted"
  | membersUnavailable cause => "failed to fetch members: " ++ cause
  | malformedMetadata cause => "failed to parse metadata: " ++ cause

inductive Outcome where
  | skipped (reason : SkipReason)
  | ownerDeclared (owner : String) (contributors : Nat)
  | noOwnerDeclared (owners : Nat)
  deriving DecidableEq

structure Report where
  processed : Nat := 0
  ownerGrants : Nat := 0
  contributorGrants : Nat := 0
  skipped : List (String × SkipReason) := []
  deriving DecidableEq

namespace Report

def record (report : Report) (capabilityId : String) (outcome : Outcome) : Report :=
  let report := { report with processed := report.processed + 1 }
  match outcome with
  | .skipped reason => { report with skipped := report.skipped ++ [(capabilityId, reason)] }
  | .ownerDeclared _ contributors =>
    { report with
      contributorGrants := report.contributorGrants + contributors
      ownerGrants := report.ownerGrants + 1 }
  | .noOwnerDeclared owners => { report with ownerGrants := report.ownerGrants + owners }

def grants (report : Report) : Nat := report.ownerGrants + report.contributorGrants

end Report

def checkRequired (available : RoleIndex) (required : List RoleName) : Except Failure Unit :=
  match required.find? (!available.contains ·) with
  | some missing => .error (.missingRequiredRole missing.text)
  | none => .ok ()

inductive Standing where
  | owner
  | contributor
  deriving DecidableEq

def Standing.name : Standing → String
  | owner => "owner"
  | contributor => "contributor"

structure RoleIds where
  owner : String
  contributor : String

namespace RoleIds

def find (roles : RoleIndex) : Except Failure RoleIds := do
  let owner ← roles.requireId ⟨Standing.owner.name⟩
  let contributor ← roles.requireId ⟨Standing.contributor.name⟩
  return ⟨owner, contributor⟩

def idFor (ids : RoleIds) : Standing → String
  | .owner => ids.owner
  | .contributor => ids.contributor

end RoleIds

def grant (ids : RoleIds) (capabilityId : String) (standing : Standing) (user : String) :
    Attempt Unit := do
  (call (.grantRole (.forMember (ids.idFor standing) user capabilityId))).during "grant role"
    (capabilityId ++ "/" ++ standing.name ++ "/" ++ user)
  note (.debug "granted role"
    [("capability", Text.quoted capabilityId), ("role", Text.quoted standing.name),
      ("user", Text.quoted user)])

def grantAll (ids : RoleIds) (capabilityId : String) (members : List CapabilityMember) :
    Option String → Attempt Outcome
  | some owner => do
    members.forM fun m => grant ids capabilityId .contributor m.id
    grant ids capabilityId .owner owner
    return .ownerDeclared owner members.length
  | none => do
    members.forM fun m => grant ids capabilityId .owner m.id
    return .noOwnerDeclared members.length

def skip (capabilityId what cause : String) (reason : String → SkipReason) : Attempt Outcome := do
  note (.warn (what ++ "; skipping") [("capability", capabilityId), ("error", cause)])
  return .skipped (reason cause)

def bootstrap (ids : RoleIds) (capability : Capability) : Attempt Outcome := do
  note (.info "processing capability" [("capability", capability.id)])
  if capability.isDeleted then return .skipped .deleted
  match ← Attempt.outcome (.capabilityMembers capability.id) with
  | .error e => skip capability.id "failed to fetch members" e.message .membersUnavailable
  | .ok members =>
    match Metadata.parse capability.metadata with
    | .error e => skip capability.id "failed to parse metadata" e.message .malformedMetadata
    | .ok metadata => grantAll ids capability.id members metadata.declaredOwner?

def bootstrapAll (ids : RoleIds) : Report → List Capability → Attempt Report
  | report, [] => return report
  | report, capability :: rest => do
    let outcome ← bootstrap ids capability
    bootstrapAll ids (report.record capability.id outcome) rest

def run (config : Config) : Attempt Report := do
  note (.info ">> Starting capability ownership bootstrap...")
  let roles ← Attempt.availableRoles
  Attempt.ofExcept (checkRequired roles config.requiredRoles)
  let ids ← Attempt.ofExcept (RoleIds.find roles)
  let capabilities ← call .capabilities
  note (.info "fetched capabilities" [("count", toString capabilities.length)])
  let report ← bootstrapAll ids {} capabilities
  note (.info "<< Capability ownership bootstrap completed."
    [("processed", toString report.processed), ("grants", toString report.grants),
      ("skipped", toString report.skipped.length)])
  return report

end Ownership

end AccessBaseline
