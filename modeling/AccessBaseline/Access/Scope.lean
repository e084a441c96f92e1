import AccessBaseline.Failure
import AccessBaseline.Json.Shape

/-! Where a role or a permission holds, and what kind of entity holds it. Scopes are read without
regard to the case of ASCII letters and written with a capital. -/
namespace AccessBaseline

inductive Scope where
  | global
  | capability
  | aws
  | azure
  deriving DecidableEq

namespace Scope

def all : List Scope := [global, capability, aws, azure]

def name : Scope → String
  | global => "Global"
  | capability => "Capability"
  | aws => "Aws"
  | azure => "Azure"

def ofText? (s : String) : Option Scope :=
  match Text.asciiLower s with
  | "global" => some global
  | "capability" => some capability
  | "aws" => some aws
  | "azure" => some azure
  | _ => none

def parse (s : String) : Except Failure Scope :=
  match ofText? s with
  | some scope => .ok scope
  | none => .error (.unknownScope s)

def reader : Json.Reader Scope :=
  Json.Reader.text.accepted fun s => (parse s).mapError Failure.message

def covers (scope : Scope) (reported : String) : Bool :=
  Text.sameUpToAsciiCase scope.name reported

end Scope

inductive EntityKind where
  | user
  | group
  | role
  deriving DecidableEq

namespace EntityKind

def all : List EntityKind := [user, group, role]

def name : EntityKind → String
  | user => "User"
  | group => "Group"
  | role => "Role"

def reader : Json.Reader EntityKind := .variant (all.map fun kind => (kind.name, kind))

end EntityKind

end AccessBaseline
