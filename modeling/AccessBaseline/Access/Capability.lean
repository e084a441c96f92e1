import AccessBaseline.Json.Shape
import AccessBaseline.Text.Lowercase

/-! Capabilities and their members, which are listed in an envelope. -/
namespace AccessBaseline

structure Capability where
  id : String
  status : String
  metadata : String
  deriving DecidableEq

namespace Capability

def isDeleted (c : Capability) : Bool := Text.sameUpToAsciiCase c.status "deleted"

def toJson (c : Capability) : Json :=
  .object [("id", .string c.id), ("status", .string c.status), ("jsonMetadata", .string c.metadata)]

def record : Json.Record Capability where
  title := "Capability"
  fields := [
    .required "id" Json.Reader.text fun c s => { c with id := s },
    .defaulted "status" Json.Reader.text fun c s => { c with status := s },
    .defaulted "jsonMetadata" Json.Reader.text fun c s => { c with metadata := s }]
  blank := ⟨"", "", ""⟩

end Capability

structure CapabilityMember where
  id : String
  email : String
  deriving DecidableEq

namespace CapabilityMember

def toJson (m : CapabilityMember) : Json :=
  .object [("id", .string m.id), ("email", .string m.email)]

def record : Json.Record CapabilityMember where
  title := "CapabilityMember"
  fields := [
    .required "id" Json.Reader.text fun m s => { m with id := s },
    .defaulted "email" Json.Reader.text fun m s => { m with email := s }]
  blank := ⟨"", ""⟩

end CapabilityMember

namespace Envelope

def toJson (items : List Json) : Json := .object [("Items", .array items)]

/-- An object whose list is named `Items` or `items`, or left out when empty. -/
def record (item : Json.Reader α) : Json.Record (List α) where
  title := "Items"
  fields := [
    { name := "Items", alias? := some "items", isRequired := false
      read := fun _ => Json.Reader.list item }]
  blank := []

end Envelope

end AccessBaseline
