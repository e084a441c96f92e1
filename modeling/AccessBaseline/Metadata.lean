import AccessBaseline.Json.Document

/-! The metadata of a capability, of which only the declared owner matters. -/
namespace AccessBaseline

structure Metadata where
  owner? : Option String
  deriving DecidableEq

namespace Metadata

def ownerKey : String := "dfds.owner"

/-- Reads an object, or `null` as one without members. An owner that is no string is none. -/
def parse (text : String) : Except Json.Error Metadata := do
  match ← Json.parse text with
  | .null => return ⟨none⟩
  | .object members => return ⟨(Json.lastOf? ownerKey members).bind Json.string?⟩
  | other => throw ⟨.wrongType (.ofJson other) "a map", none⟩

def declaredOwner? (m : Metadata) : Option String := m.owner?.filter (· ≠ "")

end Metadata

end AccessBaseline
