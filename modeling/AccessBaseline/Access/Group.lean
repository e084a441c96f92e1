import AccessBaseline.Json.Shape

/-! Groups with their members, and the requests that create a group and add a member. -/
namespace AccessBaseline

/-- A listed group; its members are user ids in the order of the service. -/
structure Group where
  id : String
  name : String
  members : List String
  deriving DecidableEq

namespace Group

def memberToJson (user : String) : Json := .object [("userId", .string user)]

def memberRecord : Json.Record String where
  title := "GroupMember"
  fields := [.required "userId" Json.Reader.text fun _ s => s]
  blank := ""

def toJson (g : Group) : Json :=
  .object [("id", .string g.id), ("name", .string g.name),
    ("members", .array (g.members.map memberToJson))]

def record : Json.Record Group where
  title := "Group"
  fields := [
    .required "id" Json.Reader.text fun g s => { g with id := s },
    .required "name" Json.Reader.text fun g s => { g with name := s },
    .defaulted "members" (Json.Reader.list memberRecord.reader) fun g ms => { g with members := ms }]
  blank := ⟨"", "", []⟩

/-- The first group of exactly this name. -/
def named? (name : String) (groups : List Group) : Option Group :=
  groups.find? (·.name == name)

end Group

structure NewGroup where
  name : String
  description : String
  deriving DecidableEq

namespace NewGroup

def generated (name : String) : NewGroup := ⟨name, "Automatically created group: " ++ name⟩

def toJson (g : NewGroup) : Json :=
  .object [("name", .string g.name), ("description", .string g.description)]

end NewGroup

def Group.membershipJson (groupId user : String) : Json :=
  .object [("userId", .string user), ("groupId", .string groupId)]

end AccessBaseline
