import AccessBaseline.Http.Client
import AccessBaseline.Proofs.Json.Printing
import AccessBaseline.Proofs.Json.Reading

/-! The values that calls return as JSON. Each is read back from its text as it was, whatever characters
its strings have. -/
namespace AccessBaseline
open Json (Record stringText_renderString)
open Json.Reader (Takes takes_text takes_list)

theorem Json.Reader.takes_rendered (s : String) : Json.Reader.text.Takes (Json.string s).render s :=
  takes_text (stringText_renderString s)

theorem Json.Record.takes_rendered {α : Type} {spec : Record α} {members : List (String × Json)} {a : α}
    (h : spec.Assembles [] spec.blank (members.map fun m => (m.1, m.2.render)) a) :
    spec.reader.Takes (Json.object members).render a :=
  Record.takes_object h (objectText_render members)

/-- Whether the texts of values are read back as these values. -/
def Wired {α : Type} (reader : Json.Reader α) (toJson : α → Json) : Prop :=
  ∀ a, reader.Takes (toJson a).render a

namespace Wired
variable {α : Type} {reader : Json.Reader α} {toJson : α → Json}

theorem list (h : Wired reader toJson) (as : List α) :
    (Json.Reader.list reader).Takes (Json.array (as.map toJson)).render as := by
  have htexts : List.Forall₂ reader.Takes ((as.map toJson).map Json.render) as := by
    rw [List.map_map, List.forall₂_map_left_iff]
    exact List.forall₂_same.2 fun a _ => h a
  exact takes_list htexts (Json.arrayText_render _)

theorem envelope (h : Wired reader toJson) (as : List α) :
    (Envelope.record reader).reader.Takes (Envelope.toJson (as.map toJson)).render as := by
  refine Record.takes_rendered ?_
  refine .member rfl List.not_mem_nil (h.list as) ?_
  exact .done rfl

end Wired

open Json.Reader (takes_rendered)

theorem Role.wired : Wired record.reader toJson := fun role => by
  refine Record.takes_rendered ?_
  refine .member rfl (by decide) ((takes_rendered _).map _) ?_
  refine .member rfl (by decide) ((takes_rendered _).map _) ?_
  refine .member rfl (by decide) ((takes_rendered _).map _) ?_
  exact .done rfl

theorem Permission.wired : Wired record.reader toJson := fun p => by
  refine Record.takes_rendered ?_
  refine .member rfl (by decide) ((takes_rendered _).map _) ?_
  refine .member rfl (by decide) ((takes_rendered _).map _) ?_
  refine .member rfl (by decide) ((takes_rendered _).map _) ?_
  refine .member rfl (by decide) ((takes_rendered _).map _) ?_
  exact .done rfl

theorem Group.member_wired : Wired memberRecord.reader memberToJson := fun user => by
  refine Record.takes_rendered ?_
  refine .member rfl (by decide) ((takes_rendered _).map _) ?_
  exact .done rfl

theorem Group.wired : Wired record.reader toJson := fun g => by
  refine Record.takes_rendered ?_
  refine .member rfl (by decide) ((takes_rendered _).map _) ?_
  refine .member rfl (by decide) ((takes_rendered _).map _) ?_
  refine .member rfl (by decide) ((member_wired.list _).map _) ?_
  exact .done rfl

theorem Assignment.wired : Wired record.reader toJson := fun a => by
  refine Record.takes_rendered ?_
  refine .member rfl (by decide) ((takes_rendered _).map _) ?_
  refine .member rfl (by decide) ((takes_rendered _).map _) ?_
  refine .member rfl (by decide) ((takes_rendered _).map _) ?_
  refine .member rfl (by decide) ((takes_rendered _).map _) ?_
  refine .member rfl (by decide) ((takes_rendered _).map _) ?_
  exact .done rfl

theorem Capability.wired : Wired record.reader toJson := fun c => by
  refine Record.takes_rendered ?_
  refine .member rfl (by decide) ((takes_rendered _).map _) ?_
  refine .member rfl (by decide) ((takes_rendered _).map _) ?_
  refine .member rfl (by decide) ((takes_rendered _).map _) ?_
  exact .done rfl

theorem CapabilityMember.wired : Wired record.reader toJson := fun m => by
  refine Record.takes_rendered ?_
  refine .member rfl (by decide) ((takes_rendered _).map _) ?_
  refine .member rfl (by decide) ((takes_rendered _).map _) ?_
  exact .done rfl

theorem Json.decode_text {α : Type} {r : Json.Reader α} {v : Json} {a : α} (h : r.Takes v.render a) :
    decode r v.text = .ok a :=
  decode_padded (padded_text h)

/-- The body of a reply that returns a value. Writes return nothing. -/
def Call.replyBody : (call : Call) → call.Value → String
  | assignableRoles, roles => (Json.array (roles.map Role.toJson)).text
  | rolePermissions _, ps => (Json.array (ps.map Permission.toJson)).text
  | groups, gs => (Json.array (gs.map Group.toJson)).text
  | groupRoleGrants _, as => (Json.array (as.map Assignment.toJson)).text
  | capabilities, cs => (Envelope.toJson (cs.map Capability.toJson)).text
  | capabilityMembers _, ms => (Envelope.toJson (ms.map CapabilityMember.toJson)).text
  | createRole _, _ | grantPermission _, _ | createGroup _, _ | addGroupMember _ _, _
  | removeGroupMember _ _, _ | grantRole _, _ => ""

/-- What a call returns is what its reply was made from. -/
theorem Call.decode_replyBody (call : Call) (v : call.Value) : call.decode (call.replyBody v) = .ok v := by
  cases call with
  | assignableRoles => exact Json.decode_text (Role.wired.list v)
  | rolePermissions id => exact Json.decode_text (Permission.wired.list v)
  | groups => exact Json.decode_text (Group.wired.list v)
  | groupRoleGrants id => exact Json.decode_text (Assignment.wired.list v)
  | capabilities => exact Json.decode_text (Capability.wired.envelope v)
  | capabilityMembers id => exact Json.decode_text (CapabilityMember.wired.envelope v)
  | createRole | grantPermission | createGroup | addGroupMember | removeGroupMember | grantRole => rfl

end AccessBaseline
