import AccessBaseline.Proofs.Http.Attempts
import AccessBaseline.Proofs.Listing

/-! What reads return. A listing is read as it is from any text of it, and a reply with a spoilt entry is
refused as a whole. -/
namespace AccessBaseline
open Json (RecordText ListText StringText IsValue HasItem HasMember Padded decode_padded
  exists_error_of_refuses)
open Json.Record (refuses_spoilt exact_reader)
open Json.Reader (takes_listText)

namespace Call

def IsReply : (call : Call) → call.Value → List Char → Prop
  | assignableRoles => ListText fun role : Role => RecordText role.parts
  | rolePermissions _ => ListText fun p : Permission => RecordText p.parts
  | groups => ListText fun g : Group => RecordText g.parts
  | groupRoleGrants _ => ListText fun a : Assignment => RecordText a.parts
  | capabilities => Envelope.IsText fun c : Capability => RecordText c.parts
  | capabilityMembers _ => Envelope.IsText fun m : CapabilityMember => RecordText m.parts
  | createRole _ | grantPermission _ | createGroup _ | addGroupMember _ _ | removeGroupMember _ _
  | grantRole _ => fun _ _ => False

/-- The texts of replies with an entry that is not of its shape, or with two lists. -/
def IsSpoiltReply : Call → List Char → Prop
  | assignableRoles => HasItem Role.shape.Spoils
  | rolePermissions _ => HasItem Permission.shape.Spoils
  | groups => HasItem Group.IsSpoilt
  | groupRoleGrants _ => HasItem Assignment.shape.Spoils
  | capabilities => Envelope.IsSpoilt Capability.shape.Spoils
  | capabilityMembers _ => Envelope.IsSpoilt CapabilityMember.shape.Spoils
  | createRole _ | grantPermission _ | createGroup _ | addGroupMember _ _ | removeGroupMember _ _
  | grantRole _ => fun _ => False

/-- What was written is decoded. -/
theorem decode_of_isReply {call : Call} {v : call.Value} {text : String} (h : Padded (call.IsReply v) text) :
    call.decode text = .ok v := by
  cases call with
  | assignableRoles =>
    exact decode_padded (h.mono fun _ hroles => takes_listText hroles fun _ _ _ => Role.ofTexts.takes)
  | rolePermissions =>
    exact decode_padded (h.mono fun _ hgrants => takes_listText hgrants fun _ _ _ => Permission.ofTexts.takes)
  | groups =>
    exact decode_padded (h.mono fun _ hgroups => takes_listText hgroups fun _ _ _ => Group.takes_record)
  | groupRoleGrants =>
    exact decode_padded (h.mono fun _ hgrants => takes_listText hgrants fun _ _ _ => Assignment.ofTexts.takes)
  | capabilities =>
    exact decode_padded (h.mono fun _ hpage => Envelope.takes_record hpage fun _ _ => Capability.ofTexts.takes)
  | capabilityMembers =>
    exact decode_padded (h.mono fun _ hpage =>
      Envelope.takes_record hpage fun _ _ => CapabilityMember.ofTexts.takes)
  | createRole | grantPermission | createGroup | addGroupMember | removeGroupMember | grantRole =>
    obtain ⟨_, _, _, _, hnone, _⟩ := h
    exact hnone.elim

theorem exists_error_of_isSpoiltReply {call : Call} {text : String} (h : Padded call.IsSpoiltReply text) :
    ∃ e, call.decode text = .error e := by
  cases call with
  | assignableRoles =>
    exact exists_error_of_refuses h (fun _ => HasItem.isValue)
      ((refuses_spoilt Role.ofTexts.careful Role.ofTexts.hasShape).list (exact_reader Role.ofTexts.careful))
  | rolePermissions =>
    exact exists_error_of_refuses h (fun _ => HasItem.isValue)
      ((refuses_spoilt Permission.ofTexts.careful Permission.ofTexts.hasShape).list
        (exact_reader Permission.ofTexts.careful))
  | groups =>
    exact exists_error_of_refuses h (fun _ => HasItem.isValue)
      (Group.refuses_spoilt.list (exact_reader Group.careful_record))
  | groupRoleGrants =>
    exact exists_error_of_refuses h (fun _ => HasItem.isValue)
      ((refuses_spoilt Assignment.ofTexts.careful Assignment.ofTexts.hasShape).list
        (exact_reader Assignment.ofTexts.careful))
  | capabilities =>
    exact exists_error_of_refuses h (fun _ => Envelope.IsSpoilt.isValue)
      (Envelope.refuses_spoilt (exact_reader Capability.ofTexts.careful)
        (refuses_spoilt Capability.ofTexts.careful Capability.ofTexts.hasShape))
  | capabilityMembers =>
    exact exists_error_of_refuses h (fun _ => Envelope.IsSpoilt.isValue)
      (Envelope.refuses_spoilt (exact_reader CapabilityMember.ofTexts.careful)
        (refuses_spoilt CapabilityMember.ofTexts.careful CapabilityMember.ofTexts.hasShape))
  | createRole | grantPermission | createGroup | addGroupMember | removeGroupMember | grantRole =>
    obtain ⟨_, _, _, _, hnone, _⟩ := h
    exact hnone.elim

end Call

namespace Http.Client

/-- Whatever a listing holds and however its text is written, with members in any order, unknown ones among
them and empty ones left out, a read that is sent and answered with the text returns the listing; and it fails
when an entry is spoilt or an envelope has two lists. -/
theorem listings_read {base : Url} {token : AccessToken} {client : Client}
    (hconnect : connect base token = .ok client) {refusal? : Request → Option TransportFault} {call : Call}
    (hsent : refusal? (client.request call) = none) {σ : Type} (respond : Request → σ → Delivery × σ)
    (s : σ) {text : String} (hreply : (respond (client.request call) s).1 = .whole 200 text) :
    let r := Interaction.run respond (client.serve call refusal?) s
    (∀ v, Padded (call.IsReply v) text → r.result = .ok v) ∧
      (Padded call.IsSpoiltReply text →
        ∃ e, r.result = .error (.undecodable (client.endpoint call).text e)) := by
  intro r
  have haccepted : 200 ∈ call.accepted := Call.mem_accepted_iff.2 (.done call)
  have hresult : r.result =
      (call.decode text).mapError (Failure.undecodable (client.endpoint call).text) := by
    simp only [r, run_serve_sent refusal? respond (cannotBeBase_of_connect hconnect) hsent, hreply, answer,
      if_pos haccepted]
  rw [hresult]
  constructor
  · intro v hv
    rw [Call.decode_of_isReply hv]
    rfl
  · intro hspoilt
    obtain ⟨e, hdecode⟩ := Call.exists_error_of_isSpoiltReply hspoilt
    exact ⟨e, by rw [hdecode]; rfl⟩

def smallPage : Json :=
  .object [("next", .null),
    ("items", .array [.object [("status", .string "Active"), ("rank", .bool true), ("id", .string "c1")]])]

theorem smallPage_text : Padded (Call.IsReply .capabilities [⟨"c1", "Active", ""⟩]) smallPage.text := by
  have hstring (s : String) : StringText s (Json.string s).render := Json.stringText_renderString s
  have hnull : IsValue Json.null.render := .null
  have htrue : IsValue (Json.bool true).render := .bool true
  have hentry : RecordText (Capability.parts ⟨"c1", "Active", ""⟩) (Json.object
      [("status", .string "Active"), ("rank", .bool true), ("id", .string "c1")]).render := by
    refine ⟨_, Json.objectText_render _, ?_, ?_⟩
    · simp only [Capability.parts, List.forall_mem_cons]
      exact ⟨.inr ⟨_, hstring "c1", rfl⟩, .inr ⟨_, hstring "Active", rfl⟩, .inl ⟨by simp, by simp⟩, by simp⟩
    · simp [Capability.parts, htrue]
  refine Json.padded_text ⟨_, Json.objectText_render _, .inr ⟨"items", _, ?_, rfl⟩, ?_⟩
  · exact Json.listText_render (.cons hentry .nil)
  · simp [Envelope.listKeys, hnull]

def spoiltGroup : Json :=
  .array [.object [("id", .string "g1"), ("name", .string "Ops"),
    ("members", .array [.object [("userId", .string "ada")], .object [("user", .string "bob")]])]]

theorem spoiltGroup_text : Padded (Call.IsSpoiltReply .groups) spoiltGroup.text := by
  have hstring (s : String) : IsValue (Json.string s).render := .string (Json.stringText_renderString s)
  have hada : IsValue (Json.object [("userId", .string "ada")]).render :=
    .object (Json.objectText_render _) (by simp [hstring])
  have hbob : Group.memberShape.Spoils (Json.object [("user", .string "bob")]).render :=
    ⟨_, Json.objectText_render _, by simp [hstring],
      .missing (List.mem_singleton.2 rfl : "userId" ∈ Group.memberShape.required) (by simp)⟩
  have hmembers : HasItem Group.memberShape.Spoils (Json.array
      [.object [("userId", .string "ada")], .object [("user", .string "bob")]]).render :=
    ⟨_, Json.arrayText_render _, by simp [hada, hbob.isValue], _, by simp, hbob⟩
  have hgroup : HasMember "members" (HasItem Group.memberShape.Spoils) (Json.object [("id", .string "g1"),
      ("name", .string "Ops"), ("members", .array [.object [("userId", .string "ada")],
        .object [("user", .string "bob")]])]).render :=
    ⟨_, Json.objectText_render _, by simp [hstring, hmembers.isValue], _, by simp, hmembers⟩
  exact Json.padded_text ⟨_, Json.arrayText_render _, by simp [hgroup.isValue], _, by simp, .inr hgroup⟩

theorem small_listings_read :
    let client := onLocalhost
    let replying (text : String) : Request → Unit → Delivery × Unit := fun _ _ => (.whole 200 text, ())
    connect client.base client.token = .ok client ∧
      (client.request .capabilities).refusal? = none ∧ (client.request .groups).refusal? = none ∧
      Padded (Call.IsReply .capabilities [⟨"c1", "Active", ""⟩]) smallPage.text ∧
      (Interaction.run (replying smallPage.text) (client.serve .capabilities) ()).result =
        .ok [⟨"c1", "Active", ""⟩] ∧
      Padded (Call.IsSpoiltReply .groups) spoiltGroup.text ∧
      ∃ e, (Interaction.run (replying spoiltGroup.text) (client.serve .groups) ()).result =
        .error (.undecodable (client.endpoint .groups).text e) := by
  intro client replying
  have hconnect : connect client.base client.token = .ok client := rfl
  have hcapabilities : (client.request .capabilities).refusal? = none := by decide +kernel
  have hgroups : (client.request .groups).refusal? = none := by decide +kernel
  refine ⟨hconnect, hcapabilities, hgroups, smallPage_text, ?_, spoiltGroup_text, ?_⟩
  · exact (listings_read hconnect hcapabilities (replying smallPage.text) () rfl).1 _ smallPage_text
  · exact (listings_read hconnect hgroups (replying spoiltGroup.text) () rfl).2 spoiltGroup_text

end Http.Client

end AccessBaseline
