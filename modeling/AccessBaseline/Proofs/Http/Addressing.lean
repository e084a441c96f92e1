import AccessBaseline.Memory
import AccessBaseline.Proofs.Http.Replay

/-! Which resource a request leads to. The identifiers of a call stand in the path as segments of their own,
from which they are read back, so that no two calls share a method and a URL. This holds of all identifiers
but those of one or two dots and those with tabs or line breaks in them. -/
namespace AccessBaseline

namespace Call

def pathIds : Call → List String
  | rolePermissions id | addGroupMember id _ | groupRoleGrants id | capabilityMembers id => [id]
  | removeGroupMember groupId member => [groupId, member]
  | assignableRoles | createRole _ | grantPermission _ | groups | createGroup _ | grantRole _
  | capabilities => []

theorem resource_inj {c c' : Call} (hmethod : c.method = c'.method) (hresource : c.resource = c'.resource) :
    c.name = c'.name ∧ c.pathIds = c'.pathIds := by
  cases c <;> cases c' <;> simp_all [method, resource, name, pathIds]

theorem exists_resource_eq {c : Call} (h : ∀ id ∈ c.pathIds, Url.IsAddressable id) :
    ∃ first names, c.resource = first :: names ∧ first ≠ "" ∧
      ∀ name ∈ first :: names, Url.IsAddressable name := by
  have hfixed : ∀ name ∈ ["rbac", "get-assignable-roles", "role", "permission", "grant", "groups",
      "members", "capabilities"], Url.IsAddressable name := by decide
  simp only [List.mem_cons, List.not_mem_nil, or_false, forall_eq_or_imp, forall_eq] at hfixed
  cases c <;> refine ⟨_, _, rfl, by decide, ?_⟩ <;>
    simp_all only [pathIds, List.mem_cons, List.not_mem_nil, or_false, forall_eq_or_imp, forall_eq, and_self]

end Call

namespace Http

def pathFields (url : Url) : List String := (Text.fields (· == '/') url.path.text.toList).map String.ofList

namespace Client

/-- Whether the path of a request is, cut at its slashes, that of the base and then one segment for each name
of the call's resource, in which nothing ends the path and which spells the name. -/
def Places (client : Client) (call : Call) : Prop :=
  ∃ segments, pathFields (client.request call).url = "" :: client.base.root ++ segments ∧
    List.Forall₂ (fun segment name => Url.IsSegment segment ∧
      Url.ofUtf8? (Url.percentDecode segment.toList) = some name) segments call.resource

theorem places_of_hierarchical {client : Client} (h : client.base.Hierarchical) {call : Call}
    (hids : ∀ id ∈ call.pathIds, Url.IsAddressable id) : client.Places call := by
  obtain ⟨first, names, hresource, hfirst, hnames⟩ := call.exists_resource_eq hids
  have hpath := h.path_below hfirst hnames
  rw [← hresource] at hpath hnames
  refine ⟨call.resource.map (Url.segmentText client.base.isSpecial), ?_, ?_⟩
  · have hsegments : ∀ s ∈ client.base.root ++ call.resource.map (Url.segmentText client.base.isSpecial),
        Url.IsSegment s := by
      intro s hs
      cases List.mem_append.1 hs with
      | inl hs => exact h.isSegment_root s hs
      | inr hs =>
        obtain ⟨name, -, rfl⟩ := List.mem_map.1 hs
        exact Url.isSegment_segmentText _ name
    change (Text.fields _ (client.base.below call.resource).path.text.toList).map _ = _
    rw [hpath, Url.fields_pathText hsegments]
    simp
  · rw [List.forall₂_map_left_iff]
    refine List.forall₂_same.2 fun name hname => ?_
    exact ⟨Url.isSegment_segmentText _ name, (hnames name hname).ofUtf8? _⟩

theorem Places.inj {client : Client} {c c' : Call} (h : client.Places c) (h' : client.Places c')
    (hmethod : c.method = c'.method)
    (hpath : (client.request c).url.path.text = (client.request c').url.path.text) :
    c.name = c'.name ∧ c.pathIds = c'.pathIds := by
  obtain ⟨segments, hfields, hspell⟩ := h
  obtain ⟨segments', hfields', hspell'⟩ := h'
  have hsame : segments = segments' := by
    rw [pathFields, hpath] at hfields
    exact List.append_cancel_left (hfields.symm.trans hfields')
  have hresource : c.resource = c'.resource := by
    rw [← hsame] at hspell'
    refine List.right_unique_forall₂' ?_ hspell hspell'
    intro s name name' hname hname'
    exact Option.some.inj (hname.2.symm.trans hname'.2)
  exact Call.resource_inj hmethod hresource

theorem request_congr (client : Client) {id id' : String}
    (h : ∀ done, Url.appendName client.base.isSpecial done id' = Url.appendName client.base.isSpecial done id) :
    client.request (.rolePermissions id') = client.request (.rolePermissions id) := by
  have hurl : client.base.below ["rbac", "permission", "role", id'] =
      client.base.below ["rbac", "permission", "role", id] := by
    simp only [Url.below, List.foldl_cons, List.foldl_nil, h]
  exact congrArg (Request.mk "GET" · client.token.text none) hurl

/-- Every identifier shares its request with another one, which is not addressable. -/
theorem exists_request_eq (client : Client) (id : String) :
    ∃ id', id' ≠ id ∧ ¬Url.IsAddressable id' ∧
      client.request (.rolePermissions id') = client.request (.rolePermissions id) := by
  -- One or two dots are skipped alike, and to any other identifier a tab can be added.
  by_cases hdots : id = "." ∨ id = ".."
  · have hskip (done : List String) {name : String} (hname : name = "." ∨ name = "..") :
        Url.appendName client.base.isSpecial done name = done := by
      cases hname <;> simp [Url.appendName, *]
    have hother : ∃ id', id' ≠ id ∧ (id' = "." ∨ id' = "..") := by
      cases hdots with
      | inl hdot => exact ⟨"..", by rw [hdot]; decide, .inr rfl⟩
      | inr hdots => exact ⟨".", by rw [hdots]; decide, .inl rfl⟩
    obtain ⟨id', hne, hid'⟩ := hother
    refine ⟨id', hne, ?_, client.request_congr fun done => (hskip done hid').trans (hskip done hdots).symm⟩
    cases hid' with
    | inl hdot => exact fun h => h.1 hdot
    | inr hdots => exact fun h => h.2.1 hdots
  · obtain ⟨hdot, hdots⟩ := not_or.1 hdots
    have htab : '\t' ∈ (id ++ "\t").toList := by simp
    have hother {name : String} (hname : '\t' ∉ name.toList) : id ++ "\t" ≠ name :=
      fun hsame => hname (hsame ▸ htab)
    have htext : Url.segmentText client.base.isSpecial (id ++ "\t") =
        Url.segmentText client.base.isSpecial id := by
      have hdrop : (id ++ "\t").toList.filter (!Url.isTabOrBreak ·) =
          id.toList.filter (!Url.isTabOrBreak ·) := by
        simp [Url.isTabOrBreak]
      rw [Url.segmentText, hdrop, ← Url.segmentText]
    refine ⟨id ++ "\t", ?_, fun h => absurd (h.2.2 _ htab) (by decide), client.request_congr fun done => ?_⟩
    · intro hsame
      simpa using congrArg String.length hsame
    · simp only [Url.appendName, htext, hdot, hdots, hother (by decide : '\t' ∉ ".".toList),
        hother (by decide : '\t' ∉ "..".toList)]

/-- Whether the requests of a client keep to what their calls name: where the identifiers are addressable,
they are read back from the path, and the method and the URL tell the calls apart; but every identifier
shares its request with one that is not addressable. -/
structure Addresses (client : Client) : Prop where
  placed : ∀ call, (∀ id ∈ call.pathIds, Url.IsAddressable id) → client.Places call
  apart : ∀ c c', (∀ id ∈ c.pathIds ++ c'.pathIds, Url.IsAddressable id) →
    (client.request c).method = (client.request c').method →
    (client.request c).url.text = (client.request c').url.text →
      c.name = c'.name ∧ c.pathIds = c'.pathIds
  shared : ∀ id, ∃ id', id' ≠ id ∧ ¬Url.IsAddressable id' ∧
    client.request (.rolePermissions id') = client.request (.rolePermissions id)

theorem addresses_of_parse {text : String} {base : Url} (hparse : Url.parse text = .ok base)
    (hscheme : base.scheme = "http" ∨ base.scheme = "https") (token : AccessToken) :
    Addresses ⟨base, token⟩ := by
  have hbase := Url.hierarchical_of_parse hparse (Url.isSpecial_of_scheme hscheme)
  constructor
  · exact fun call hids => places_of_hierarchical hbase hids
  · intro c c' hids hmethod hurl
    have hplaces : Places ⟨base, token⟩ c :=
      places_of_hierarchical hbase fun id hid => hids id (List.mem_append_left _ hid)
    have hplaces' : Places ⟨base, token⟩ c' :=
      places_of_hierarchical hbase fun id hid => hids id (List.mem_append_right _ hid)
    exact hplaces.inj hplaces' hmethod (hbase.pathText_of_text_below hurl)
  · exact fun id => exists_request_eq _ id

theorem localhost_addresses :
    let base : Url := ⟨"http", "", none, some (.name "localhost"), some 8080, .segments ["api", ""], none, none⟩
    Url.parse "http://localhost:8080/api/" = .ok base ∧ base.scheme = "http" ∧
      Addresses ⟨base, ⟨"secret"⟩⟩ := by
  intro base
  have hparse : Url.parse "http://localhost:8080/api/" = .ok base := by decide +kernel
  exact ⟨hparse, rfl, addresses_of_parse hparse (.inl rfl) ⟨"secret"⟩⟩

theorem not_forall_apart :
    ¬∀ (text : String) (base : Url) (token : AccessToken), Url.parse text = .ok base →
      base.scheme = "http" ∨ base.scheme = "https" → ∀ c c' : Call,
        let client : Client := ⟨base, token⟩
        (client.request c).method = (client.request c').method →
        (client.request c).url.text = (client.request c').url.text →
          c.name = c'.name ∧ c.pathIds = c'.pathIds := by
  intro h
  let base : Url := ⟨"http", "", none, some (.name "api.test"), none, .segments [""], none, none⟩
  have hparse : Url.parse "http://api.test" = .ok base := by decide +kernel
  have hurl : ((Client.mk base ⟨"secret-token"⟩).request (.rolePermissions "ab")).url.text =
      ((Client.mk base ⟨"secret-token"⟩).request (.rolePermissions "a\tb")).url.text := by
    decide +kernel
  obtain ⟨-, hids⟩ := h _ base ⟨"secret-token"⟩ hparse (.inl rfl) (.rolePermissions "ab")
    (.rolePermissions "a\tb") rfl hurl
  exact absurd hids (by decide)

end Client

end Http

end AccessBaseline
