import AccessBaseline.Http.Client
import AccessBaseline.Proofs.Config
import AccessBaseline.Proofs.Json.Printing
import AccessBaseline.Proofs.Json.Value
import AccessBaseline.Proofs.Listing
import AccessBaseline.Proofs.Reconcile.Bindings
import AccessBaseline.Proofs.Reconcile.Grants

/-! What is written is recognised when it is read back. The bodies of writes and the entries of listings have
different shapes; still a service that lists what was sent to it, with an id where it makes one, is not sent
the same again, and nothing of it is flagged. -/
namespace AccessBaseline
open Json (Part RecordText ListText StringText Written Padded HasItem)
open Json.Reader (takes_listText_map)
open Json.Record (exact_reader)

/-- Whether a text is that of the body of a call with some members added, in any order and however it is
written. -/
def Call.IsEcho (call : Call) (added : List (String × Json)) (cs : List Char) : Prop :=
  ∃ sent members, call.body? = some (.object sent) ∧ members.Perm (added ++ sent) ∧
    Written (.object members) cs

/-- Whether an answer was made from a reply that lists an echo of a write, whatever else it lists. -/
def Call.Echoes (call : Call) (answer : call.Answer) (write : Call) (added : List (String × Json)) : Prop :=
  ∃ url status text, Padded (HasItem (write.IsEcho added)) text ∧
    answer = Http.Client.answer call url (.whole status text)

def NewRole.listed (role : NewRole) (id : String) : Role := ⟨id, role.name, role.scope.name⟩

def NewGroup.listed (group : NewGroup) (id : String) : Group := ⟨id, group.name, []⟩

def PermissionRequest.listed (r : PermissionRequest) : Permission := ⟨r.space, r.name, r.scope.name, r.resource⟩

inductive Call.EchoText : (call : Call) → call.Value → List Char → Prop
  | roles {created : List (NewRole × String)} {cs : List Char}
    (text : ListText (fun c => (createRole c.1).IsEcho [("id", .string c.2)]) created cs) :
    EchoText assignableRoles (created.map fun c => c.1.listed c.2) cs
  | permissions {id : String} {granted : List PermissionRequest} {cs : List Char}
    (text : ListText (fun r => (grantPermission r).IsEcho []) granted cs) :
    EchoText (rolePermissions id) (granted.map PermissionRequest.listed) cs
  | groups {created : List (NewGroup × String)} {cs : List Char}
    (text : ListText (fun c => (createGroup c.1).IsEcho [("id", .string c.2)]) created cs) :
    EchoText groups (created.map fun c => c.1.listed c.2) cs
  | assignments {id : String} {granted : List AssignmentRequest} {cs : List Char}
    (text : ListText (fun r => (grantRole r).IsEcho []) granted cs) :
    EchoText (groupRoleGrants id) (granted.map AssignmentRequest.granted) cs

namespace Call

theorem IsEcho.recordText {call : Call} {added sent : List (String × Json)} {parts : List Part}
    {cs : List Char} (h : call.IsEcho added cs) (hsent : call.body? = some (.object sent))
    (hparts : ∀ part ∈ parts, part.mayMiss ∧ part.key ∉ (added ++ sent).map (·.1) ∨
      ∃ s, part.IsText = StringText s ∧
        (added ++ sent).filter (·.1 = part.key) = [(part.key, .string s)]) :
    RecordText parts cs := by
  obtain ⟨sent', members, hsent', hperm, hwritten⟩ := h
  cases hsent.symm.trans hsent'
  cases hwritten with
  | @object ms _ hobject hvalues =>
    refine ⟨_, hobject, fun part hpart => ?_, fun m hm _ => ?_⟩
    · rcases hparts part hpart with ⟨hmay, hmissing⟩ | ⟨s, htext, honly⟩
      · refine .inl ⟨hmay, fun hmem => hmissing ((hperm.map (·.1)).mem_iff.1 ?_)⟩
        simpa using hmem
      · have hfilter := hperm.filter (·.1 = part.key)
        rw [honly, List.perm_singleton, List.filter_map, List.map_eq_singleton_iff] at hfilter
        obtain ⟨m, hm, heq⟩ := hfilter
        have hmem : m ∈ ms := (List.mem_filter.1 (hm ▸ List.mem_singleton_self m)).1
        obtain ⟨key, v, text⟩ := m
        cases heq
        refine .inr ⟨text, ?_, ?_⟩
        · rw [htext]
          cases hvalues _ hmem with
          | string hstring => exact hstring
        · rw [List.filter_map]
          exact congrArg (List.map _) hm
    · obtain ⟨m, hmem, rfl⟩ := List.mem_map.1 hm
      exact (hvalues m hmem).isValue

theorem isEcho_render {call : Call} {added sent : List (String × Json)}
    (hsent : call.body? = some (.object sent)) (hadded : ∀ m ∈ added, ∃ s, m.2 = .string s) :
    call.IsEcho added (Json.object (added ++ sent)).render := by
  have hstrings : ∀ m ∈ sent, ∃ s, m.2 = .string s := by
    cases call <;> cases hsent <;> simp
  refine ⟨sent, _, hsent, .refl _, Json.written_object_render fun m hm => ?_⟩
  obtain ⟨s, hs⟩ := (List.mem_append.1 hm).elim (hadded m) (hstrings m)
  rw [hs]
  exact .string (Json.stringText_renderString s)

section Entries
variable {cs : List Char}

theorem takes_createRole {role : NewRole} {id : String}
    (h : (createRole role).IsEcho [("id", .string id)] cs) :
    Role.record.reader.Takes cs (role.listed id) := by
  refine Role.ofTexts.takes (show Json.RecordText (role.listed id).parts cs from h.recordText rfl ?_)
  simp only [Role.parts, List.forall_mem_cons]
  exact ⟨.inr ⟨_, rfl, by simp [NewRole.listed]⟩, .inr ⟨_, rfl, by simp [NewRole.listed]⟩,
    .inr ⟨_, rfl, by simp [NewRole.listed]⟩, by simp⟩

theorem takes_grantPermission {r : PermissionRequest} (h : (grantPermission r).IsEcho [] cs) :
    Permission.record.reader.Takes cs r.listed := by
  refine Permission.ofTexts.takes (show Json.RecordText r.listed.parts cs from h.recordText rfl ?_)
  simp only [Permission.parts, List.forall_mem_cons]
  exact ⟨.inr ⟨_, rfl, by simp [PermissionRequest.listed]⟩, .inr ⟨_, rfl, by simp [PermissionRequest.listed]⟩,
    .inr ⟨_, rfl, by simp [PermissionRequest.listed]⟩, .inr ⟨_, rfl, by simp [PermissionRequest.listed]⟩,
    by simp⟩

theorem takes_createGroup {group : NewGroup} {id : String}
    (h : (createGroup group).IsEcho [("id", .string id)] cs) :
    Group.record.reader.Takes cs (group.listed id) := by
  refine Group.takes_record (h.recordText rfl ?_)
  simp only [Group.parts, List.forall_mem_cons]
  exact ⟨.inr ⟨_, rfl, by simp [NewGroup.listed]⟩, .inr ⟨_, rfl, by simp [NewGroup.listed]⟩, .inl ⟨rfl, by simp⟩,
    by simp⟩

theorem takes_grantRole {r : AssignmentRequest} (h : (grantRole r).IsEcho [] cs) :
    Assignment.record.reader.Takes cs r.granted := by
  refine Assignment.ofTexts.takes (show Json.RecordText r.granted.parts cs from h.recordText rfl ?_)
  simp only [Assignment.parts, List.forall_mem_cons]
  exact ⟨.inr ⟨_, rfl, by simp [AssignmentRequest.granted]⟩, .inr ⟨_, rfl, by simp [AssignmentRequest.granted]⟩,
    .inr ⟨_, rfl, by simp [AssignmentRequest.granted]⟩, .inr ⟨_, rfl, by simp [AssignmentRequest.granted]⟩,
    .inr ⟨_, rfl, by simp [AssignmentRequest.granted]⟩, by simp⟩

theorem decode_echoes {call : Call} {v : call.Value} {text : String} (h : Padded (EchoText call v) text) :
    call.decode text = .ok v := by
  obtain ⟨pre, cs, post, hpre, hechoes, hpost, htext⟩ := h
  cases hechoes with
  | roles h =>
    exact Json.decode_padded ⟨pre, cs, post, hpre, takes_listText_map h fun _ _ => takes_createRole, hpost,
      htext⟩
  | permissions h =>
    exact Json.decode_padded ⟨pre, cs, post, hpre, takes_listText_map h fun _ _ => takes_grantPermission,
      hpost, htext⟩
  | groups h =>
    exact Json.decode_padded ⟨pre, cs, post, hpre, takes_listText_map h fun _ _ => takes_createGroup, hpost,
      htext⟩
  | assignments h =>
    exact Json.decode_padded ⟨pre, cs, post, hpre, takes_listText_map h fun _ _ => takes_grantRole, hpost,
      htext⟩

theorem Echoes.decode {call write : Call} {added : List (String × Json)} {v : call.Value}
    (h : call.Echoes (.ok v) write added) :
    ∃ text, Padded (HasItem (write.IsEcho added)) text ∧ call.decode text = .ok v := by
  obtain ⟨url, status, text, htext, hanswer⟩ := h
  refine ⟨text, htext, ?_⟩
  simp only [Http.Client.answer] at hanswer
  split at hanswer
  · cases hdecode : call.decode text with
    | ok v' =>
      rw [hdecode] at hanswer
      cases hanswer
      rfl
    | error e =>
      rw [hdecode] at hanswer
      cases hanswer
  · cases hanswer

theorem Echoes.mem_roles {role : NewRole} {id : String} {listed : List Role}
    (h : Echoes .assignableRoles (.ok listed) (.createRole role) [("id", .string id)]) :
    role.listed id ∈ listed := by
  obtain ⟨text, htext, hdecode⟩ := h.decode
  exact Json.mem_of_decode (exact_reader Role.ofTexts.careful) htext (fun _ => takes_createRole) hdecode

theorem Echoes.mem_permissions {r : PermissionRequest} {roleId : String} {held : List Permission}
    (h : Echoes (.rolePermissions roleId) (.ok held) (.grantPermission r) []) : r.listed ∈ held := by
  obtain ⟨text, htext, hdecode⟩ := h.decode
  exact Json.mem_of_decode (exact_reader Permission.ofTexts.careful) htext (fun _ => takes_grantPermission)
    hdecode

theorem Echoes.mem_groups {group : NewGroup} {id : String} {listed : List Group}
    (h : Echoes .groups (.ok listed) (.createGroup group) [("id", .string id)]) : group.listed id ∈ listed := by
  obtain ⟨text, htext, hdecode⟩ := h.decode
  exact Json.mem_of_decode (exact_reader Group.careful_record) htext (fun _ => takes_createGroup) hdecode

theorem Echoes.mem_assignments {r : AssignmentRequest} {groupId : String} {held : List Assignment}
    (h : Echoes (.groupRoleGrants groupId) (.ok held) (.grantRole r) []) : r.granted ∈ held := by
  obtain ⟨text, htext, hdecode⟩ := h.decode
  exact Json.mem_of_decode (exact_reader Assignment.ofTexts.careful) htext (fun _ => takes_grantRole) hdecode

end Entries

end Call

namespace Permission
variable {held : List Permission} {spaces : List (String × List String)} {p : String × String}

theorem not_held_of_mem_lacking (h : p ∈ lacking held spaces) : p.2 ∉ namesIn p.1 held := by
  obtain ⟨e, -, he⟩ := List.mem_flatMap.1 h
  obtain ⟨name, hname, rfl⟩ := List.mem_map.1 he
  simpa using (List.mem_filter.1 hname).2

theorem not_declared_of_mem_surplus (h : p ∈ surplus held spaces) : ∃ e ∈ spaces, e.1 = p.1 ∧ p.2 ∉ e.2 := by
  obtain ⟨e, hspace, he⟩ := List.mem_flatMap.1 h
  obtain ⟨name, hname, rfl⟩ := List.mem_map.1 he
  exact ⟨e, hspace, rfl, by simpa using (List.mem_filter.1 hname).2⟩

theorem not_declared_of_mem_outside {names : List String} (h : p ∈ outside held names) : p.1 ∉ names := by
  obtain ⟨space, hspace, hp⟩ := List.mem_flatMap.1 h
  obtain ⟨name, -, rfl⟩ := List.mem_map.1 hp
  simp only [otherSpaces, Finset.mem_sort, Finset.mem_sdiff, List.mem_toFinset] at hspace
  exact hspace.2

end Permission

namespace Reconcile
variable {σ : Type} {kind : Change} {rep : Report} {respond : (call : Call) → σ → call.Answer × σ} {s : σ}

/-- Whether a run makes no such call and flags no such anomaly. -/
structure Spares (IsCall : Call → Prop) (IsAnomaly : Anomaly → Prop) (rep : Report)
    (r : Interaction.Run Call Call.Answer σ (Except Failure Unit × Report)) : Prop where
  calls : ∀ c ∈ r.ops, ¬IsCall c
  anomalies : ∃ flagged, r.result.2.anomalies = rep.anomalies ++ flagged ∧ ∀ a ∈ flagged, ¬IsAnomaly a

section
variable {IsCall : Call → Prop} {IsAnomaly : Anomaly → Prop}
  {r r' : Interaction.Run Call Call.Answer σ (Except Failure Unit × Report)}

theorem spares_of_carried {script : List Deed} (h : Carried kind rep script r)
    (hcalls : ∀ c ∈ Deed.calls script, ¬IsCall c) (hflags : ∀ a ∈ Deed.anomalies script, ¬IsAnomaly a) :
    Spares IsCall IsAnomaly rep r := by
  cases h with
  | whole unfailed ops result =>
    refine ⟨fun c hc => hcalls c (ops ▸ hc), Deed.anomalies script, ?_, hflags⟩
    rw [result, Report.anomalies_extend]
  | cut front c action key back done e planned unfailed steps ops result =>
    have hfront : Deed.calls script = Deed.calls front ++ c :: Deed.calls back := by
      rw [planned, Deed.calls_append]
      rfl
    have hanomalies : Deed.anomalies script = Deed.anomalies front ++ Deed.anomalies back := by
      rw [planned, Deed.anomalies_append]
      rfl
    refine ⟨fun c' hc' => hcalls c' ?_, Deed.anomalies front, ?_, fun a ha => hflags a ?_⟩
    · rw [ops] at hc'
      rw [hfront]
      simpa using (List.mem_append.1 hc').imp_right fun h => .inl (List.mem_singleton.1 h)
    · rw [result, Report.anomalies_extend]
    · rw [hanomalies]
      exact List.mem_append_left _ ha

theorem Spares.behind {front : List (Interaction.Step Call Call.Answer)} (h : Spares IsCall IsAnomaly rep r)
    (hfront : ∀ c ∈ front.filterMap Interaction.Step.op?, ¬IsCall c) :
    Spares IsCall IsAnomaly rep { r with steps := front ++ r.steps } where
  calls c hc := by
    rw [Interaction.Run.ops, List.filterMap_append] at hc
    exact (List.mem_append.1 hc).elim (hfront c) (h.calls c)
  anomalies := h.anomalies

theorem spares_of_unchanged (hcalls : ∀ c ∈ r.ops, ¬IsCall c) (hresult : r.result.2 = rep) :
    Spares IsCall IsAnomaly rep r :=
  ⟨hcalls, [], by rw [hresult, List.append_nil], by simp⟩

end

section
variable {group : Group} {bindings : List Binding} {index : RoleIndex} {held : List Assignment}
  {resolved : List Resolved} {roleId : String}

theorem not_assigned_of_held {scope : Scope} {a : Assignment} (ha : a ∈ held)
    (hgives : a.gives roleId scope = true) : Call.grantRole (.forGroup roleId group.id scope) ∉
      Deed.calls (bindingsPart group index held resolved).script := by
  intro hcall
  rw [Deed.Part.calls_script] at hcall
  obtain ⟨_, hstep, hcall⟩ := List.mem_map.1 hcall
  obtain ⟨r, hr, rfl⟩ := List.mem_map.1 hstep
  have hlacks := (List.mem_filter.1 hr).2
  obtain ⟨hrole, hscope⟩ : r.roleId = roleId ∧ r.binding.scope = scope := by
    simpa [assignStep, assignCall, AssignmentRequest.forGroup] using hcall
  rw [Bool.not_eq_true', Resolved.isHeld, List.any_eq_false, hrole, hscope] at hlacks
  exact hlacks a ha hgives

theorem not_unasked_of_binding (hresolve : resolve index (firsts bindings) = .ok resolved) {b : Binding}
    (hb : b ∈ bindings) (hid : index.idOf? b.role = some roleId) (name? : Option String) :
    .undeclaredGroupRole group.name roleId name? b.scope.name ∉
      Deed.anomalies (bindingsPart group index held resolved).script := by
  intro hflag
  rw [Deed.Part.anomalies_script] at hflag
  obtain ⟨x, -, hother, hx⟩ := (Surplus.mem_assignments hresolve).1 hflag
  obtain ⟨-, hrole, -, hscope⟩ := Anomaly.undeclaredGroupRole.inj hx
  have hcovers := hother b hb (hid.trans (congrArg some hrole))
  rw [← hscope, Goal.covers_name, BEq.rfl] at hcovers
  cases hcovers

theorem spares_groupRoles {b : Binding} (hb : b ∈ bindings) (hid : index.idOf? b.role = some roleId)
    (h : Call.Echoes (.groupRoleGrants group.id) (respond (.groupRoleGrants group.id) s).1
      (.grantRole (.forGroup roleId group.id b.scope)) []) :
    Spares (· = .grantRole (.forGroup roleId group.id b.scope))
      (fun a => ∃ name?, a = .undeclaredGroupRole group.name roleId name? b.scope.name) rep
      (Interaction.run respond ((groupRoles group bindings index).runFrom rep) s) := by
  rw [run_groupRoles]
  have hquestion (steps : List (Interaction.Step Call Call.Answer))
      (hsteps : steps.filterMap Interaction.Step.op? = [.groupRoleGrants group.id]) :
      ∀ c ∈ steps.filterMap Interaction.Step.op?, c ≠ .grantRole (.forGroup roleId group.id b.scope) := by
    simp [hsteps]
  cases hanswer : (respond (.groupRoleGrants group.id) s).1 with
  | error e => exact spares_of_unchanged (hquestion _ rfl) rfl
  | ok held =>
    rw [hanswer] at h
    have hops := ops_inquiry group held []
    rw [List.append_nil] at hops
    cases hresolve : resolve index (firsts bindings) with
    | error e => exact spares_of_unchanged (hquestion _ hops) rfl
    | ok resolved =>
      have hcarried := (carries_assignAll group index held resolved).run respond rep
        (respond (.groupRoleGrants group.id) s).2
      have hgives : (AssignmentRequest.forGroup roleId group.id b.scope).granted.gives roleId b.scope = true := by
        simp [Assignment.gives, AssignmentRequest.granted, AssignmentRequest.forGroup, Goal.covers_name]
      refine (spares_of_carried hcarried (fun c hc hcall => ?_) fun a ha hflag => ?_).behind
        (hquestion _ hops)
      · exact not_assigned_of_held h.mem_assignments hgives (hcall ▸ hc)
      · obtain ⟨name?, rfl⟩ := hflag
        exact not_unasked_of_binding hresolve hb hid name? ha

end

theorem spares_permissions {role : DeclaredRole} {roleId space name : String} {names : List String}
    (hdistinct : role.Distinct) (hspace : (space, names) ∈ role.permissions) (hname : name ∈ names)
    (h : Call.Echoes (.rolePermissions roleId) (respond (.rolePermissions roleId) s).1
      (.grantPermission (.forRole roleId space name)) []) :
    Spares (· = .grantPermission (.forRole roleId space name))
      (· = .undeclaredPermission role.name.text space name) rep
      (Interaction.run respond ((permissions role roleId).runFrom rep) s) := by
  rw [permissions, run_note_bind, run_call_bind (Attempt.isCall_permissionsBySpace _ _ _)]
  let lead (answer : Except Failure (List Permission)) : List (Interaction.Step Call Call.Answer) :=
    [.noted (.debug "verifying permissions" [("role", role.name.text)]),
      .answered (.rolePermissions roleId) answer]
  have hlead (answer : Except Failure (List Permission)) : ∀ c ∈ (lead answer).filterMap Interaction.Step.op?,
      c ≠ .grantPermission (.forRole roleId space name) := by
    simp [lead, Interaction.Step.op?]
  cases hanswer : (respond (.rolePermissions roleId) s).1 with
  | error e => exact spares_of_unchanged (hlead (.error e)) rfl
  | ok held =>
    rw [hanswer] at h
    have hheld := h.mem_permissions
    have hcarried := (carries_spaces role roleId held).run respond rep
      (respond (.rolePermissions roleId) s).2
    refine (spares_of_carried hcarried (fun c hc hcall => ?_) fun a ha hflag => ?_).behind
      (hlead (.ok held))
    · rw [Deed.calls_append, Deed.calls_flags, List.append_nil, Deed.calls_parts, calls_spaceParts] at hc
      obtain ⟨p, hp, rfl⟩ := List.mem_map.1 hc
      cases hcall
      exact Permission.not_held_of_mem_lacking hp (Permission.mem_namesIn.2 ⟨_, hheld, rfl, rfl⟩)
    · rw [Deed.anomalies_append, Deed.anomalies_flags, Deed.anomalies_parts, flags_spaceParts,
        ← List.map_append] at ha
      obtain ⟨p, hp, rfl⟩ := List.mem_map.1 ha
      cases hflag
      cases List.mem_append.1 hp with
      | inl hsurplus =>
        obtain ⟨e, he, hsame, hnot⟩ := Permission.not_declared_of_mem_surplus hsurplus
        obtain rfl : e = (p.1, names) := List.inj_on_of_nodup_map hdistinct he hspace hsame
        exact hnot hname
      | inr houtside =>
        exact Permission.not_declared_of_mem_outside houtside (List.mem_map_of_mem (f := (·.1)) hspace)

def rolesPart (desired : List DeclaredRole) (observed : RoleIndex) : Deed.Part where
  calls := (differences (desired.map (·.name)) (observed.roles.map Role.roleName)).onlyInFirst.map fun name =>
    (.createRole (.generated name), "create role", name.text)
  flags := Surplus.roles desired observed

theorem carries_roles (desired : List DeclaredRole) (observed : RoleIndex) :
    Carries .roleCreated (roles desired observed) (rolesPart desired observed).script := by
  have hcreate (name : RoleName) : Carries .roleCreated (createRole name)
      [.call (.createRole (.generated name)) "create role" name.text] :=
    (carries_note _).bind fun _ => carries_change (Attempt.isCall_during _ _ _)
  rw [Deed.Part.script, Deed.made, rolesPart, List.map_map]
  exact (carries_forM_singleton hcreate).bind fun _ => carries_flags _ _

theorem spares_roles {desired : List DeclaredRole} {role : DeclaredRole} {listed : List Role} {entry : Role}
    (hrole : role ∈ desired) (hentry : entry ∈ listed) (hkey : entry.roleName.key = role.name.key) :
    Spares (fun c => ∃ new, c = .createRole new ∧ RoleName.key ⟨new.name⟩ = role.name.key)
        (fun a => ∃ text, a = .undeclaredRole text ∧ RoleName.key ⟨text⟩ = role.name.key) rep
        (Interaction.run respond ((roles desired (.ofRoles listed)).runFrom rep) s) ∧
      ∃ id, (RoleIndex.ofRoles listed).requireId role.name = .ok id := by
  have hcontains (name : RoleName) (hname : name.key = role.name.key) :
      (RoleIndex.ofRoles listed).contains name = true := by
    rw [RoleIndex.contains_ofRoles, List.any_eq_true]
    exact ⟨entry, hentry, (RoleName.beq_iff _ _).2 (hkey.trans hname.symm)⟩
  refine ⟨spares_of_carried ((carries_roles desired _).run respond rep s) (fun c hc hcall => ?_)
    fun a ha hflag => ?_, ?_⟩
  · rw [Deed.Part.calls_script] at hc
    obtain ⟨_, hstep, rfl⟩ := List.mem_map.1 hc
    obtain ⟨name, hname, rfl⟩ := List.mem_map.1 hstep
    obtain ⟨new, hnew, hsame⟩ := hcall
    cases hnew
    have hlisted := hcontains name hsame
    rw [← RoleIndex.any_roles (RoleIndex.valid_ofRoles listed), List.any_eq_true] at hlisted
    obtain ⟨name', hname', hequal⟩ := hlisted
    cases hequal.symm.trans ((mem_without.1 hname).2 name' hname')
  · rw [Deed.Part.anomalies_script] at ha
    obtain ⟨other, -, hundeclared, rfl⟩ := Surplus.mem_roles.1 ha
    obtain ⟨text, htext, hsame⟩ := hflag
    cases htext
    exact hundeclared role hrole hsame.symm
  · have hfound := hcontains role.name rfl
    rw [← RoleIndex.isSome_idOf?, Option.isSome_iff_exists] at hfound
    obtain ⟨id, hid⟩ := hfound
    exact ⟨id, RoleIndex.requireId_eq_ok.2 hid⟩

theorem run_ofExcept {α : Type} (e : Except Failure α) :
    Interaction.run respond ((attempt (Attempt.ofExcept e)).runFrom rep) s = ⟨(e, rep), s, []⟩ := by
  cases e <;> rfl

theorem run_listedGroup (name : String) :
    Interaction.run respond ((listedGroup name).runFrom rep) s =
      match (respond .groups s).1 with
      | .error e => ⟨(.error e, rep), (respond .groups s).2, [.answered .groups (.error e)]⟩
      | .ok known => ⟨(requireGroup name known, rep), (respond .groups s).2,
          .answered .groups (.ok known) :: known.map fun g => .noted (.debug "available group"
            [("group", g.name), ("id", g.id), ("members", toString g.members.length)])⟩ := by
  rw [listedGroup, run_call_bind (Attempt.isCall_call _)]
  cases (respond .groups s).1 with
  | error e => rfl
  | ok known => simp only [id, run_notes_bind, run_ofExcept, List.append_nil]

/-- When a group of the name is listed at first, it is only looked up once more. -/
theorem run_ensureGroup_of_listed {name : String} {before : List Group}
    (hbefore : (respond .groups s).1 = .ok before) (hlisted : ∃ g ∈ before, g.name = name) :
    Interaction.run respond ((ensureGroup name).runFrom rep) s =
      let r := Interaction.run respond ((listedGroup name).runFrom rep) (respond .groups s).2
      { r with steps := .answered .groups (.ok before) :: r.steps } := by
  have hfound : (Group.named? name before).isNone = false := by
    obtain ⟨g, hg, hname⟩ := hlisted
    rw [Option.isNone_eq_false_iff, Group.named?, List.find?_isSome]
    exact ⟨g, hg, by simpa using hname⟩
  have hnothing : createMissing name before = pure () := by
    rw [createMissing, hfound]
    rfl
  rw [ensureGroup_eq, run_call_bind (Attempt.isCall_call _), hbefore]
  simp only [id, hnothing, pure_bind]

theorem finds_group {name id : String}
    (h : Call.Echoes .groups (respond .groups s).1 (.createGroup (.generated name)) [("id", .string id)]) :
    let m := (respond .groups s).2
    let r := Interaction.run respond ((ensureGroup name).runFrom rep) s
    (∀ new, .createGroup new ∉ r.ops) ∧ ∀ before known, (respond .groups s).1 = .ok before →
      (respond .groups m).1 = .ok known →
      Call.Echoes .groups (respond .groups m).1 (.createGroup (.generated name)) [("id", .string id)] →
      ∃ group, r.result = (.ok group, rep) ∧ Group.named? name known = some group ∧
        ((∀ g ∈ known, g.name = name → g = ⟨id, name, []⟩) → group = ⟨id, name, []⟩) := by
  intro m r
  cases hbefore : (respond .groups s).1 with
  | error e =>
    have hrun : r = ⟨(.error e, rep), m, [.answered .groups (.error e)]⟩ := by
      change Interaction.run respond ((ensureGroup name).runFrom rep) s = _
      rw [ensureGroup_eq, run_call_bind (Attempt.isCall_call _), hbefore]
      rfl
    rw [hrun]
    simp [Interaction.Run.ops, Interaction.Step.op?]
  | ok before =>
    rw [hbefore] at h
    have hrun : r = _ := run_ensureGroup_of_listed hbefore ⟨_, h.mem_groups, rfl⟩
    rw [hrun, run_listedGroup]
    refine ⟨fun new => ?_, fun before' known hsame hknown hlater => ?_⟩
    · cases (respond .groups (respond .groups s).2).1 <;>
        simp [Interaction.Run.ops, Interaction.Step.op?, List.filterMap_map]
    · rw [hknown] at hlater ⊢
      have hmem := hlater.mem_groups
      cases hnamed : Group.named? name known with
      | none =>
        have hother := List.find?_eq_none.1 hnamed _ hmem
        simp [NewGroup.listed, NewGroup.generated] at hother
      | some group =>
        refine ⟨group, by simp only [requireGroup, hnamed], rfl, fun honly => ?_⟩
        exact honly group (List.mem_of_find?_eq_some hnamed) (Group.name_of_named? hnamed)

/-- Whoever answers, from any report: what was sent for a binding, a permission, a role or a group and is
listed again is not sent again and not flagged, and what is listed of it can be read. -/
theorem recognises_echoes (respond : (call : Call) → σ → call.Answer × σ) (rep : Report) (s : σ) :
    (∀ (call : Call) (v : call.Value) (text : String), Padded (call.EchoText v) text →
      call.decode text = .ok v) ∧
    (∀ (group : Group) (bindings : List Binding) (index : RoleIndex), ∀ b ∈ bindings, ∀ roleId,
      index.idOf? b.role = some roleId →
      Call.Echoes (.groupRoleGrants group.id) (respond (.groupRoleGrants group.id) s).1
        (.grantRole (.forGroup roleId group.id b.scope)) [] →
      Spares (· = .grantRole (.forGroup roleId group.id b.scope))
        (fun a => ∃ name?, a = .undeclaredGroupRole group.name roleId name? b.scope.name) rep
        (Interaction.run respond ((groupRoles group bindings index).runFrom rep) s)) ∧
    (∀ (role : DeclaredRole) (roleId space name : String) (names : List String), role.Distinct →
      (space, names) ∈ role.permissions → name ∈ names →
      Call.Echoes (.rolePermissions roleId) (respond (.rolePermissions roleId) s).1
        (.grantPermission (.forRole roleId space name)) [] →
      Spares (· = .grantPermission (.forRole roleId space name))
        (· = .undeclaredPermission role.name.text space name) rep
        (Interaction.run respond ((permissions role roleId).runFrom rep) s)) ∧
    (∀ (desired : List DeclaredRole) (listed : List Role) (id : String), ∀ role ∈ desired,
      Call.Echoes .assignableRoles (.ok listed) (.createRole (.generated role.name)) [("id", .string id)] →
      Spares (fun c => ∃ new, c = .createRole new ∧ RoleName.key ⟨new.name⟩ = role.name.key)
          (fun a => ∃ text, a = .undeclaredRole text ∧ RoleName.key ⟨text⟩ = role.name.key) rep
          (Interaction.run respond ((roles desired (.ofRoles listed)).runFrom rep) s) ∧
        ∃ id', (RoleIndex.ofRoles listed).requireId role.name = .ok id') ∧
    ∀ name id : String,
      Call.Echoes .groups (respond .groups s).1 (.createGroup (.generated name)) [("id", .string id)] →
      let m := (respond .groups s).2
      let r := Interaction.run respond ((ensureGroup name).runFrom rep) s
      (∀ new, .createGroup new ∉ r.ops) ∧ ∀ before known, (respond .groups s).1 = .ok before →
        (respond .groups m).1 = .ok known →
        Call.Echoes .groups (respond .groups m).1 (.createGroup (.generated name)) [("id", .string id)] →
        ∃ group, r.result = (.ok group, rep) ∧ Group.named? name known = some group ∧
          ((∀ g ∈ known, g.name = name → g = ⟨id, name, []⟩) → group = ⟨id, name, []⟩) := by
  refine ⟨fun _ _ _ => Call.decode_echoes, fun _ _ _ _ hb _ hid => spares_groupRoles hb hid,
    fun _ _ _ _ _ hdistinct hspace hname => spares_permissions hdistinct hspace hname,
    fun desired listed id role hrole h => ?_, fun _ _ => finds_group⟩
  exact spares_roles hrole h.mem_roles rfl

def smallListing : Call → List Json
  | .assignableRoles => [.object [("id", .string "r1"), ("name", .string "Reader"),
      ("description", .string "Automatically created role: Reader"), ("type", .string "Global")]]
  | .rolePermissions roleId => [(PermissionRequest.forRole roleId "docs" "read").toJson]
  | .groups => [.object [("id", .string "g1"), ("name", .string "Ops"),
      ("description", .string "Automatically created group: Ops")]]
  | .groupRoleGrants groupId => [(AssignmentRequest.forGroup "r1" groupId .global).toJson]
  | _ => []

def smallAnswer (call : Call) (s : Unit) : call.Answer × Unit :=
  (Http.Client.answer call ⟨"https", "", none, none, none, .segments [], none, none⟩
    (.whole 200 (Json.array (smallListing call)).text), s)

theorem echoes_smallAnswer {call write : Call} {added : List (String × Json)} {v : Json}
    (hlisting : smallListing call = [v]) (h : write.IsEcho added v.render) :
    call.Echoes (smallAnswer call ()).1 write added := by
  refine ⟨_, 200, (Json.array [v]).text, Json.padded_text ⟨_, Json.arrayText_render [v], ?_, v.render, ?_, h⟩,
    by rw [smallAnswer, hlisting]⟩
  · obtain ⟨_, _, -, -, hwritten⟩ := h
    simpa using hwritten.isValue
  · simp

theorem smallAnswer_of_decode {call : Call} {v : call.Value} (haccepted : 200 ∈ call.accepted)
    (h : call.decode (Json.array (smallListing call)).text = .ok v) : (smallAnswer call ()).1 = .ok v := by
  simp only [smallAnswer, Http.Client.answer, if_pos haccepted, h]
  rfl

theorem small_recognised :
    Spares (· = .grantRole (.forGroup "r1" "g1" .global))
      (fun a => ∃ name?, a = .undeclaredGroupRole "Ops" "r1" name? "Global") {}
      (Interaction.run smallAnswer
        ((groupRoles ⟨"g1", "Ops", []⟩ [⟨⟨"reader"⟩, .global⟩] (.ofRoles [⟨"r1", "Reader", ""⟩])).runFrom {}) ()) ∧
    Spares (· = .grantPermission (.forRole "r1" "docs" "read")) (· = .undeclaredPermission "Reader" "docs" "read")
      {} (Interaction.run smallAnswer
        ((permissions ⟨⟨"Reader"⟩, [("docs", ["read", "list"])], none, none⟩ "r1").runFrom {}) ()) ∧
    (smallAnswer .assignableRoles ()).1 = .ok [⟨"r1", "Reader", "Global"⟩] ∧
    (∃ id, (RoleIndex.ofRoles [⟨"r1", "Reader", "Global"⟩]).requireId ⟨"Reader"⟩ = .ok id) ∧
    (Interaction.run smallAnswer ((ensureGroup "Ops").runFrom {}) ()).result = (.ok ⟨"g1", "Ops", []⟩, {}) := by
  obtain ⟨hdecode, hgroup, hpermissions, hroles, hensure⟩ := recognises_echoes smallAnswer {} ()
  have hassigned : (Call.grantRole (.forGroup "r1" "g1" .global)).IsEcho []
      (AssignmentRequest.forGroup "r1" "g1" .global).toJson.render := Call.isEcho_render rfl (by simp)
  have hgranted : (Call.grantPermission (.forRole "r1" "docs" "read")).IsEcho []
      (PermissionRequest.forRole "r1" "docs" "read").toJson.render := Call.isEcho_render rfl (by simp)
  have hrole : (Call.createRole (.generated ⟨"Reader"⟩)).IsEcho [("id", .string "r1")] (Json.object
      [("id", .string "r1"), ("name", .string "Reader"),
        ("description", .string "Automatically created role: Reader"), ("type", .string "Global")]).render :=
    Call.isEcho_render rfl (by simp)
  have hcreated : (Call.createGroup (.generated "Ops")).IsEcho [("id", .string "g1")] (Json.object
      [("id", .string "g1"), ("name", .string "Ops"),
        ("description", .string "Automatically created group: Ops")]).render :=
    Call.isEcho_render rfl (by simp)
  have hroleTexts : ListText (fun c : NewRole × String => (Call.createRole c.1).IsEcho [("id", .string c.2)])
      [(.generated ⟨"Reader"⟩, "r1")] (Json.array (smallListing .assignableRoles)).render :=
    Json.listText_render (.cons hrole .nil)
  have hgroupTexts : ListText (fun c : NewGroup × String => (Call.createGroup c.1).IsEcho [("id", .string c.2)])
      [(.generated "Ops", "g1")] (Json.array (smallListing .groups)).render :=
    Json.listText_render (.cons hcreated .nil)
  have hroleAnswer : (smallAnswer .assignableRoles ()).1 = .ok [⟨"r1", "Reader", "Global"⟩] :=
    smallAnswer_of_decode (by decide) (hdecode _ _ _ (Json.padded_text (.roles hroleTexts)))
  have hgroupAnswer : (smallAnswer .groups ()).1 = .ok [⟨"g1", "Ops", []⟩] :=
    smallAnswer_of_decode (by decide) (hdecode _ _ _ (Json.padded_text (.groups hgroupTexts)))
  have hroleEcho := @echoes_smallAnswer .assignableRoles _ _ _ rfl hrole
  have hgroupEcho := @echoes_smallAnswer .groups _ _ _ rfl hcreated
  refine ⟨?_, ?_, hroleAnswer, ?_, ?_⟩
  · exact hgroup ⟨"g1", "Ops", []⟩ [⟨⟨"reader"⟩, .global⟩] _ _ (List.mem_singleton_self _) "r1" (by decide)
      (echoes_smallAnswer rfl hassigned)
  · exact hpermissions ⟨⟨"Reader"⟩, [("docs", ["read", "list"])], none, none⟩ "r1" "docs" "read" ["read", "list"]
      (by simp [DeclaredRole.Distinct]) (by simp) (by simp) (echoes_smallAnswer rfl hgranted)
  · exact (hroles [⟨⟨"Reader"⟩, [], none, none⟩] _ "r1" _ (List.mem_singleton_self _)
      (hroleAnswer ▸ hroleEcho)).2
  · obtain ⟨group, hresult, -, honly⟩ := (hensure "Ops" "g1" hgroupEcho).2 _ _ hgroupAnswer hgroupAnswer hgroupEcho
    rw [hresult, honly (by simp)]

end Reconcile

end AccessBaseline
