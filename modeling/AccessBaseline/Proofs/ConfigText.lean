import AccessBaseline.Proofs.Config
import AccessBaseline.Proofs.Json.Records
import AccessBaseline.Proofs.Scope

/-! Configurations and their texts. From any text of a configuration it is read as it was written, and it is
accepted unless a role or the group is at fault. A binding with a scope that there is not is never read. -/
namespace AccessBaseline
open Json (HasMember HasItem Part RecordText ListText MapText OptionText StringText ObjectText ArrayText IsValue Padded boolText
  listText_render)
open Json.Record (takes_recordText fits_required fits_defaulted valueAfter valueAfter_of_seen)
open Json.Reader (takes_text takes_bool takes_listText takes_mapText takes_optionText)

theorem Text.lowercase_eq_empty {s : String} (h : lowercase s = "") : s = "" := by
  have hnil : lowerFrom false s.toList = [] := String.ofList_injective (h.trans String.ofList_nil.symm)
  cases hs : s.toList with
  | nil => exact String.toList_inj.1 hs
  | cons c rest =>
    have hchar : lowerChar c ≠ [] := by
      unfold lowerChar
      split
      · simp
      · split <;> simp
    rw [hs, lowerFrom] at hnil
    split at hnil <;> simp_all

namespace Scope

def IsText (scope : Scope) (cs : List Char) : Prop :=
  ∃ s, Text.asciiLower s = Text.asciiLower scope.name ∧ StringText s cs

theorem takes_reader {scope : Scope} {cs : List Char} (h : scope.IsText cs) : reader.Takes cs scope := by
  obtain ⟨s, hs, htext⟩ := h
  refine (takes_text htext).accepted ?_
  rw [parse, ofText?_eq_some.2 hs]
  rfl

theorem isText_of_acceptsAs {cs : List Char} {a : Scope} (hvalue : IsValue cs) (h : reader.AcceptsAs cs a) :
    ∃ scope : Scope, scope.IsText cs := by
  obtain ⟨pre, rest, more, hpre, -, hread⟩ := h
  obtain ⟨s, hs, haccept⟩ := Json.Reader.ok_of_accepted hread
  have htext := (Json.Reader.stringText_of_ok hpre hvalue hs).1
  cases hof : ofText? s with
  | none =>
    rw [parse, hof] at haccept
    cases haccept
  | some scope' => exact ⟨scope', s, ofText?_eq_some.1 hof, htext⟩

end Scope

namespace Binding

/-- How a binding is written. -/
def parts (b : Binding) : List Part :=
  [⟨"roleName", StringText b.role.text, False⟩, ⟨"scope", b.scope.IsText, False⟩]

/-- A binding of which only some fields were read. -/
def after (b : Binding) (seen : List String) : Binding :=
  ⟨valueAfter seen "roleName" b.role ⟨""⟩, valueAfter seen "scope" b.scope .global⟩

theorem takes_record {b : Binding} {cs : List Char} (h : RecordText b.parts cs) :
    record.reader.Takes cs b := by
  refine takes_recordText h (show b.after [] = _ from rfl)
    (.cons (fits_required (fun _ => takes_text) fun seen => ?_)
      (.cons (fits_required (fun _ => Scope.takes_reader) fun seen => ?_) .nil)) fun seen hseen => ?_
  · simp [after, valueAfter]
  · simp [after, valueAfter]
  · simp only [parts, List.forall_mem_cons, or_false] at hseen
    simp [after, valueAfter_of_seen, hseen]

end Binding

namespace DeclaredRole

def parts (role : DeclaredRole) : List Part :=
  [⟨"name", StringText role.name.text, False⟩,
    ⟨"permissions", MapText (ListText StringText) role.permissions, role.permissions = []⟩,
    ⟨"description", OptionText role.description?, role.description? = none⟩,
    ⟨"existingId", OptionText role.existingId?, role.existingId? = none⟩]

def after (role : DeclaredRole) (seen : List String) : DeclaredRole :=
  ⟨valueAfter seen "name" role.name ⟨""⟩, valueAfter seen "permissions" role.permissions [],
    valueAfter seen "description" role.description? none,
    valueAfter seen "existingId" role.existingId? none⟩

theorem takes_record {role : DeclaredRole} {cs : List Char} (h : RecordText role.parts cs)
    (hdistinct : role.Distinct) : record.reader.Takes cs role := by
  have hnames (names : List String) (cs : List Char) (h : ListText StringText names cs) :
      (Json.Reader.list .text).Takes cs names := takes_listText h fun _ _ _ => takes_text
  refine takes_recordText h (show role.after [] = _ from rfl)
    (.cons (fits_required (fun _ => takes_text) fun seen => ?_)
      (.cons (fits_defaulted (fun _ h => takes_mapText h hnames hdistinct) (fun seen => ?_) _)
        (.cons (fits_defaulted (fun _ => takes_optionText) (fun seen => ?_) _)
          (.cons (fits_defaulted (fun _ => takes_optionText) (fun seen => ?_) _) .nil)))) fun seen hseen => ?_
  · simp [after, valueAfter]
  · simp [after, valueAfter]
  · simp [after, valueAfter]
  · simp [after, valueAfter]
  · simp only [parts, List.forall_mem_cons, or_false] at hseen
    simp [after, valueAfter_of_seen, hseen]

end DeclaredRole

namespace Config

def parts (c : Config) : List Part :=
  [⟨"debug", fun cs => cs = boolText c.debug, c.debug = false⟩,
    ⟨"apiUrl", StringText c.apiUrl, c.apiUrl = ""⟩,
    ⟨"roles", ListText (fun role => RecordText role.parts) c.roles, c.roles = []⟩,
    ⟨"groupName", StringText c.groupName, c.groupName = "CloudEngineers"⟩,
    ⟨"cloudengineers", ListText StringText c.members, c.members = []⟩,
    ⟨"cloudengineerRoles", ListText (fun b => RecordText b.parts) c.bindings, c.bindings = []⟩,
    ⟨"requiredRoles", ListText (fun name => StringText name.text) c.requiredRoles, c.requiredRoles = []⟩]

def after (c : Config) (seen : List String) : Config :=
  ⟨valueAfter seen "debug" c.debug false, valueAfter seen "apiUrl" c.apiUrl "",
    valueAfter seen "roles" c.roles [], valueAfter seen "groupName" c.groupName "CloudEngineers",
    valueAfter seen "cloudengineers" c.members [],
    valueAfter seen "cloudengineerRoles" c.bindings [],
    valueAfter seen "requiredRoles" c.requiredRoles []⟩

theorem takes_record {c : Config} {cs : List Char} (h : RecordText c.parts cs)
    (hdistinct : ∀ role ∈ c.roles, role.Distinct) : record.reader.Takes cs c := by
  have hroles (cs : List Char) (h : ListText (fun role => RecordText role.parts) c.roles cs) :
      (Json.Reader.list DeclaredRole.record.reader).Takes cs c.roles :=
    takes_listText h fun role hrole _ h => DeclaredRole.takes_record h (hdistinct role hrole)
  have hbindings (cs : List Char) (h : ListText (fun b => RecordText b.parts) c.bindings cs) :
      (Json.Reader.list Binding.record.reader).Takes cs c.bindings :=
    takes_listText h fun _ _ _ => Binding.takes_record
  have hnames (names : List String) (cs : List Char) (h : ListText StringText names cs) :
      (Json.Reader.list .text).Takes cs names := takes_listText h fun _ _ _ => takes_text
  have hrequired (cs : List Char) (h : ListText (fun name => StringText name.text) c.requiredRoles cs) :
      (Json.Reader.list .text).Takes cs (c.requiredRoles.map (·.text)) := by
    obtain ⟨items, hitems, harray⟩ := h
    exact hnames _ _ ⟨items, List.forall₂_map_left_iff.2 hitems, harray⟩
  refine takes_recordText h (show c.after [] = _ from rfl)
    (.cons (fits_defaulted (fun _ h => h ▸ takes_bool c.debug) (fun seen => ?_) _)
      (.cons (fits_defaulted (fun _ => takes_text) (fun seen => ?_) _)
        (.cons (fits_defaulted hroles (fun seen => ?_) _)
          (.cons (fits_defaulted (fun _ => takes_text) (fun seen => ?_) _)
            (.cons (fits_defaulted (hnames c.members) (fun seen => ?_) _)
              (.cons (fits_defaulted hbindings (fun seen => ?_) _)
                (.cons (fits_defaulted hrequired (fun seen => ?_) _) .nil))))))) fun seen hseen => ?_
  · simp [after, valueAfter]
  · simp [after, valueAfter]
  · simp [after, valueAfter]
  · simp [after, valueAfter]
  · simp [after, valueAfter]
  · simp [after, valueAfter]
  · simp [after, valueAfter, Function.comp_def]
  · simp only [parts, List.forall_mem_cons] at hseen
    simp [after, valueAfter_of_seen, hseen]

/-- Whether the role with an index has no name or that of a role before it. -/
def FaultAt (roles : List DeclaredRole) (i : Nat) : Prop :=
  ∃ role, roles[i]? = some role ∧
    (role.name.text = "" ∨ role.name.key ∈ (roles.take i).map (·.name.key))

theorem key_eq_empty {name : RoleName} : name.key = "" ↔ name.text = "" :=
  ⟨Text.lowercase_eq_empty, fun h => by rw [RoleName.key, h, Text.lowercase_empty]⟩

theorem roleFault?_drop {roles : List DeclaredRole} {i : Nat} (hi : i ≤ roles.length)
    (h : ∀ j < i, ¬FaultAt roles j) :
    roleFault? [] roles = roleFault? ((roles.take i).map (·.name.key)).reverse (roles.drop i) := by
  induction i with
  | zero => simp
  | succ i ih =>
    have hrole : roles[i]? = some roles[i] := List.getElem?_eq_getElem hi
    have hclean : roles[i].name.text ≠ "" ∧ roles[i].name.key ∉ (roles.take i).map (·.name.key) := by
      have hfault := h i (Nat.lt_succ_self i)
      simp only [FaultAt, not_exists, not_and, not_or] at hfault
      exact hfault _ hrole
    rw [ih (Nat.le_of_succ_le hi) fun j hj => h j (Nat.lt_succ_of_lt hj), List.drop_eq_getElem_cons hi,
      roleFault?, if_neg (mt key_eq_empty.1 hclean.1), if_neg (by simpa using hclean.2),
      List.take_succ_eq_append_getElem hi, List.map_append, List.reverse_append]
    rfl

theorem roleFault?_of_first {roles : List DeclaredRole} {i : Nat} {role : DeclaredRole}
    (hrole : roles[i]? = some role)
    (hfault : role.name.text = "" ∨ role.name.key ∈ (roles.take i).map (·.name.key))
    (h : ∀ j < i, ¬FaultAt roles j) : roleFault? [] roles =
      some (if role.name.text = "" then .emptyRoleName else .duplicateRole role.name.text) := by
  obtain ⟨hi, rfl⟩ := List.getElem?_eq_some_iff.1 hrole
  rw [roleFault?_drop hi.le h, List.drop_eq_getElem_cons hi, roleFault?]
  by_cases hempty : roles[i].name.text = ""
  · rw [if_pos (key_eq_empty.2 hempty), if_pos hempty]
  · rw [if_neg (mt key_eq_empty.1 hempty), if_pos (by simpa using hfault.resolve_left hempty),
      if_neg hempty]

theorem roleFault?_eq_none_iff {roles : List DeclaredRole} :
    roleFault? [] roles = none ↔ ∀ i, ¬FaultAt roles i := by
  constructor
  · intro h i
    induction i using Nat.strongRecOn with
    | ind i ih =>
      rintro ⟨role, hrole, hfault⟩
      cases h.symm.trans (roleFault?_of_first hrole hfault ih)
  · intro h
    rw [roleFault?_drop (Nat.le_refl roles.length) fun j _ => h j, List.drop_length, roleFault?]

theorem not_faultAt_iff {roles : List DeclaredRole} :
    (∀ i, ¬FaultAt roles i) ↔ (∀ role ∈ roles, role.name.text ≠ "") ∧ (roles.map (·.name.key)).Nodup := by
  constructor
  · intro h
    refine ⟨fun role hrole hempty => ?_, List.pairwise_iff_getElem.2 fun i j hi hj hij hsame => ?_⟩
    · obtain ⟨i, hi⟩ := List.mem_iff_getElem?.1 hrole
      exact h i ⟨role, hi, .inl hempty⟩
    · simp only [List.length_map, List.getElem_map] at hi hj hsame
      refine h j ⟨roles[j], List.getElem?_eq_getElem hj, .inr (List.mem_map.2 ⟨roles[i], ?_, hsame⟩)⟩
      exact List.mem_take_iff_getElem.2 ⟨i, by omega, rfl⟩
  · rintro ⟨hnames, hnodup⟩ i ⟨role, hrole, hempty | hkey⟩
    · exact hnames role (List.mem_of_getElem? hrole) hempty
    · obtain ⟨role', hrole', hsame⟩ := List.mem_map.1 hkey
      obtain ⟨j, hj, rfl⟩ := List.mem_take_iff_getElem.1 hrole'
      obtain ⟨hi, rfl⟩ := List.getElem?_eq_some_iff.1 hrole
      have hne := List.pairwise_iff_getElem.1 hnodup j i (by simp; omega) (by simpa using hi) (by omega)
      simp only [List.getElem_map] at hne
      exact hne hsame

theorem careful_bindings : Binding.record.Careful := by
  intro f hf b
  simp only [Binding.record, List.mem_cons, List.not_mem_nil, or_false] at hf
  rcases hf with rfl | rfl
  · exact Json.Reader.exact_text.map _
  · exact (Json.Reader.exact_text.accepted _).map _

theorem careful_roles : DeclaredRole.record.Careful := by
  intro f hf role
  simp only [DeclaredRole.record, List.mem_cons, List.not_mem_nil, or_false] at hf
  rcases hf with rfl | rfl | rfl | rfl
  · exact Json.Reader.exact_text.map _
  · exact (Json.Reader.exact_map (Json.Reader.exact_list Json.Reader.exact_text)).map _
  · exact (Json.Reader.exact_optional Json.Reader.exact_text).map _
  · exact (Json.Reader.exact_optional Json.Reader.exact_text).map _

theorem careful_record : record.Careful := by
  have hnames : (Json.Reader.list .text).Exact := Json.Reader.exact_list Json.Reader.exact_text
  intro f hf c
  simp only [record, List.mem_cons, List.not_mem_nil, or_false] at hf
  rcases hf with rfl | rfl | rfl | rfl | rfl | rfl | rfl
  · exact Json.Reader.exact_bool.map _
  · exact Json.Reader.exact_text.map _
  · exact (Json.Reader.exact_list (Json.Record.exact_reader careful_roles)).map _
  · exact Json.Reader.exact_text.map _
  · exact hnames.map _
  · exact (Json.Reader.exact_list (Json.Record.exact_reader careful_bindings)).map _
  · exact hnames.map _

theorem refuses_binding :
    Binding.record.reader.Refuses (HasMember "scope" fun value => ∀ scope : Scope, ¬scope.IsText value) := by
  refine Json.Record.refuses_member careful_bindings rfl fun b => Json.Reader.Refuses.map ?_ _
  intro cs scope hvalue hscope haccepts
  obtain ⟨scope', htext⟩ := Scope.isText_of_acceptsAs hvalue haccepts
  exact hscope scope' htext

theorem refuses_record : record.reader.Refuses (HasMember "cloudengineerRoles"
    (HasItem (HasMember "scope" fun value => ∀ scope : Scope, ¬scope.IsText value))) :=
  Json.Record.refuses_member careful_record rfl fun _ =>
    (refuses_binding.list (Json.Record.exact_reader careful_bindings)).map _

theorem parse_of_takes {c : Config} {text path : String} (h : Padded (record.reader.Takes · c) text) :
    parse text path =
      match c.fault? with
      | some fault => .error (.invalidConfig fault)
      | none => .ok c := by
  cases hfault : c.fault? <;> simp only [parse, Json.decode_padded h, hfault]

/-- A configuration is read from any text of it as it is, unless a role or the group is at fault, of which
the first is reported. No text is read that has a binding whose scope is none. -/
theorem parse_document :
    (∀ (c : Config) (text path : String), Padded (RecordText c.parts) text →
      (∀ role ∈ c.roles, role.Distinct) →
      (parse text path = .ok c ↔ c.groupName ≠ "" ∧ (∀ role ∈ c.roles, role.name.text ≠ "") ∧
        (c.roles.map (·.name.key)).Nodup) ∧
      (∀ i role, c.roles[i]? = some role → FaultAt c.roles i → (∀ j < i, ¬FaultAt c.roles j) →
        parse text path = .error (.invalidConfig
          (if role.name.text = "" then .emptyRoleName else .duplicateRole role.name.text))) ∧
      ((∀ i, ¬FaultAt c.roles i) → c.groupName = "" →
        parse text path = .error (.invalidConfig .emptyGroupName))) ∧
    ∀ text path : String, Padded (HasMember "cloudengineerRoles" (HasItem
        (HasMember "scope" fun value => ∀ scope : Scope, ¬scope.IsText value))) text →
      ∃ e, parse text path = .error (.configParse path e) := by
  refine ⟨fun c text path htext hdistinct => ?_, fun text path htext => ?_⟩
  · rw [parse_of_takes (htext.mono fun _ hrecord => takes_record hrecord hdistinct)]
    refine ⟨?_, fun i role hrole hfault hfirst => ?_, fun hclean hgroup => ?_⟩
    · rw [and_comm, ← not_faultAt_iff]
      constructor
      · intro h
        have hnone : c.fault? = none := by
          cases hfault : c.fault? with
          | none => rfl
          | some fault =>
            rw [hfault] at h
            cases h
        obtain ⟨hroles, hgroup⟩ := Option.or_eq_none_iff.1 hnone
        exact ⟨roleFault?_eq_none_iff.1 hroles, by simpa using hgroup⟩
      · rintro ⟨hclean, hgroup⟩
        simp [fault?, roleFault?_eq_none_iff.2 hclean, hgroup]
    · obtain ⟨role', hrole', hfault⟩ := hfault
      cases hrole.symm.trans hrole'
      simp only [fault?, roleFault?_of_first hrole hfault hfirst, Option.some_or]
    · simp [fault?, roleFault?_eq_none_iff.2 hclean, hgroup]
  · obtain ⟨e, hdecode⟩ := Json.exists_error_of_refuses htext (fun _ => HasMember.isValue) refuses_record
    exact ⟨e, by rw [parse, hdecode]⟩

def smallDocument : Json :=
  .object [
    ("cloudengineerRoles",
      .array [.object [("scope", .string "gLOBAL"), ("note", .null), ("roleName", .string "reader")]]),
    ("owner", .array []),
    ("roles", .array [.object [("permissions", .object [("docs", .array [.string "read", .string "list"])]),
      ("name", .string "Reader"), ("rank", .bool true)]]),
    ("cloudengineers", .array [.string "ada"]),
    ("groupName", .string "Ops")]

theorem smallDocument_text : Padded (RecordText small.parts) smallDocument.text := by
  have hstring (s : String) : StringText s (Json.string s).render := Json.stringText_renderString s
  have hnull : IsValue Json.null.render := .null
  have htrue : IsValue (Json.bool true).render := .bool true
  have hempty : IsValue (Json.array []).render := .array (Json.arrayText_render []) (by simp)
  have hbinding : RecordText (Binding.parts ⟨⟨"reader"⟩, .global⟩) (Json.object
      [("scope", .string "gLOBAL"), ("note", .null), ("roleName", .string "reader")]).render := by
    refine ⟨_, Json.objectText_render _, ?_, ?_⟩
    · simp only [Binding.parts, List.forall_mem_cons]
      exact ⟨.inr ⟨_, hstring "reader", rfl⟩, .inr ⟨_, ⟨"gLOBAL", by decide +kernel, hstring _⟩, rfl⟩, by simp⟩
    · simp [Binding.parts, hnull]
  have hnames : ListText StringText ["read", "list"] (Json.array [.string "read", .string "list"]).render :=
    listText_render (.cons (hstring _) (.cons (hstring _) .nil))
  have hpermissions : MapText (ListText StringText) [("docs", ["read", "list"])] (Json.object
      [("docs", .array [.string "read", .string "list"])]).render :=
    ⟨_, .cons ⟨rfl, hnames⟩ .nil, Json.objectText_render [("docs", .array [.string "read", .string "list"])]⟩
  have hrole : RecordText (DeclaredRole.parts ⟨⟨"Reader"⟩, [("docs", ["read", "list"])], none, none⟩)
      (Json.object [("permissions", .object [("docs", .array [.string "read", .string "list"])]),
        ("name", .string "Reader"), ("rank", .bool true)]).render := by
    refine ⟨_, Json.objectText_render _, ?_, ?_⟩
    · simp only [DeclaredRole.parts, List.forall_mem_cons]
      exact ⟨.inr ⟨_, hstring "Reader", rfl⟩, .inr ⟨_, hpermissions, rfl⟩, .inl ⟨by simp, by simp⟩,
        .inl ⟨by simp, by simp⟩, by simp⟩
    · simp [DeclaredRole.parts, htrue]
  refine Json.padded_text ⟨_, Json.objectText_render _, ?_, ?_⟩
  · simp only [parts, List.forall_mem_cons]
    exact ⟨.inl ⟨rfl, by simp⟩, .inl ⟨rfl, by simp⟩, .inr ⟨_, listText_render (.cons hrole .nil), rfl⟩,
      .inr ⟨_, hstring "Ops", rfl⟩, .inr ⟨_, listText_render (.cons (hstring "ada") .nil), rfl⟩,
      .inr ⟨_, listText_render (.cons hbinding .nil), rfl⟩, .inl ⟨rfl, by simp⟩, by simp⟩
  · simp [parts, hempty]

def misscoped : Json :=
  .object [("groupName", .null),
    ("cloudengineerRoles", .array [.object [("roleName", .bool true), ("scope", .string "galaxy")]])]

theorem misscoped_text : Padded (HasMember "cloudengineerRoles" (HasItem
    (HasMember "scope" fun value => ∀ scope : Scope, ¬scope.IsText value))) misscoped.text := by
  have hstring (s : String) : IsValue (Json.string s).render := .string (Json.stringText_renderString s)
  have hnull : IsValue Json.null.render := .null
  have htrue : IsValue (Json.bool true).render := .bool true
  have hscope (scope : Scope) : ¬scope.IsText (Json.string "galaxy").render := by
    rintro ⟨s, hs, htext⟩
    obtain rfl := htext.unique (Json.stringText_renderString "galaxy")
    revert hs
    cases scope <;> decide +kernel
  have hbinding : HasMember "scope" (fun value => ∀ scope : Scope, ¬scope.IsText value)
      (Json.object [("roleName", .bool true), ("scope", .string "galaxy")]).render :=
    ⟨_, Json.objectText_render _, by simp [htrue, hstring], _, by simp, hscope⟩
  have hitem : IsValue (Json.object [("roleName", .bool true), ("scope", .string "galaxy")]).render :=
    .object (Json.objectText_render _) (by simp [htrue, hstring])
  have hlist : HasItem (HasMember "scope" fun value => ∀ scope : Scope, ¬scope.IsText value)
      (Json.array [.object [("roleName", .bool true), ("scope", .string "galaxy")]]).render :=
    ⟨_, Json.arrayText_render _, by simp [hitem], _, by simp, hbinding⟩
  have hbindings : IsValue (Json.array
      [.object [("roleName", .bool true), ("scope", .string "galaxy")]]).render :=
    .array (Json.arrayText_render _) (by simp [hitem])
  exact Json.padded_text ⟨_, Json.objectText_render _, by simp [hnull, hbindings], _, by simp, hlist⟩

theorem small_parsed :
    Padded (RecordText small.parts) smallDocument.text ∧ (∀ role ∈ small.roles, role.Distinct) ∧
    parse smallDocument.text "small.json" = .ok small ∧
    Padded (HasMember "cloudengineerRoles" (HasItem
      (HasMember "scope" fun value => ∀ scope : Scope, ¬scope.IsText value))) misscoped.text ∧
    ∃ e, parse misscoped.text "small.json" = .error (.configParse "small.json" e) := by
  have hsmall := parse_document.1 small smallDocument.text "small.json" smallDocument_text
    small_accepted.distinct
  have hparsed : parse smallDocument.text "small.json" = .ok small :=
    hsmall.1.2 ⟨by decide, by decide, by decide⟩
  exact ⟨smallDocument_text, small_accepted.distinct, hparsed, misscoped_text,
    parse_document.2 misscoped.text "small.json" misscoped_text⟩

end Config

end AccessBaseline
