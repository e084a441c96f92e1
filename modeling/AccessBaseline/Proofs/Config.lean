import AccessBaseline.Config
import AccessBaseline.Proofs.Json.Gives

/-! The configurations that are accepted, and that reading a file gives only such. Names of roles are
told apart by the check; namespaces of a role are told apart already by how a map is read. -/
namespace AccessBaseline

namespace DeclaredRole

def Distinct (role : DeclaredRole) : Prop := (role.permissions.map (·.1)).Nodup

theorem keeps_distinct : record.Keeps Distinct := by
  refine ⟨.nil, fun f hf role hrole => ?_⟩
  simp only [record, List.mem_cons, List.not_mem_nil, or_false] at hf
  rcases hf with rfl | rfl | rfl | rfl
  · exact Json.Reader.gives_map (Json.Reader.gives_any _) fun _ _ => hrole
  · exact Json.Reader.gives_map (Json.Reader.gives_map_nodup _) fun _ h => h
  · exact Json.Reader.gives_map (Json.Reader.gives_any _) fun _ _ => hrole
  · exact Json.Reader.gives_map (Json.Reader.gives_any _) fun _ _ => hrole

end DeclaredRole

namespace Config

/-- A configuration that a run may start from. -/
structure Accepted (config : Config) : Prop where
  faultless : config.fault? = none
  distinct : ∀ role ∈ config.roles, role.Distinct

theorem keeps_distinct : record.Keeps fun config => ∀ role ∈ config.roles, role.Distinct := by
  refine ⟨by simp [record], fun f hf config hconfig => ?_⟩
  simp only [record, List.mem_cons, List.not_mem_nil, or_false] at hf
  rcases hf with rfl | rfl | rfl | rfl | rfl | rfl | rfl
  case inr.inr.inl =>
    exact Json.Reader.gives_map (Json.Reader.gives_list
      (Json.Record.gives_reader DeclaredRole.keeps_distinct)) fun _ h => h
  all_goals exact Json.Reader.gives_map (Json.Reader.gives_any _) fun _ _ => hconfig

theorem accepted_of_parse {text path : String} {config : Config} (h : parse text path = .ok config) :
    config.Accepted := by
  unfold parse at h
  split at h
  · cases h
  · next c hdecode =>
    split at h
    · cases h
    · next hfault =>
      cases h
      exact ⟨hfault, Json.Reader.gives_decode (Json.Record.gives_reader keeps_distinct) hdecode⟩

theorem roleFault?_eq_none {seen : List String} {roles : List DeclaredRole}
    (h : roleFault? seen roles = none) :
    (roles.map (·.name.key)).Nodup ∧ ∀ role ∈ roles, role.name.key ∉ seen := by
  induction roles generalizing seen with
  | nil => exact ⟨.nil, by simp⟩
  | cons role rest ih =>
    rw [roleFault?] at h
    split at h
    · cases h
    · split at h
      · cases h
      · next hseen =>
        obtain ⟨hnodup, hrest⟩ := ih h
        refine ⟨List.nodup_cons.2 ⟨fun hmem => ?_, hnodup⟩,
          List.forall_mem_cons.2 ⟨hseen, fun r hr hs => ?_⟩⟩
        · obtain ⟨r, hr, hkey⟩ := List.mem_map.1 hmem
          exact hrest r hr (by rw [hkey]; exact List.mem_cons_self)
        · exact hrest r hr (List.mem_cons_of_mem _ hs)

/-- No two declared roles have names with one key. -/
theorem Accepted.roleKeys_nodup {config : Config} (h : config.Accepted) :
    (config.roles.map (·.name.key)).Nodup :=
  (roleFault?_eq_none (Option.or_eq_none_iff.1 h.faultless).1).1

def small : Config :=
  ⟨false, "", [⟨⟨"Reader"⟩, [("docs", ["read", "list"])], none, none⟩], "Ops", ["ada"],
    [⟨⟨"reader"⟩, .global⟩], []⟩

theorem small_accepted : small.Accepted where
  faultless := by decide
  distinct := by simp [small, DeclaredRole.Distinct]

end Config

end AccessBaseline
