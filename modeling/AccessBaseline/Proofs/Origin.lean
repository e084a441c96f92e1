import AccessBaseline.Proofs.Confinement
import AccessBaseline.Proofs.Pursuit

/-! Where things come from. What a store has behind some writes was there before, or one of the writes
put it there; and every write of an undisturbed run sees to something that the configuration asks for. -/
namespace AccessBaseline
open Memory (Store)

namespace Memory.Store
variable {s : Store} {calls : List Call} {id : String}

theorem exists_of_writeAll {α : Type} (part : Store → α → Prop) (made : Call → α → Prop)
    (hwrite : ∀ s c a, part (s.write c) a → part s a ∨ made c a) {a : α}
    (h : part (s.writeAll calls) a) : part s a ∨ ∃ c ∈ calls, made c a := by
  induction calls generalizing s with
  | nil => exact .inl h
  | cons c calls ih =>
    have hrest : part (s.write c) a ∨ ∃ c' ∈ calls, made c' a := ih h
    cases hrest with
    | inl hthere =>
      cases hwrite s c a hthere with
      | inl hbefore => exact .inl hbefore
      | inr hmade => exact .inr ⟨c, List.mem_cons_self, hmade⟩
    | inr hlater =>
      obtain ⟨c', hc', hmade⟩ := hlater
      exact .inr ⟨c', List.mem_cons_of_mem c hc', hmade⟩

theorem mem_roles_writeAll {role : Role} (h : role ∈ (s.writeAll calls).roles) :
    role ∈ s.roles ∨ ∃ r, .createRole r ∈ calls ∧ r.name = role.name := by
  have hwrite (s : Store) (c : Call) (role : Role) (h : role ∈ (s.write c).roles) :
      role ∈ s.roles ∨ ∃ r, c = .createRole r ∧ r.name = role.name := by
    cases c with
    | createRole r =>
      cases List.mem_append.1 h with
      | inl hold => exact .inl hold
      | inr hnew =>
        obtain rfl := List.mem_singleton.1 hnew
        exact .inr ⟨r, rfl, rfl⟩
    | grantRole r =>
      simp only [write] at h
      split at h <;> exact .inl h
    | _ => exact .inl h
  cases exists_of_writeAll (fun s role => role ∈ s.roles) _ hwrite h with
  | inl hold => exact .inl hold
  | inr hnew =>
    obtain ⟨c, hc, r, rfl, hname⟩ := hnew
    exact .inr ⟨r, hc, hname⟩

theorem mem_permissions_writeAll {p : Permission} (h : p ∈ (s.writeAll calls).permissions.get id) :
    p ∈ s.permissions.get id ∨
      ∃ r, .grantPermission r ∈ calls ∧ r.holderId = id ∧ r.space = p.space ∧ r.name = p.name := by
  have hwrite (s : Store) (c : Call) (p : Permission) (h : p ∈ (s.write c).permissions.get id) :
      p ∈ s.permissions.get id ∨
        ∃ r, c = .grantPermission r ∧ r.holderId = id ∧ r.space = p.space ∧ r.name = p.name := by
    cases c with
    | grantPermission r =>
      change p ∈ (s.permissions.push r.holderId _).get id at h
      rw [ListsById.get_push] at h
      split at h
      · next hid =>
        cases List.mem_append.1 h with
        | inl hold => exact .inl (hid ▸ hold)
        | inr hnew =>
          obtain rfl := List.mem_singleton.1 hnew
          exact .inr ⟨r, rfl, hid.symm, rfl, rfl⟩
      · exact .inl h
    | grantRole r =>
      simp only [write] at h
      split at h <;> exact .inl h
    | _ => exact .inl h
  cases exists_of_writeAll (fun s p => p ∈ s.permissions.get id) _ hwrite h with
  | inl hold => exact .inl hold
  | inr hnew =>
    obtain ⟨c, hc, r, rfl, hname⟩ := hnew
    exact .inr ⟨r, hc, hname⟩

theorem mem_assignments_writeAll {a : Assignment} (h : a ∈ (s.writeAll calls).assignments.get id) :
    a ∈ s.assignments.get id ∨ ∃ r, .grantRole r ∈ calls ∧ r.holderId = id ∧ r.granted = a := by
  have hwrite (s : Store) (c : Call) (a : Assignment) (h : a ∈ (s.write c).assignments.get id) :
      a ∈ s.assignments.get id ∨ ∃ r, c = .grantRole r ∧ r.holderId = id ∧ r.granted = a := by
    cases c with
    | grantRole r =>
      simp only [write] at h
      split at h
      · rw [ListsById.get_push] at h
        split at h
        · next hid =>
          cases List.mem_append.1 h with
          | inl hold => exact .inl (hid ▸ hold)
          | inr hnew => exact .inr ⟨r, rfl, hid.symm, (List.mem_singleton.1 hnew).symm⟩
        · exact .inl h
      · exact .inl h
    | _ => exact .inl h
  cases exists_of_writeAll (fun s a => a ∈ s.assignments.get id) _ hwrite h with
  | inl hold => exact .inl hold
  | inr hnew =>
    obtain ⟨c, hc, r, rfl, hgranted⟩ := hnew
    exact .inr ⟨r, hc, hgranted⟩

theorem mem_alterGroup {groupId : String} {f : List String → List String} {groups : List Group}
    {g : Group} (h : g ∈ alterGroup groupId f groups) :
    g ∈ groups ∨ g.id = groupId ∧ ∃ g' ∈ groups, g'.id = g.id ∧ g.members = f g'.members := by
  induction groups with
  | nil => cases h
  | cons g' gs ih =>
    rw [alterGroup] at h
    split at h
    · next hid =>
      cases List.mem_cons.1 h with
      | inl hg =>
        rw [hg]
        exact .inr ⟨beq_iff_eq.1 hid, g', List.mem_cons_self, rfl, rfl⟩
      | inr hg => exact .inl (List.mem_cons_of_mem _ hg)
    · cases List.mem_cons.1 h with
      | inl hg => exact .inl (hg ▸ List.mem_cons_self)
      | inr hg =>
        cases ih hg with
        | inl hold => exact .inl (List.mem_cons_of_mem _ hold)
        | inr hnew =>
          obtain ⟨hid, g'', hg'', hsame⟩ := hnew
          exact .inr ⟨hid, g'', List.mem_cons_of_mem _ hg'', hsame⟩

theorem mem_members_writeAll {g : Group} {user : String} (hg : g ∈ (s.writeAll calls).groups)
    (huser : user ∈ g.members) :
    (∃ g' ∈ s.groups, g'.id = g.id ∧ user ∈ g'.members) ∨ .addGroupMember g.id user ∈ calls := by
  let part (s : Store) (m : String × String) : Prop := ∃ g ∈ s.groups, g.id = m.1 ∧ m.2 ∈ g.members
  have hwrite (s : Store) (c : Call) (m : String × String) (h : part (s.write c) m) :
      part s m ∨ c = .addGroupMember m.1 m.2 := by
    obtain ⟨g, hg, hid, huser⟩ := h
    cases c with
    | createGroup r =>
      cases List.mem_append.1 hg with
      | inl hold => exact .inl ⟨g, hold, hid, huser⟩
      | inr hnew =>
        obtain rfl := List.mem_singleton.1 hnew
        cases huser
    | addGroupMember id user =>
      cases mem_alterGroup hg with
      | inl hold => exact .inl ⟨g, hold, hid, huser⟩
      | inr hnew =>
        obtain ⟨hgid, g', hg', hsame, hmembers⟩ := hnew
        rw [hmembers] at huser
        cases List.mem_append.1 huser with
        | inl hold => exact .inl ⟨g', hg', hsame.trans hid, hold⟩
        | inr hnew =>
          rw [← hid, hgid, List.mem_singleton.1 hnew]
          exact .inr rfl
    | removeGroupMember id user =>
      cases mem_alterGroup hg with
      | inl hold => exact .inl ⟨g, hold, hid, huser⟩
      | inr hnew =>
        obtain ⟨-, g', hg', hsame, hmembers⟩ := hnew
        rw [hmembers] at huser
        exact .inl ⟨g', hg', hsame.trans hid, List.mem_of_mem_filter huser⟩
    | grantRole r =>
      simp only [write] at hg
      split at hg <;> exact .inl ⟨g, hg, hid, huser⟩
    | _ => exact .inl ⟨g, hg, hid, huser⟩
  have hthere : part (s.writeAll calls) (g.id, user) := ⟨g, hg, rfl, huser⟩
  cases exists_of_writeAll part _ hwrite hthere with
  | inl hold => exact .inl hold
  | inr hnew =>
    obtain ⟨c, hc, rfl⟩ := hnew
    exact .inr hc

end Memory.Store

namespace Goal
variable {config : Config} {s : Store} {g : Goal}

/-- Whether a configuration asks for it, an assignment by a binding of the role that has the id. -/
def Wanted (config : Config) (s : Store) (g : Goal) : Prop :=
  g.Declared config s ∧ ∀ id roleId scope, g = assignment id roleId scope →
    ∃ b ∈ config.bindings, s.roleId? b.role = some roleId ∧ b.scope = scope

theorem Declared.wanted (h : g.Declared config s)
    (hother : ∀ id roleId scope, g ≠ assignment id roleId scope) : g.Wanted config s :=
  ⟨h, fun id roleId scope hg => absurd hg (hother id roleId scope)⟩

theorem Wanted.write (h : g.Wanted config s) (g' : Goal) : g.Wanted config (s.write g'.request) := by
  refine ⟨h.1.write g', fun id roleId scope hg => ?_⟩
  obtain ⟨b, hb, hid, hscope⟩ := h.2 id roleId scope hg
  exact ⟨b, hb, s.roleId?_write hid g', hscope⟩

end Goal

/-- The writes of stages see to goals of which something holds, if each stage found that to hold and
requests keep it. -/
theorem exists_goal_of_mem_carryOut {P : Store → Goal → Prop} {fs : List Stage}
    (hfound : ∀ f ∈ fs, ∀ m calls as, f m = .ok (calls, as) →
      ∀ c ∈ calls, ∃ g : Goal, c = g.request ∧ P m g)
    (hkeep : ∀ m g (g' : Goal), P m g → P (m.write g'.request) g) (s : Store) :
    ∀ c ∈ (carryOut fs s).1, ∃ g : Goal, c = g.request ∧ P (s.writeAll (carryOut fs s).1) g := by
  have hkeepAll (calls : List Call) (hcalls : Goal.Requests calls) (m : Store) (g : Goal)
      (h : P m g) : P (m.writeAll calls) g :=
    hcalls.writeAll (P := (P · g)) (fun m g' hm => hkeep m g g' hm) h
  induction fs generalizing s with
  | nil => exact fun c hc => by cases hc
  | cons f fs ih =>
    have hf := hfound f List.mem_cons_self s
    have hrest := ih fun f' hf' => hfound f' (List.mem_cons_of_mem f hf')
    cases hout : f s with
    | error e =>
      rw [carryOut, hout]
      exact fun c hc => by cases hc
    | ok out =>
      obtain ⟨calls, as⟩ := out
      have hrequests : Goal.Requests (carryOut fs (s.writeAll calls)).1 := by
        intro c hc
        obtain ⟨g, hg, -⟩ := hrest (s.writeAll calls) c hc
        exact ⟨g, hg⟩
      have hown : Goal.Requests calls := by
        intro c hc
        obtain ⟨g, hg, -⟩ := hf calls as hout c hc
        exact ⟨g, hg⟩
      rw [carryOut_cons_ok hout]
      intro c hc
      rw [Store.writeAll_append]
      cases List.mem_append.1 hc with
      | inl hc =>
        obtain ⟨g, hg, hP⟩ := hf calls as hout c hc
        exact ⟨g, hg, hkeepAll _ hrequests _ g (hkeepAll calls hown s g hP)⟩
      | inr hc => exact hrest (s.writeAll calls) c hc

namespace Stage
variable {config : Config} {f : Stage} {m : Store} {calls : List Call} {as : List Anomaly}

def creations (config : Config) : List Stage :=
  roles config :: config.roles.map permissions ++ [group config]

theorem all_eq_creations (config : Config) :
    all config = creations config ++ [assignments config, members config] := by
  simp [all, creations]

theorem exists_of_creations (hf : f ∈ creations config) (h : f m = .ok (calls, as)) :
    ∀ c ∈ calls, ∃ g : Goal, c = g.request ∧ g.Declared config m ∧ g.isSingle = true := by
  intro c hc
  simp only [creations, List.mem_append, List.mem_cons, List.mem_map, List.not_mem_nil, or_false] at hf
  rcases hf with (rfl | ⟨role, hrole, rfl⟩) | rfl
  · obtain ⟨_, -, g, hg, rfl⟩ := (follows_roles config m).mem h hc
    obtain ⟨name, hname, rfl⟩ := List.mem_map.1 hg
    exact ⟨_, rfl, List.mem_map.1 (mem_of_mem_firsts hname), rfl⟩
  · obtain ⟨id, hid, g, hg, rfl⟩ := (follows_permissions role m).mem h hc
    obtain ⟨e, he, name, hname, rfl⟩ := Goal.exists_of_mem_permissions hg
    exact ⟨_, rfl, ⟨role, hrole, hid, e.2, he, hname⟩, rfl⟩
  · obtain ⟨_, -, g, hg, rfl⟩ := (follows_group config m).mem h hc
    obtain rfl := List.mem_singleton.1 hg
    exact ⟨_, rfl, rfl, rfl⟩

theorem exists_of_all (hf : f ∈ all config) (h : f m = .ok (calls, as)) :
    ∀ c ∈ calls, ∃ g : Goal, c = g.request ∧ g.Wanted config m := by
  intro c hc
  rw [all_eq_creations] at hf
  cases List.mem_append.1 hf with
  | inl hf =>
    obtain ⟨g, hg, hdeclared, hsingle⟩ := exists_of_creations hf h c hc
    refine ⟨g, hg, hdeclared.wanted fun id roleId scope heq => ?_⟩
    rw [heq] at hsingle
    cases hsingle
  | inr hf =>
    rcases List.mem_pair.1 hf with rfl | rfl
    · obtain ⟨⟨id, resolved⟩, ⟨hid, hresolve⟩, g, hg, rfl⟩ := (follows_assignments config m).mem h hc
      obtain ⟨r, hr, rfl⟩ := List.mem_map.1 hg
      have hresolved := Reconcile.resolve_eq_ok hresolve
      have hb : r.binding ∈ firsts config.bindings := hresolved.1 ▸ List.mem_map_of_mem hr
      refine ⟨_, rfl, hid, fun id' roleId scope heq => ?_⟩
      cases heq
      exact ⟨r.binding, mem_of_mem_firsts hb, hresolved.2 r hr, rfl⟩
    · obtain ⟨group, hgroup, hout⟩ := members_eq_ok.1 h
      obtain ⟨rfl, -⟩ := Prod.mk.inj hout
      obtain ⟨user, huser, rfl⟩ := List.mem_map.1 hc
      have hdeclared : (Goal.member group.id user).Declared config m :=
        ⟨congrArg (Option.map Group.id) hgroup, mem_of_mem_firsts (mem_without.1 huser).1⟩
      exact ⟨_, rfl, hdeclared.wanted fun id roleId scope heq => by cases heq⟩

end Stage

/-- All that an undisturbed run writes is asked for in the end. -/
theorem wanted_of_mem_carryOut (config : Config) (s : Store) :
    ∀ c ∈ (carryOut (Stage.all config) s).1, ∃ g : Goal, c = g.request ∧
      g.Wanted config (s.writeAll (carryOut (Stage.all config) s).1) :=
  exists_goal_of_mem_carryOut (P := fun m g => g.Wanted config m)
    (fun _ hf _ _ _ h => Stage.exists_of_all hf h) (fun _ _ g' h => h.write g') s

end AccessBaseline
