import AccessBaseline.Proofs.Lookup
import AccessBaseline.Proofs.Text.ByteOrder
import Mathlib.Data.Finset.Card

/-! The index of the listed roles as a view of the list. It shows of each key the first role in the list, in
the order of the bytes of the keys, and a role that another one came before leaves no trace in it. -/
namespace AccessBaseline

def Role.IsBefore (role other : Role) : Prop :=
  Text.bytes role.roleName.key < Text.bytes other.roleName.key

def Role.first? (key : String) (roles : List Role) : Option Role :=
  roles.find? (·.roleName.key == key)

/-- What is found in a list that stands in some order comes before all else that could be. -/
theorem find?_ordered {α : Type} {R : α → α → Prop} {as : List α} (h : as.Pairwise R)
    (hasymm : ∀ a b, R a b → ¬R b a) {p : α → Bool} {a : α} :
    as.find? p = some a ↔ a ∈ as ∧ p a = true ∧ ∀ b ∈ as, p b = true → b = a ∨ R a b := by
  have hleast {a : α} (ha : as.find? p = some a) :
      a ∈ as ∧ p a = true ∧ ∀ b ∈ as, p b = true → b = a ∨ R a b := by
    obtain ⟨hp, front, back, rfl, hfront⟩ := List.find?_eq_some_iff_append.1 ha
    obtain ⟨-, hback, -⟩ := List.pairwise_append.1 h
    refine ⟨by simp, hp, fun b hb hpb => ?_⟩
    cases List.mem_append.1 hb with
    | inl hb => simpa [hpb] using hfront b hb
    | inr hb => exact (List.mem_cons.1 hb).imp_right fun hb => (List.pairwise_cons.1 hback).1 b hb
  refine ⟨hleast, fun ⟨ha, hpa, hbefore⟩ => ?_⟩
  cases hfind : as.find? p with
  | none => exact absurd hpa (List.find?_eq_none.1 hfind a ha)
  | some b =>
    -- Each of the two would come before the other, if they were not the same.
    obtain ⟨hb, hpb, hbefore'⟩ := hleast hfind
    cases hbefore b hb hpb with
    | inl hsame => rw [hsame]
    | inr hab =>
      cases hbefore' a ha hpa with
      | inl hsame => rw [hsame]
      | inr hba => exact absurd hba (hasymm a b hab)

namespace RoleIndex
variable {roles : List Role} {index : RoleIndex}

/-- Whether an index shows the roles of a list, of those with one key the first. -/
structure Shows (roles : List Role) (index : RoleIndex) : Prop where
  ordered : index.roles.Pairwise Role.IsBefore
  kept : ∀ role, role ∈ index.roles ↔ Role.first? role.roleName.key roles = some role
  found : ∀ name, index.get? name = Role.first? name.key roles
  contained : ∀ name, index.contains name = (Role.first? name.key roles).isSome
  identified : ∀ name, index.idOf? name = (Role.first? name.key roles).map (·.id)
  required : ∀ name id, index.requireId name = .ok id ↔
    ∃ role, Role.first? name.key roles = some role ∧ role.id = id
  missing : ∀ name e, index.requireId name = .error e ↔
    Role.first? name.key roles = none ∧ e = .roleNotFound name.text
  counted : index.size = (roles.map (·.roleName.key)).toFinset.card
  named : ∀ id name, index.nameOfId? id = some name ↔ ∃ role ∈ index.roles, role.id = id ∧
    role.name = name ∧ ∀ other ∈ index.roles, other.id = id → other = role ∨ role.IsBefore other
  unnamed : ∀ id, index.nameOfId? id = none ↔ ∀ role ∈ index.roles, role.id ≠ id
  /-- A role that one with its key came before might as well not be listed. -/
  dropped : ∀ before role after, roles = before ++ role :: after →
    role.roleName.key ∈ before.map (·.roleName.key) → index = ofRoles (before ++ after) ∧
      (role ∉ before → role ∉ index.roles ∧ ∀ name, index.get? name ≠ some role)
  rebuilt : ofRoles index.roles = index

theorem Valid.ordered (h : index.Valid) : index.roles.Pairwise Role.IsBefore := by
  rw [RoleIndex.roles, KeyTable.values, List.pairwise_map]
  refine h.1.imp_of_mem fun {e e'} he he' hlt => Text.bytes_lt ?_
  rw [h.2 e he, h.2 e' he']
  exact hlt

/-- An index is made again from the roles that it keeps. -/
theorem Valid.rebuilt (h : index.Valid) : ofRoles index.roles = index := by
  refine (valid_ofRoles _).ext h fun key => Option.ext fun role => ?_
  rw [lookup_ofRoles, find?_key_eq_some h.keys_nodup, h.mem_roles]
  constructor
  · rintro ⟨hget, rfl⟩
    exact hget
  · intro hlookup
    obtain rfl : role.roleName.key = key := h.2 (key, role) (KeyTable.mem_of_lookup hlookup)
    exact ⟨hlookup, rfl⟩

theorem keys_ofRoles (roles : List Role) (key : String) :
    key ∈ (ofRoles roles).table.map (·.1) ↔ key ∈ roles.map (·.roleName.key) := by
  have hsome := KeyTable.isSome_lookup key (ofRoles roles).table
  rw [lookup_ofRoles, List.isSome_find?] at hsome
  simpa using Bool.eq_iff_iff.1 hsome.symm

theorem size_ofRoles (roles : List Role) :
    (ofRoles roles).size = (roles.map (·.roleName.key)).toFinset.card := by
  have hvalid := valid_ofRoles roles
  have hnodup : ((ofRoles roles).table.map (·.1)).Nodup := hvalid.keys ▸ hvalid.keys_nodup
  have hkeys : ((ofRoles roles).table.map (·.1)).toFinset = (roles.map (·.roleName.key)).toFinset := by
    ext key
    rw [List.mem_toFinset, List.mem_toFinset, keys_ofRoles]
  rw [← hkeys, List.toFinset_card_of_nodup hnodup, List.length_map, size]

theorem Valid.nameOfId?_eq_some (h : index.Valid) {id name : String} :
    index.nameOfId? id = some name ↔ ∃ role ∈ index.roles, role.id = id ∧ role.name = name ∧
      ∀ other ∈ index.roles, other.id = id → other = role ∨ role.IsBefore other := by
  have hasymm (role other : Role) (hbefore : role.IsBefore other) : ¬other.IsBefore role :=
    List.lt_asymm hbefore
  rw [nameOfId?, Option.map_eq_some_iff]
  refine exists_congr fun role => ?_
  rw [find?_ordered h.ordered hasymm]
  simp only [beq_iff_eq]
  constructor
  · rintro ⟨⟨hrole, hid, hbefore⟩, hname⟩
    exact ⟨hrole, hid, hname, hbefore⟩
  · rintro ⟨hrole, hid, hname, hbefore⟩
    exact ⟨⟨hrole, hid, hbefore⟩, hname⟩

section Dropped
variable {before after : List Role} {role : Role}

theorem first?_dropped (h : role.roleName.key ∈ before.map (·.roleName.key)) (key : String) :
    Role.first? key (before ++ role :: after) = Role.first? key (before ++ after) := by
  rw [Role.first?, Role.first?, List.find?_append, List.find?_append]
  by_cases hkey : role.roleName.key = key
  · obtain ⟨kept, hkept, hsame⟩ := List.mem_map.1 h
    have hsome : (before.find? (·.roleName.key == key)).isSome = true := by
      rw [List.isSome_find?, List.any_eq_true]
      exact ⟨kept, hkept, by rw [hsame, hkey, BEq.rfl]⟩
    rw [Option.or_of_isSome hsome, Option.or_of_isSome hsome]
  · rw [List.find?_cons_of_neg (by simpa using hkey)]

theorem ofRoles_dropped (h : role.roleName.key ∈ before.map (·.roleName.key)) :
    ofRoles (before ++ role :: after) = ofRoles (before ++ after) := by
  refine (valid_ofRoles _).ext (valid_ofRoles _) fun key => ?_
  rw [lookup_ofRoles, lookup_ofRoles]
  exact first?_dropped h key

theorem first?_ne_dropped (h : role.roleName.key ∈ before.map (·.roleName.key)) (hrole : role ∉ before)
    (key : String) : Role.first? key (before ++ role :: after) ≠ some role := by
  intro hfirst
  have hkey : role.roleName.key = key := by simpa using List.find?_some hfirst
  rw [Role.first?, List.find?_append, Option.or_eq_some_iff] at hfirst
  cases hfirst with
  | inl hfound => exact hrole (List.mem_of_find?_eq_some hfound)
  | inr hlater =>
    obtain ⟨kept, hkept, hsame⟩ := List.mem_map.1 h
    exact List.find?_eq_none.1 hlater.1 kept hkept (by simp [hsame, hkey])

end Dropped

/-- Whatever was listed, the index shows it. -/
theorem shows_ofRoles (roles : List Role) : Shows roles (ofRoles roles) := by
  have hvalid := valid_ofRoles roles
  have hget (name : RoleName) : (ofRoles roles).get? name = Role.first? name.key roles :=
    lookup_ofRoles roles name.key
  have hkept (role : Role) :
      role ∈ (ofRoles roles).roles ↔ Role.first? role.roleName.key roles = some role := by
    rw [hvalid.mem_roles, hget]
  exact {
    ordered := hvalid.ordered
    kept := hkept
    found := hget
    contained name := by rw [contains, hget]
    identified name := by rw [idOf?, hget]
    required name id := by rw [requireId_eq_ok, idOf?, hget, Option.map_eq_some_iff]
    missing name e := by
      rw [requireId, idOf?, hget]
      cases Role.first? name.key roles <;> simp [eq_comm]
    counted := size_ofRoles roles
    named id name := hvalid.nameOfId?_eq_some
    unnamed id := by simp [nameOfId?]
    dropped before role after hlist hkey := by
      refine ⟨by rw [hlist, ofRoles_dropped hkey], fun hrole => ⟨?_, fun name => ?_⟩⟩
      · rw [hkept, hlist]
        exact first?_ne_dropped hkey hrole _
      · rw [hget, hlist]
        exact first?_ne_dropped hkey hrole _
    rebuilt := hvalid.rebuilt }

example : (ofRoles [⟨"1", "Reader", ""⟩, ⟨"9", "READER", ""⟩, ⟨"1", "guest", ""⟩]).nameOfId? "1" =
    some "guest" := by decide +kernel

end RoleIndex

end AccessBaseline
