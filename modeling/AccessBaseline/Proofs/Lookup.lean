import AccessBaseline.Access.Group
import AccessBaseline.Access.Permission
import AccessBaseline.Access.RoleIndex
import AccessBaseline.Difference
import Mathlib.Data.List.Induction
import Mathlib.Data.List.Nodup
import Mathlib.Data.String.Basic

/-! What tables and differences say about the lists they are made from. A role index is the first-wins
view of the listed roles, names of permissions stand under their namespace in the order of the list,
and what is surplus stays so when declared things are added. -/
namespace AccessBaseline

section Difference
variable {α : Type} [BEq α]

theorem firsts_pairwise (as : List α) : (firsts as).Pairwise fun a b => (a == b) = false := by
  induction as with
  | nil => exact .nil
  | cons a as ih =>
    refine List.pairwise_cons.2 ⟨fun b hb => ?_, ih.filter _⟩
    simpa using (List.mem_filter.1 hb).2

theorem firsts_of_pairwise {as : List α} (h : as.Pairwise fun a b => (a == b) = false) :
    firsts as = as := by
  induction h with
  | nil => rfl
  | @cons a as ha _ ih =>
    rw [firsts, ih, List.filter_eq_self.2]
    intro b hb
    simp [ha b hb]

theorem exists_mem_firsts [EquivBEq α] {a : α} {as : List α} (h : a ∈ as) :
    ∃ b ∈ firsts as, (b == a) = true := by
  induction as with
  | nil => simp at h
  | cons c cs ih =>
    rcases List.mem_cons.1 h with rfl | h
    · exact ⟨a, by simp [firsts], BEq.rfl⟩
    · obtain ⟨b, hb, hba⟩ := ih h
      by_cases hcb : (c == b) = true
      · exact ⟨c, by simp [firsts], BEq.trans hcb hba⟩
      · exact ⟨b, by simp [firsts, hb, hcb], hba⟩

theorem firsts_append [EquivBEq α] (as bs : List α) :
    firsts (as ++ bs) = firsts as ++ (firsts bs).filter fun b => !as.any (· == b) := by
  induction as with
  | nil => simp [firsts]
  | cons a as ih =>
    simp only [List.cons_append, firsts, ih, List.filter_append, List.filter_filter, List.any_cons,
      Bool.not_or]

theorem without_append (as as' bs : List α) :
    without (as ++ as') bs = without as bs ++ without as' bs := by
  simp [without]

theorem mem_without {a : α} {as bs : List α} :
    a ∈ without as bs ↔ a ∈ as ∧ ∀ b ∈ bs, (a == b) = false := by
  simp [without, List.mem_filter]

theorem without_firsts_append [EquivBEq α] {as as' bs : List α}
    (h : ∀ a ∈ as', bs.any (a == ·) = true) :
    without (firsts (as ++ as')) bs = without (firsts as) bs := by
  rw [firsts_append, without_append]
  convert List.append_nil _
  refine List.filter_eq_nil_iff.2 fun a ha => ?_
  simp [h a (mem_of_mem_firsts (List.mem_of_mem_filter ha))]

theorem find?_firsts {p : α → Bool} (hp : ∀ a b, (a == b) = true → p a = p b)
    (as : List α) : (firsts as).find? p = as.find? p := by
  induction as with
  | nil => rfl
  | cons a as ih =>
    rw [firsts, List.find?_cons, List.find?_cons]
    cases ha : p a with
    | true => rfl
    | false =>
      have hkept : (fun b => !(a == b) && p b) = p := by
        funext b
        cases hab : a == b with
        | true => simp [← hp a b hab, ha]
        | false => simp
      change ((firsts as).filter _).find? p = _
      rw [List.find?_filter, ← ih]
      simp only [Bool.decide_and, Bool.decide_eq_true, hkept]

theorem any_firsts {p : α → Bool} (hp : ∀ a b, (a == b) = true → p a = p b) (as : List α) :
    (firsts as).any p = as.any p := by
  rw [← List.isSome_find?, find?_firsts hp, List.isSome_find?]

theorem firsts_filter {p : α → Bool} (hp : ∀ a b, (a == b) = true → p a = p b) (as : List α) :
    firsts (as.filter p) = (firsts as).filter p := by
  induction as with
  | nil => rfl
  | cons a as ih =>
    by_cases ha : p a = true
    · rw [List.filter_cons_of_pos ha, firsts, ih, firsts, List.filter_cons_of_pos ha,
        List.filter_filter, List.filter_filter]
      simp only [Bool.and_comm]
    · rw [List.filter_cons_of_neg ha, ih, firsts, List.filter_cons_of_neg ha, List.filter_filter]
      refine List.filter_congr fun b _ => ?_
      by_cases hb : p b = true
      · have hab : (a == b) = false := Bool.eq_false_iff.2 fun hab => ha (hp a b hab ▸ hb)
        simp [hb, hab]
      · simp [hb]

theorem firsts_eq_eraseDups [EquivBEq α] (as : List α) : firsts as = as.eraseDups := by
  induction h : as.length using Nat.strong_induction_on generalizing as with
  | _ n ih =>
    cases as with
    | nil => rfl
    | cons a as =>
      have hkeep : (fun b => !(a == b)) = fun b => !(b == a) := by
        funext b
        rw [BEq.comm]
      have hshort : (as.filter fun b => !(b == a)).length < n := by
        rw [← h, List.length_cons]
        exact Nat.lt_succ_of_le (List.length_filter_le _ _)
      have hsame (b c : α) (hbc : (b == c) = true) : (!(b == a)) = !(c == a) := by
        rw [BEq.congr_left hbc]
      rw [firsts, List.eraseDups_cons, hkeep, ← ih _ hshort _ rfl, firsts_filter hsame]

/-- What only the first list has, in terms of the library's own functions. -/
theorem without_firsts_eq [LawfulBEq α] (as bs : List α) :
    without (firsts as) bs = as.eraseDups.filter (!bs.contains ·) := by
  rw [firsts_eq_eraseDups, without]
  refine List.filter_congr fun a _ => ?_
  rw [List.contains_eq_any_beq]

end Difference

theorem find?_key_eq_some {α κ : Type} [BEq κ] [LawfulBEq κ] {key : α → κ} {as : List α}
    (hnodup : (as.map key).Nodup) {k : κ} {a : α} :
    as.find? (key · == k) = some a ↔ a ∈ as ∧ key a = k := by
  constructor
  · intro ha
    exact ⟨List.mem_of_find?_eq_some ha, by simpa using List.find?_some ha⟩
  · intro ha
    obtain ⟨hmem, hkey⟩ := ha
    cases hfind : as.find? (key · == k) with
    | none => simpa [hkey] using List.find?_eq_none.1 hfind a hmem
    | some b =>
      have hb : key b = k := by simpa using List.find?_some hfind
      rw [List.inj_on_of_nodup_map hnodup hmem (List.mem_of_find?_eq_some hfind) (hkey.trans hb.symm)]

namespace KeyTable
variable {α : Type}

theorem pairwise_alter {key : String} {f : Option α → α} {table : KeyTable α}
    (h : table.Pairwise (·.1 < ·.1)) : (table.alter key f).Pairwise (·.1 < ·.1) := by
  induction table with
  | nil => simp [alter]
  | cons e rest ih =>
    obtain ⟨k, a⟩ := e
    obtain ⟨hhead, htail⟩ := List.pairwise_cons.1 h
    simp only [alter]
    split
    · next he => exact List.pairwise_cons.2 ⟨hhead, htail⟩
    · next hne =>
      split
      · next hlt =>
        refine List.pairwise_cons.2 ⟨fun e he => ?_, h⟩
        rcases List.mem_cons.1 he with rfl | he
        · exact hlt
        · exact String.lt_trans hlt (hhead e he)
      · next hlt =>
        refine List.pairwise_cons.2 ⟨fun e he => ?_, ih htail⟩
        have hmem : e.1 ∈ (alter key f rest).map (·.1) := List.mem_map_of_mem he
        rcases mem_keys_alter.1 hmem with hkey | hrest
        · change k < e.1
          rw [hkey]
          exact lt_of_le_of_ne (not_lt.1 hlt) (Ne.symm hne)
        · obtain ⟨e', he', hkey⟩ := List.mem_map.1 hrest
          rw [← hkey]
          exact hhead e' he'

theorem of_mem_alter {key : String} {f : Option α → α} {table : KeyTable α} {e : String × α}
    (h : e ∈ table.alter key f) :
    e ∈ table ∨ ∃ a?, e = (key, f a?) ∧ ∀ a ∈ a?, (key, a) ∈ table := by
  induction table with
  | nil => exact .inr ⟨none, by simpa [alter] using h, by simp⟩
  | cons e' rest ih =>
    obtain ⟨k, a⟩ := e'
    simp only [alter] at h
    split at h
    · next he =>
      subst he
      rcases List.mem_cons.1 h with rfl | h
      · exact .inr ⟨some a, rfl, by simp⟩
      · exact .inl (List.mem_cons_of_mem _ h)
    · split at h
      · rcases List.mem_cons.1 h with rfl | h
        · exact .inr ⟨none, rfl, by simp⟩
        · exact .inl h
      · rcases List.mem_cons.1 h with rfl | h
        · exact .inl (by simp)
        · rcases ih h with h | ⟨a?, he, ha⟩
          · exact .inl (List.mem_cons_of_mem _ h)
          · exact .inr ⟨a?, he, fun b hb => List.mem_cons_of_mem _ (ha b hb)⟩

theorem filter_alter {key : String} {f : Option α → α} (keep : String → Bool)
    (h : keep key = false) (table : KeyTable α) :
    (table.alter key f).filter (keep ·.1) = table.filter (keep ·.1) := by
  induction table with
  | nil => simp [alter, h]
  | cons e rest ih =>
    obtain ⟨k, a⟩ := e
    simp only [alter]
    split
    · next he =>
      subst he
      simp [h]
    · split
      · simp [h]
      · simp only [List.filter_cons, ih]

theorem isSome_lookup (key : String) (table : KeyTable α) :
    (table.lookup key).isSome = table.any (·.1 == key) := by
  induction table with
  | nil => rfl
  | cons e rest ih =>
    rw [List.lookup_cons, List.any_cons, ← ih]
    by_cases h : e.1 = key
    · simp [h]
    · simp [h, beq_eq_false_iff_ne.2 (Ne.symm h)]

theorem lookup_of_mem {table : KeyTable α} (h : table.Pairwise (·.1 < ·.1)) {e : String × α}
    (he : e ∈ table) : table.lookup e.1 = some e.2 := by
  induction table with
  | nil => cases he
  | cons e' rest ih =>
    obtain ⟨hhead, htail⟩ := List.pairwise_cons.1 h
    rw [List.lookup_cons]
    cases List.mem_cons.1 he with
    | inl heq => simp [heq]
    | inr hrest =>
      have hne : e.1 ≠ e'.1 := fun heq => String.lt_irrefl _ (heq ▸ hhead e hrest)
      rw [beq_eq_false_iff_ne.2 hne]
      exact ih htail hrest

theorem mem_of_lookup {table : KeyTable α} {key : String} {a : α} (h : table.lookup key = some a) :
    (key, a) ∈ table := by
  induction table with
  | nil => cases h
  | cons e rest ih =>
    rw [List.lookup_cons] at h
    split at h
    · next heq =>
      obtain rfl := Option.some.inj h
      rw [eq_of_beq heq]
      exact List.mem_cons_self
    · exact List.mem_cons_of_mem _ (ih h)

theorem ext {table table' : KeyTable α} (h : table.Pairwise (·.1 < ·.1))
    (h' : table'.Pairwise (·.1 < ·.1)) (hlookup : ∀ key, table.lookup key = table'.lookup key) :
    table = table' := by
  have hnodup {table : KeyTable α} (h : table.Pairwise (·.1 < ·.1)) : table.Nodup := by
    refine h.imp fun {e e'} hlt heq => ?_
    rw [heq] at hlt
    exact String.lt_irrefl _ hlt
  have hmem (e : String × α) : e ∈ table ↔ e ∈ table' := by
    constructor
    · intro he
      exact mem_of_lookup (hlookup e.1 ▸ lookup_of_mem h he)
    · intro he
      exact mem_of_lookup ((hlookup e.1).symm ▸ lookup_of_mem h' he)
  refine ((List.perm_ext_iff_of_nodup (hnodup h) (hnodup h')).2 hmem).eq_of_pairwise ?_ h h'
  intro e e' _ _ hlt hgt
  exact absurd (String.lt_trans hlt hgt) (String.lt_irrefl _)

end KeyTable

namespace RoleIndex

/-- Entries stand in the order of their keys, each under the key of its role's name. -/
def Valid (index : RoleIndex) : Prop :=
  index.table.Pairwise (·.1 < ·.1) ∧ ∀ e ∈ index.table, e.2.roleName.key = e.1

theorem Valid.add {index : RoleIndex} (h : index.Valid) (role : Role) : (index.add role).Valid := by
  refine ⟨KeyTable.pairwise_alter h.1, fun e he => ?_⟩
  rcases KeyTable.of_mem_alter he with he | ⟨a?, rfl, ha⟩
  · exact h.2 e he
  · cases a? with
    | none => rfl
    | some a => exact h.2 _ (ha a rfl)

theorem ofRoles_append (roles roles' : List Role) :
    ofRoles (roles ++ roles') = roles'.foldl add (ofRoles roles) :=
  List.foldl_append

theorem valid_ofRoles (roles : List Role) : (ofRoles roles).Valid := by
  induction roles using List.reverseRecOn with
  | nil => exact ⟨.nil, by simp [ofRoles, empty]⟩
  | append_singleton roles role ih =>
    rw [ofRoles_append]
    exact ih.add role

theorem lookup_add {index : RoleIndex} (h : index.Valid) (role : Role) (key : String) :
    (index.add role).table.lookup key =
      (index.table.lookup key).or (if role.roleName.key = key then some role else none) := by
  change (index.table.alter _ _).lookup key = _
  rw [KeyTable.lookup_alter _ _ _ _ h.1]
  by_cases hk : role.roleName.key = key
  · rw [if_pos hk.symm, if_pos hk, hk]
    cases List.lookup key index.table <;> rfl
  · rw [if_neg (Ne.symm hk), if_neg hk, Option.or_none]

theorem isSome_idOf? (index : RoleIndex) (name : RoleName) :
    (index.idOf? name).isSome = index.contains name := Option.isSome_map

theorem requireId_eq_ok {index : RoleIndex} {name : RoleName} {id : String} :
    index.requireId name = .ok id ↔ index.idOf? name = some id := by
  unfold requireId
  cases index.idOf? name <;> simp

theorem lookup_ofRoles (roles : List Role) (key : String) :
    (ofRoles roles).table.lookup key = roles.find? (·.roleName.key == key) := by
  induction roles using List.reverseRecOn with
  | nil => rfl
  | append_singleton roles role ih =>
    rw [ofRoles_append, List.foldl_cons, List.foldl_nil, lookup_add (valid_ofRoles roles), ih,
      List.find?_append]
    congr 1
    by_cases h : role.roleName.key = key <;> simp [h]

theorem get?_ofRoles (roles : List Role) (name : RoleName) :
    (ofRoles roles).get? name = roles.find? (·.roleName == name) :=
  lookup_ofRoles roles name.key

theorem mem_of_get?_ofRoles {roles : List Role} {name : RoleName} {role : Role}
    (h : (ofRoles roles).get? name = some role) : role ∈ roles ∧ role.roleName.key = name.key := by
  rw [get?_ofRoles] at h
  exact ⟨List.mem_of_find?_eq_some h,
    (RoleName.beq_iff _ _).1 (List.find?_some (p := fun r : Role => r.roleName == name) h)⟩

theorem Valid.mem_roles {index : RoleIndex} (h : index.Valid) {role : Role} :
    role ∈ index.roles ↔ index.get? role.roleName = some role := by
  constructor
  · intro hrole
    obtain ⟨e, he, rfl⟩ := List.mem_map.1 hrole
    change index.table.lookup e.2.roleName.key = some e.2
    rw [h.2 e he]
    exact KeyTable.lookup_of_mem h.1 he
  · intro hget
    exact List.mem_map_of_mem (KeyTable.mem_of_lookup hget)

theorem mem_of_mem_roles {roles : List Role} {role : Role} (h : role ∈ (ofRoles roles).roles) :
    role ∈ roles :=
  (mem_of_get?_ofRoles ((valid_ofRoles roles).mem_roles.1 h)).1

theorem Valid.ext {index index' : RoleIndex} (h : index.Valid) (h' : index'.Valid)
    (hlookup : ∀ key, index.table.lookup key = index'.table.lookup key) : index = index' :=
  congrArg RoleIndex.mk (KeyTable.ext h.1 h'.1 hlookup)

/-- Whether no id stands for names with different keys. -/
def Separates (index : RoleIndex) : Prop :=
  ∀ name name' id, index.idOf? name = some id → index.idOf? name' = some id → name.key = name'.key

theorem separates_ofRoles {roles : List Role}
    (h : ∀ r ∈ roles, ∀ r' ∈ roles, r.id = r'.id → r.roleName.key = r'.roleName.key) :
    (ofRoles roles).Separates := by
  intro name name' id hid hid'
  obtain ⟨role, hrole, rfl⟩ := Option.map_eq_some_iff.1 hid
  obtain ⟨role', hrole', hsame⟩ := Option.map_eq_some_iff.1 hid'
  obtain ⟨hmem, hkey⟩ := mem_of_get?_ofRoles hrole
  obtain ⟨hmem', hkey'⟩ := mem_of_get?_ofRoles hrole'
  rw [← hkey, ← hkey', h role hmem role' hmem' hsame.symm]

theorem Valid.keys {index : RoleIndex} (h : index.Valid) : index.roles.map (·.roleName.key) = index.table.map (·.1) := by
  rw [RoleIndex.roles, KeyTable.values, List.map_map]
  exact List.map_congr_left h.2

theorem Valid.keys_nodup {index : RoleIndex} (h : index.Valid) : (index.roles.map (·.roleName.key)).Nodup := by
  rw [h.keys]
  refine (List.pairwise_map.2 h.1).imp fun {k k'} hlt heq => ?_
  rw [heq] at hlt
  exact String.lt_irrefl _ hlt

theorem any_roles {index : RoleIndex} (h : index.Valid) (name : RoleName) :
    (index.roles.map Role.roleName).any (name == ·) = index.contains name := by
  calc
    (index.roles.map Role.roleName).any (name == ·)
        = (index.roles.map (·.roleName.key)).any (name.key == ·) := by
          rw [List.any_map, List.any_map]
          rfl
    _ = index.table.any (·.1 == name.key) := by
          rw [h.keys, List.any_map]
          exact congrArg index.table.any (funext fun _ => BEq.comm)
    _ = index.contains name := (KeyTable.isSome_lookup name.key index.table).symm

theorem contains_ofRoles (roles : List Role) (name : RoleName) :
    (ofRoles roles).contains name = roles.any (·.roleName == name) := by
  rw [contains, get?_ofRoles, List.isSome_find?]

theorem roleNames_pairwise {index : RoleIndex} (h : index.Valid) :
    (index.roles.map Role.roleName).Pairwise fun a b => (a == b) = false := by
  refine List.pairwise_map.2 ((List.pairwise_map.1 h.keys_nodup).imp fun {a b} hne => ?_)
  exact Bool.eq_false_iff.2 fun hsame => hne ((RoleName.beq_iff _ _).1 hsame)

def others (index : RoleIndex) (names : List RoleName) : List Role :=
  index.roles.filter fun role => !names.any (role.roleName == ·)

theorem others_add {index : RoleIndex} (h : index.Valid) {names : List RoleName} {role : Role}
    (hrole : names.any (role.roleName == ·) = true) :
    (index.add role).others names = index.others names := by
  let keep (key : String) : Bool := !names.any (key == ·.key)
  have hkeep {index : RoleIndex} (h : index.Valid) :
      index.others names = (index.table.filter (keep ·.1)).map (·.2) := by
    rw [others, roles, KeyTable.values, List.filter_map]
    congr 1
    refine List.filter_congr fun e he => ?_
    rw [← h.2 e he]
    rfl
  rw [hkeep (h.add role), hkeep h, add, KeyTable.filter_alter keep]
  change (!names.any (role.roleName == ·)) = false
  rw [hrole]
  rfl

theorem others_append {roles added : List Role} {names : List RoleName}
    (h : ∀ role ∈ added, names.any (role.roleName == ·) = true) :
    (ofRoles (roles ++ added)).others names = (ofRoles roles).others names := by
  induction added using List.reverseRecOn with
  | nil => rw [List.append_nil]
  | append_singleton added role ih =>
    rw [← List.append_assoc, ofRoles_append, List.foldl_cons, List.foldl_nil,
      others_add (valid_ofRoles _) (h role (by simp)), ih fun r hr => h r (by simp [hr])]

end RoleIndex

namespace Permission

def namesIn (space : String) (ps : List Permission) : List String :=
  (ps.filter (·.space == space)).map (·.name)

theorem bySpace_append (ps : List Permission) (p : Permission) :
    bySpace (ps ++ [p]) = (bySpace ps).alter p.space fun names => names.getD [] ++ [p.name] :=
  List.foldl_append

theorem bySpace_pairwise (ps : List Permission) : (bySpace ps).Pairwise (·.1 < ·.1) := by
  induction ps using List.reverseRecOn with
  | nil => exact .nil
  | append_singleton ps p ih =>
    rw [bySpace_append]
    exact KeyTable.pairwise_alter ih

theorem lookup_bySpace (ps : List Permission) (space : String) :
    ((bySpace ps).lookup space).getD [] = namesIn space ps := by
  induction ps using List.reverseRecOn with
  | nil => rfl
  | append_singleton ps p ih =>
    rw [bySpace_append, KeyTable.lookup_alter _ _ _ _ (bySpace_pairwise ps), namesIn,
      List.filter_append, List.map_append, ← namesIn, ← ih]
    by_cases h : space = p.space
    · subst h
      simp
    · simp [h, Ne.symm h]

theorem namesIn_append (space : String) (ps qs : List Permission) :
    namesIn space (ps ++ qs) = namesIn space ps ++ namesIn space qs := by
  simp [namesIn]

theorem mem_namesIn {space name : String} {ps : List Permission} :
    name ∈ namesIn space ps ↔ ∃ p ∈ ps, p.space = space ∧ p.name = name := by
  simp [namesIn, and_assoc]

def othersBySpace (ps : List Permission) (spaces : List String) : KeyTable (List String) :=
  (bySpace ps).filter fun e => !spaces.contains e.1

theorem othersBySpace_append {ps added : List Permission} {spaces : List String}
    (h : ∀ p ∈ added, p.space ∈ spaces) :
    othersBySpace (ps ++ added) spaces = othersBySpace ps spaces := by
  induction added using List.reverseRecOn with
  | nil => rw [List.append_nil]
  | append_singleton added p ih =>
    have hp : (!spaces.contains p.space) = false := by simp [h p]
    rw [← List.append_assoc, othersBySpace, bySpace_append,
      KeyTable.filter_alter (fun space => !spaces.contains space) hp]
    exact ih fun q hq => h q (by simp [hq])

end Permission

theorem Group.name_of_named? {name : String} {groups : List Group} {group : Group}
    (h : named? name groups = some group) : group.name = name :=
  beq_iff_eq.1 (List.find?_some (p := fun g : Group => g.name == name) h)

end AccessBaseline
