import AccessBaseline.Proofs.Audit
import AccessBaseline.Proofs.Reconcile.Script
import Mathlib.Data.Finset.Sort

/-! What is granted to a role, and what is flagged, call by call. Each declared namespace is compared with
what is held in it; its missing names are granted before its surplus ones are flagged, so that a grant
that fails leaves the anomalies of the namespaces before its own. -/
namespace AccessBaseline

namespace Permission
variable (held : List Permission)

/-- The declared names that are not held, namespace by namespace, each name where it comes first. -/
def lacking (spaces : List (String × List String)) : List (String × String) :=
  spaces.flatMap fun e => (e.2.eraseDups.filter (!(namesIn e.1 held).contains ·)).map (e.1, ·)

def surplus (spaces : List (String × List String)) : List (String × String) :=
  spaces.flatMap fun e => ((namesIn e.1 held).eraseDups.filter (!e.2.contains ·)).map (e.1, ·)

def otherSpaces (spaces : List String) : List String :=
  ((held.map (·.space)).toFinset \ spaces.toFinset).sort

def outside (spaces : List String) : List (String × String) :=
  (otherSpaces held spaces).flatMap fun space => (namesIn space held).eraseDups.map (space, ·)

variable {held}

theorem lacking_cons (e : String × List String) (spaces : List (String × List String)) :
    lacking held (e :: spaces) = lacking held [e] ++ lacking held spaces := by
  simp [lacking]

theorem surplus_cons (e : String × List String) (spaces : List (String × List String)) :
    surplus held (e :: spaces) = surplus held [e] ++ surplus held spaces := by
  simp [surplus]

theorem mem_keys_bySpace (held : List Permission) (space : String) :
    space ∈ (bySpace held).map (·.1) ↔ space ∈ held.map (·.space) := by
  induction held using List.reverseRecOn with
  | nil => rfl
  | append_singleton held p ih =>
    rw [bySpace_append, KeyTable.mem_keys_alter, ih]
    simp [or_comm]

theorem keys_othersBySpace (spaces : List String) :
    (othersBySpace held spaces).map (·.1) = otherSpaces held spaces := by
  -- Both sides are sorted and without repetitions, and so they agree where their members do.
  let keys := (othersBySpace held spaces).map (·.1)
  have hsorted : keys.Pairwise (· < ·) := by
    rw [List.pairwise_map]
    exact (bySpace_pairwise held).filter _
  have hkeys : keys.toFinset = (held.map (·.space)).toFinset \ spaces.toFinset := by
    ext space
    rw [Finset.mem_sdiff, List.mem_toFinset, List.mem_toFinset, List.mem_toFinset,
      ← mem_keys_bySpace]
    simp [keys, othersBySpace, and_comm]
  have hsort : keys.toFinset.sort = keys :=
    (List.toFinset_sort (· ≤ ·) (hsorted.imp ne_of_lt)).2 (hsorted.imp le_of_lt)
  rw [otherSpaces, ← hkeys, hsort]

theorem othersBySpace_eq (spaces : List String) :
    othersBySpace held spaces =
      (otherSpaces held spaces).map fun space => (space, namesIn space held) := by
  have hsame : ∀ e ∈ othersBySpace held spaces, id e = (e.1, namesIn e.1 held) := fun e he =>
    Prod.ext rfl (of_mem_othersBySpace he).2
  rw [← keys_othersBySpace, List.map_map]
  calc
    othersBySpace held spaces = (othersBySpace held spaces).map id := (List.map_id _).symm
    _ = (othersBySpace held spaces).map fun e => (e.1, namesIn e.1 held) := List.map_congr_left hsame

end Permission

namespace Reconcile
variable {σ : Type}

def grantCall (roleId : String) (p : String × String) : Call :=
  .grantPermission ⟨p.1, p.2, .global, "*", .role, roleId⟩

def grantKey (role : RoleName) (p : String × String) : String := role.text ++ "/" ++ p.1 ++ "/" ++ p.2

def undeclared (role : RoleName) (p : String × String) : Anomaly := .undeclaredPermission role.text p.1 p.2

def spacePart (role : RoleName) (roleId : String) (held : List Permission) (e : String × List String) :
    Deed.Part where
  calls := (Permission.lacking held [e]).map fun p =>
    (grantCall roleId p, "grant permission", grantKey role p)
  flags := (Permission.surplus held [e]).map (undeclared role)

theorem carries_space (role : RoleName) (roleId : String) (held : List Permission)
    (e : String × List String) :
    Carries .permissionGranted (space role roleId e.1 e.2 (Permission.namesIn e.1 held))
      (spacePart role roleId held e).script := by
  have hgrant (name : String) : Carries .permissionGranted (grantPermission role roleId e.1 name)
      [.call (grantCall roleId (e.1, name)) "grant permission" (grantKey role (e.1, name))] :=
    (carries_change (Attempt.isCall_during _ _ _)).bind fun _ => carries_note _
  have hgrants : Carries .permissionGranted
      ((differences e.2 (Permission.namesIn e.1 held)).onlyInFirst.forM (grantPermission role roleId e.1))
      _ := carries_forM_singleton hgrant
  have hspace := hgrants.bind fun _ =>
    carries_flags (differences e.2 (Permission.namesIn e.1 held)).onlyInSecond
      fun name => .undeclaredPermission role.text e.1 name
  have hscript : (spacePart role roleId held e).script =
      (differences e.2 (Permission.namesIn e.1 held)).onlyInFirst.map (fun name =>
        .call (grantCall roleId (e.1, name)) "grant permission" (grantKey role (e.1, name))) ++
      ((differences e.2 (Permission.namesIn e.1 held)).onlyInSecond.map fun name =>
        .undeclaredPermission role.text e.1 name).map .flag := by
    simp [Deed.Part.script, Deed.made, spacePart, Permission.lacking, Permission.surplus, differences,
      without_firsts_eq, undeclared, Function.comp_def]
  rw [hscript]
  exact hspace

theorem carries_otherSpace (role : RoleName) (roleId : String) (e : String × List String) :
    Carries .permissionGranted (space role roleId e.1 [] e.2)
      ((e.2.eraseDups.map fun name => undeclared role (e.1, name)).map .flag) := by
  have hnone : (differences [] e.2).onlyInFirst = [] := rfl
  have hall : (differences [] e.2).onlyInSecond = e.2.eraseDups := by
    simp [differences, without_firsts_eq]
  have hflags : Carries .permissionGranted
      (e.2.eraseDups.forM fun name => flag (undeclared role (e.1, name))) _ := carries_flags _ _
  rw [← List.nil_append (List.map Deed.flag _)]
  unfold space
  simp only [hnone, hall]
  exact carries_pure.bind fun _ => hflags

theorem calls_spaceParts (role : RoleName) (roleId : String) (held : List Permission)
    (spaces : List (String × List String)) :
    ((spaces.map (spacePart role roleId held)).flatMap fun p => p.calls.map (·.1)) =
      (Permission.lacking held spaces).map (grantCall roleId) := by
  induction spaces with
  | nil => rfl
  | cons e spaces ih =>
    rw [List.map_cons, List.flatMap_cons, ih, Permission.lacking_cons, List.map_append, spacePart,
      List.map_map]
    rfl

theorem flags_spaceParts (role : RoleName) (roleId : String) (held : List Permission)
    (spaces : List (String × List String)) :
    (spaces.map (spacePart role roleId held)).flatMap Deed.Part.flags =
      (Permission.surplus held spaces).map (undeclared role) := by
  induction spaces with
  | nil => rfl
  | cons e spaces ih =>
    rw [List.map_cons, List.flatMap_cons, ih, Permission.surplus_cons, List.map_append, spacePart]

theorem carries_spaces (role : DeclaredRole) (roleId : String) (held : List Permission) :
    Carries .permissionGranted
      (do
        role.permissions.forM fun (name, desired) =>
          space role.name roleId name desired (((Permission.bySpace held).lookup name).getD [])
        ((Permission.bySpace held).filter fun e => !role.permissions.any (·.1 == e.1)).forM
          fun (name, names) => space role.name roleId name [] names)
      ((role.permissions.map (spacePart role.name roleId held)).flatMap Deed.Part.script ++
        ((Permission.outside held (role.permissions.map (·.1))).map (undeclared role.name)).map .flag) := by
  have hothers : ((Permission.outside held (role.permissions.map (·.1))).map (undeclared role.name)).map
      Deed.flag = (Permission.othersBySpace held (role.permissions.map (·.1))).flatMap fun e =>
        (e.2.eraseDups.map fun name => undeclared role.name (e.1, name)).map .flag := by
    rw [Permission.othersBySpace_eq, Permission.outside, List.map_flatMap, List.map_flatMap,
      List.flatMap_map]
    simp only [List.map_map, Function.comp_def]
  simp only [Permission.lookup_bySpace, filter_undeclared]
  rw [hothers, List.flatMap_map]
  exact (carries_forM fun e => carries_space role.name roleId held e).bind fun _ =>
    carries_forM fun e => carries_otherSpace role.name roleId e

/-- How the permissions of a role are reconciled, by the answer to the question what it holds: the
question is all when it fails; else the lacking permissions are granted, and what is held and not declared
is flagged; a grant that fails is the last call, and what was flagged is in the namespaces before its own. -/
inductive Differenced (role : DeclaredRole) (roleId : String) (rep : Report)
    (r : Interaction.Run Call Call.Answer σ (Except Failure Unit × Report)) :
    Except Failure (List Permission) → Prop
  | unread (e : Failure) (ops : r.ops = [.rolePermissions roleId])
      (result : r.result = (.error (.step "fetch permissions" role.name.text e), rep)) :
      Differenced role roleId rep r (.error e)
  | whole (held : List Permission) (unfailed : Unfailed r.steps)
      (ops : r.ops =
        .rolePermissions roleId :: (Permission.lacking held role.permissions).map (grantCall roleId))
      (result : r.result = (.ok (),
        rep.extend .permissionGranted (Permission.lacking held role.permissions).length
          ((Permission.surplus held role.permissions ++
            Permission.outside held (role.permissions.map (·.1))).map (undeclared role.name)))) :
      Differenced role roleId rep r (.ok held)
  | cut (held : List Permission) (before : List (String × List String)) (e : String × List String)
      (after : List (String × List String)) (granted : List (String × String)) (p : String × String)
      (later : List (String × String)) (done : List (Interaction.Step Call Call.Answer)) (f : Failure)
      (declared : role.permissions = before ++ e :: after)
      (planned : Permission.lacking held [e] = granted ++ p :: later)
      (unfailed : Unfailed done) (steps : r.steps = done ++ [.answered (grantCall roleId p) (.error f)])
      (ops : r.ops = .rolePermissions roleId ::
        (Permission.lacking held before ++ granted ++ [p]).map (grantCall roleId))
      (result : r.result = (.error (.step "grant permission" (grantKey role.name p) f),
        rep.extend .permissionGranted (Permission.lacking held before ++ granted).length
          ((Permission.surplus held before).map (undeclared role.name)))) :
      Differenced role roleId rep r (.ok held)

/-- Whoever answers, from any report: the calls, the count and the anomalies are those of the difference
between what is declared and what was answered, up to the first grant that fails. -/
theorem permissions_exact (role : DeclaredRole) (roleId : String)
    (respond : (call : Call) → σ → call.Answer × σ) (rep : Report) (s : σ) :
    Differenced role roleId rep (Interaction.run respond ((permissions role roleId).runFrom rep) s)
      (respond (.rolePermissions roleId) s).1 := by
  rw [permissions, run_note_bind, run_call_bind (Attempt.isCall_permissionsBySpace _ _ _)]
  cases hanswer : (respond (.rolePermissions roleId) s).1 with
  | error e => exact .unread e rfl rfl
  | ok held =>
    -- The note and the question come before the script, and its calls are all grants.
    have hspaces := (carries_spaces role roleId held).run respond rep
      (respond (.rolePermissions roleId) s).2
    let lead : List (Interaction.Step Call Call.Answer) :=
      [.noted (.debug "verifying permissions" [("role", role.name.text)]),
        .answered (.rolePermissions roleId) (.ok held)]
    have hlead : Unfailed lead := by
      intro call e h
      cases List.mem_singleton.1 (List.mem_of_ne_of_mem (fun h => by cases h) h)
    have hcalls (es : List (String × List String)) :
        Deed.calls ((es.map (spacePart role.name roleId held)).flatMap Deed.Part.script) =
          (Permission.lacking held es).map (grantCall roleId) := by
      rw [Deed.calls_parts, calls_spaceParts]
    have hflags (es : List (String × List String)) :
        Deed.anomalies ((es.map (spacePart role.name roleId held)).flatMap Deed.Part.script) =
          (Permission.surplus held es).map (undeclared role.name) := by
      rw [Deed.anomalies_parts, flags_spaceParts]
    cases hspaces with
    | whole unfailed ops result =>
      rw [Deed.calls_append, Deed.calls_flags, List.append_nil, hcalls] at ops result
      rw [Deed.anomalies_append, Deed.anomalies_flags, hflags, ← List.map_append, List.length_map]
        at result
      exact .whole held (unfailed_append.2 ⟨hlead, unfailed⟩)
        (congrArg (Call.rolePermissions roleId :: ·) ops) result
    | cut front c action key back done f planned unfailed steps ops result =>
      -- Parts are namespaces and the calls of a part its grants, so that the failed one is `p` in `e`.
      obtain ⟨parts, part, parts', made, later, hparts, hpart, rfl⟩ := Deed.exists_of_parts planned
      obtain ⟨before, rest, hdeclared, rfl, hrest⟩ := List.map_eq_append_iff.1 hparts
      obtain ⟨e, after, rfl, rfl, -⟩ := List.map_eq_cons_iff.1 hrest
      obtain ⟨granted, rest, hplanned, rfl, hrest⟩ := List.map_eq_append_iff.1 hpart
      obtain ⟨p, later, rfl, hp, -⟩ := List.map_eq_cons_iff.1 hrest
      cases hp
      have hmade : (granted.map fun p => (grantCall roleId p, "grant permission", grantKey role.name p)).map
          (·.1) = granted.map (grantCall roleId) := by
        rw [List.map_map]
        rfl
      rw [Deed.calls_append, hcalls, Deed.calls_made, hmade, ← List.map_append] at ops result
      rw [Deed.anomalies_append, hflags, Deed.anomalies_made, List.append_nil, List.length_map] at result
      refine .cut held before e after granted p later (lead ++ done) f hdeclared hplanned
        (unfailed_append.2 ⟨hlead, unfailed⟩) (congrArg (lead ++ ·) steps) ?_ result
      rw [List.map_append]
      exact congrArg (Call.rolePermissions roleId :: ·) ops

end Reconcile

end AccessBaseline
