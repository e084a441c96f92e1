import AccessBaseline.Proofs.Json.Printing
import AccessBaseline.Proofs.Json.Reading

/-! Records as they are written by hand: members in any order, some left out, others that nobody reads. -/
namespace AccessBaseline.Json
variable {α : Type} {cs : List Char}

/-- A member of an object of fixed shape: its key, which texts its value may have, and whether it may be
left out. -/
structure Part where
  key : String
  IsText : List Char → Prop
  mayMiss : Prop

/-- The text of an object with these parts, each once or left out, in any order and among members with
other keys. -/
def RecordText (parts : List Part) (cs : List Char) : Prop :=
  ∃ members, ObjectText members cs ∧
    (∀ part ∈ parts, part.mayMiss ∧ part.key ∉ members.map (·.1) ∨
      ∃ text, part.IsText text ∧ members.filter (·.1 = part.key) = [(part.key, text)]) ∧
    ∀ m ∈ members, m.1 ∉ parts.map (·.key) → IsValue m.2

def ListText (IsText : α → List Char → Prop) (as : List α) (cs : List Char) : Prop :=
  ∃ items, List.Forall₂ IsText as items ∧ ArrayText items cs

/-- The text of an object with these keys in this order and with values that are written so. -/
def MapText (IsText : α → List Char → Prop) (entries : List (String × α)) (cs : List Char) : Prop :=
  ∃ members, List.Forall₂ (fun e m => e.1 = m.1 ∧ IsText e.2 m.2) entries members ∧ ObjectText members cs

theorem listText_render {IsText : α → List Char → Prop} {as : List α} {vs : List Json}
    (h : List.Forall₂ (fun a v => IsText a v.render) as vs) : ListText IsText as (render (.array vs)) :=
  ⟨vs.map render, List.forall₂_map_right_iff.2 h, arrayText_render vs⟩

def OptionText : Option String → List Char → Prop
  | none, cs => cs = ['n', 'u', 'l', 'l']
  | some s, cs => StringText s cs

namespace Reader
variable {IsText : α → List Char → Prop} {r : Reader α}

theorem takes_listText {as : List α} (h : ListText IsText as cs)
    (hr : ∀ a ∈ as, ∀ cs, IsText a cs → r.Takes cs a) : (list r).Takes cs as := by
  obtain ⟨items, hitems, harray⟩ := h
  refine takes_list ?_ harray
  clear harray
  induction hitems with
  | nil => exact .nil
  | cons ha _ ih =>
    obtain ⟨hr, hlater⟩ := List.forall_mem_cons.1 hr
    exact .cons (hr _ ha) (ih hlater)

theorem takes_listText_map {β : Type} {r : Reader β} {f : α → β} {as : List α} (h : ListText IsText as cs)
    (hr : ∀ a cs, IsText a cs → r.Takes cs (f a)) : (list r).Takes cs (as.map f) := by
  obtain ⟨items, hitems, harray⟩ := h
  exact takes_list (List.forall₂_map_right_iff.2 (hitems.imp hr).flip) harray

theorem takes_mapText {entries : List (String × α)} (h : MapText IsText entries cs)
    (hr : ∀ a cs, IsText a cs → r.Takes cs a) (hkeys : (entries.map (·.1)).Nodup) :
    (map r).Takes cs entries := by
  obtain ⟨members, hmembers, hobject⟩ := h
  refine takes_map ?_ hobject hkeys
  exact (hmembers.imp fun e m hm => ⟨hm.1.symm, hr _ _ hm.2⟩).flip

theorem takes_optionText {s? : Option String} (h : OptionText s? cs) : (optional text).Takes cs s? := by
  cases s? with
  | none =>
    obtain rfl : cs = _ := h
    exact takes_optional_null text
  | some s =>
    obtain ⟨body, hbody⟩ := StringText.head h
    exact takes_optional (takes_text h) (by simp [hbody])

end Reader

namespace Record
open Reader
variable {spec : Record α} {a : α} {after : List String → α}

theorem missing?_eq_none {seen : List String} (h : ∀ f ∈ spec.fields, f.isRequired = true → f.name ∈ seen) :
    spec.missing? seen = none := by
  rw [missing?, Option.map_eq_none_iff, List.find?_eq_none]
  intro f hf
  have hseen := h f hf
  cases hrequired : f.isRequired <;> simp_all

/-- Members in any order are put together when what a field adds depends only on which fields came before.
The counts say that no field comes twice, `seen` included. -/
theorem assembles_anyOrder (halias : ∀ f ∈ spec.fields, f.alias? = none)
    {members : List (String × List Char)} {seen : List String}
    (hknown : ∀ m ∈ members, ∀ f ∈ spec.fields, f.name = m.1 →
      ∀ seen, (f.read (after seen)).Takes m.2 (after (f.name :: seen)))
    (hother : ∀ m ∈ members, (∀ f ∈ spec.fields, f.name ≠ m.1) → IsValue m.2)
    (honce : ∀ f ∈ spec.fields,
      (members.filter (·.1 = f.name)).length ≤ if f.name ∈ seen then 0 else 1)
    (hdone : ∀ seen', (∀ f ∈ spec.fields, f.name ∈ seen' ↔ f.name ∈ seen ∨ f.name ∈ members.map (·.1)) →
      spec.missing? seen' = none ∧ after seen' = a) :
    spec.Assembles seen (after seen) members a := by
  induction members generalizing seen with
  | nil =>
    obtain ⟨hmissing, hafter⟩ := hdone seen (by simp)
    exact hafter ▸ .done hmissing
  | cons m members ih =>
    obtain ⟨key, text⟩ := m
    obtain ⟨hread, hknown⟩ := List.forall_mem_cons.1 hknown
    obtain ⟨hvalue, hother⟩ := List.forall_mem_cons.1 hother
    have hanswers : ∀ f ∈ spec.fields, f.answersTo key = true ↔ f.name = key := by
      intro f hf
      simp [Field.answersTo, halias f hf]
    cases hfind : spec.fields.find? (·.answersTo key) with
    | none =>
      have hnone : ∀ f ∈ spec.fields, f.name ≠ key := fun f hf hname =>
        List.find?_eq_none.1 hfind f hf ((hanswers f hf).2 hname)
      refine .other hfind (hvalue hnone)
        (ih hknown hother (fun f hf => ?_) fun seen' hseen' => hdone seen' fun f hf => ?_)
      · have hcount := honce f hf
        rwa [List.filter_cons_of_neg (by simpa using (hnone f hf).symm)] at hcount
      · simp [hseen' f hf, hnone f hf]
    | some f =>
      have hmem : f ∈ spec.fields := List.mem_of_find?_eq_some hfind
      have hname : f.name = key := (hanswers f hmem).1 (by simpa using List.find?_some hfind)
      have hnew : f.name ∉ seen := by
        intro hseen
        have hcount := honce f hmem
        rw [List.filter_cons_of_pos (by simpa using hname.symm), List.length_cons, if_pos hseen] at hcount
        omega
      refine .member hfind hnew (hread f hmem hname seen)
        (ih hknown hother (fun g hg => ?_) fun seen' hseen' => hdone seen' fun g hg => ?_)
      · have hcount := honce g hg
        by_cases hsame : g.name = f.name
        · rw [hsame, List.filter_cons_of_pos (by simpa using hname.symm), List.length_cons, if_neg hnew]
            at hcount
          rw [hsame, if_pos List.mem_cons_self]
          omega
        · rw [List.filter_cons_of_neg (by simpa [hname] using Ne.symm hsame)] at hcount
          simpa [hsame] using hcount
      · simp only [hseen' g hg, List.mem_cons, List.map_cons, hname]
        tauto

/-- The value of a field once it was read, and what the blank record has before. -/
def valueAfter {β : Type} (seen : List String) (name : String) (b blank : β) : β :=
  if name ∈ seen then b else blank

theorem valueAfter_of_seen {β : Type} {seen : List String} {name : String} {b blank : β}
    (h : name ∈ seen ∨ b = blank) : valueAfter seen name b blank = b := by
  rcases h with h | rfl <;> simp [valueAfter, *]

/-- Whether a field is read from the texts of a part. `after` is the record with only some fields read, and
the others as in the blank record. -/
structure Fits (after : List String → α) (part : Part) (f : Field α) : Prop where
  key : part.key = f.name
  unaliased : f.alias? = none
  required : f.isRequired = true → ¬part.mayMiss
  takes : ∀ seen text, part.IsText text → (f.read (after seen)).Takes text (after (f.name :: seen))

section Fields
variable {β : Type} {name : String} {IsText : List Char → Prop} {r : Reader β} {store : α → β → α} {b : β}

theorem fits_required (hr : ∀ cs, IsText cs → r.Takes cs b)
    (hstore : ∀ seen, store (after seen) b = after (name :: seen)) :
    Fits after ⟨name, IsText, False⟩ (.required name r store) where
  key := rfl
  unaliased := rfl
  required _ := id
  takes seen text htext := hstore seen ▸ (hr text htext).map (store (after seen))

theorem fits_defaulted (hr : ∀ cs, IsText cs → r.Takes cs b)
    (hstore : ∀ seen, store (after seen) b = after (name :: seen)) (mayMiss : Prop) :
    Fits after ⟨name, IsText, mayMiss⟩ (.defaulted name r store) where
  key := rfl
  unaliased := rfl
  required h := by cases h
  takes seen text htext := hstore seen ▸ (hr text htext).map (store (after seen))

end Fields

theorem takes_recordText {parts : List Part} (h : RecordText parts cs) (hblank : after [] = spec.blank)
    (hparts : List.Forall₂ (Fits after) parts spec.fields)
    (hafter : ∀ seen, (∀ part ∈ parts, part.key ∈ seen ∨ part.mayMiss) → after seen = a) :
    spec.reader.Takes cs a := by
  obtain ⟨members, hobject, hmembers, hothers⟩ := h
  have hpart : ∀ f ∈ spec.fields, ∃ part ∈ parts, Fits after part f := fun f hf =>
    exists_of_mem_right hparts hf
  have hfield : ∀ part ∈ parts, ∃ f ∈ spec.fields, f.name = part.key := fun part hp => by
    obtain ⟨f, hf, hfits⟩ := exists_of_mem_right hparts.flip hp
    exact ⟨f, hf, hfits.key.symm⟩
  have hpresent : ∀ part ∈ parts, part.mayMiss ∨ part.key ∈ members.map (·.1) := fun part hp => by
    rcases hmembers part hp with ⟨hmay, -⟩ | ⟨text, -, honly⟩
    · exact .inl hmay
    · have hmem : (part.key, text) ∈ members.filter (·.1 = part.key) := by simp [honly]
      exact .inr (List.mem_map_of_mem (List.mem_filter.1 hmem).1)
  refine takes_object (hblank ▸ assembles_anyOrder (fun f hf => ?_) (fun m hm f hf hname seen => ?_)
    (fun m hm hnone => hothers m hm fun hkey => ?_) (fun f hf => ?_) fun seen hseen => ⟨?_, ?_⟩) hobject
  · obtain ⟨part, -, hfits⟩ := hpart f hf
    exact hfits.unaliased
  · obtain ⟨part, hmem, hfits⟩ := hpart f hf
    rcases hmembers part hmem with ⟨-, hmissing⟩ | ⟨text, htext, honly⟩
    · exact (hmissing (by rw [hfits.key, hname]; exact List.mem_map_of_mem hm)).elim
    · have hfiltered : m ∈ members.filter (·.1 = part.key) := by simp [hm, hfits.key, hname]
      rw [honly, List.mem_singleton] at hfiltered
      exact hfiltered ▸ hfits.takes seen text htext
  · obtain ⟨part, hp, hpart⟩ := List.mem_map.1 hkey
    obtain ⟨f, hf, hname⟩ := hfield part hp
    exact hnone f hf (hname.trans hpart)
  · obtain ⟨part, hmem, hfits⟩ := hpart f hf
    rcases hmembers part hmem with ⟨-, hmissing⟩ | ⟨text, -, honly⟩
    · have hnone : members.filter (·.1 = f.name) = [] := by
        refine List.filter_eq_nil_iff.2 fun m hm hm' => hmissing ?_
        rw [hfits.key, ← of_decide_eq_true hm']
        exact List.mem_map_of_mem hm
      simp [hnone]
    · simp [← hfits.key, honly]
  · refine missing?_eq_none fun f hf hrequired => (hseen f hf).2 (.inr ?_)
    obtain ⟨part, hmem, hfits⟩ := hpart f hf
    exact hfits.key ▸ (hpresent part hmem).resolve_left (hfits.required hrequired)
  · refine hafter seen fun part hp => ?_
    obtain ⟨f, hf, hname⟩ := hfield part hp
    rcases hpresent part hp with hmay | hmem
    · exact .inr hmay
    · exact .inl (hname ▸ (hseen f hf).2 (.inr (hname.symm ▸ hmem)))

end Record

end AccessBaseline.Json
