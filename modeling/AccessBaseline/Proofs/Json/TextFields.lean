import AccessBaseline.Proofs.Json.Records
import AccessBaseline.Proofs.Json.Shapes

/-! Records whose fields are all texts. One list of the fields says how such a record is written, read and
spoilt. -/
namespace AccessBaseline.Json

structure TextField (α : Type) where
  name : String
  isRequired : Bool
  get : α → String
  store : α → String → α

namespace TextField
variable {α : Type}

def field (t : TextField α) : Field α :=
  ⟨t.name, none, t.isRequired, fun a => t.store a <$> Reader.text⟩

def part (a : α) (t : TextField α) : Part :=
  ⟨t.name, StringText (t.get a), match t.isRequired with | true => False | false => t.get a = ""⟩

theorem get_eq_of_mayMiss {t : TextField α} {a : α} (h : (t.part a).mayMiss) : t.get a = "" := by
  cases t with
  | mk name isRequired get store =>
    cases isRequired with
    | true => exact h.elim
    | false => exact h

end TextField

namespace Record
variable {α : Type}

/-- Whether a record is made of some fields of text, each with a place of its own. -/
structure OfTexts (spec : Record α) (texts : List (TextField α)) : Prop where
  fields : spec.fields = texts.map (·.field)
  distinct : (texts.map (·.name)).Nodup
  blank : ∀ t ∈ texts, t.get spec.blank = ""
  get_store : ∀ t ∈ texts, ∀ u ∈ texts, ∀ a s, u.get (t.store a s) = if u.name = t.name then s else u.get a
  ext : ∀ a b, (∀ t ∈ texts, t.get a = t.get b) → a = b

def textsAfter (blank a : α) (texts : List (TextField α)) (seen : List String) : α :=
  texts.foldl (fun b t => if t.name ∈ seen then t.store b (t.get a) else b) blank

namespace OfTexts
variable {spec : Record α} {texts : List (TextField α)} (h : spec.OfTexts texts) {a : α} {cs : List Char}
include h

/-- What stands in a field once some fields of one record were stored in another. -/
theorem get_textsAfter {t : TextField α} (ht : t ∈ texts) (seen : List String) {stored : List (TextField α)}
    (hstored : ∀ u ∈ stored, u ∈ texts) (b : α) :
    t.get (textsAfter b a stored seen) =
      if t.name ∈ stored.map (·.name) then valueAfter seen t.name (t.get a) (t.get b) else t.get b := by
  induction stored generalizing b with
  | nil => rfl
  | cons u stored ih =>
    obtain ⟨hu, hstored⟩ := List.forall_mem_cons.1 hstored
    have hname : t.name = u.name ↔ t = u := ⟨List.inj_on_of_nodup_map h.distinct ht hu, congrArg _⟩
    have hget := h.get_store u hu t ht b (u.get a)
    rw [textsAfter, List.foldl_cons]
    change t.get (textsAfter _ a stored seen) = _
    rw [ih hstored]
    by_cases hseen : u.name ∈ seen <;> by_cases hsame : t.name = u.name <;> simp_all [valueAfter]

theorem get_after {t : TextField α} (ht : t ∈ texts) (seen : List String) :
    t.get (textsAfter spec.blank a texts seen) = valueAfter seen t.name (t.get a) "" := by
  rw [h.get_textsAfter ht seen (fun _ hu => hu), if_pos (List.mem_map_of_mem ht), h.blank t ht]

theorem store_after {t : TextField α} (ht : t ∈ texts) (seen : List String) :
    t.store (textsAfter spec.blank a texts seen) (t.get a) =
      textsAfter spec.blank a texts (t.name :: seen) := by
  refine h.ext _ _ fun u hu => ?_
  have hname : u.name = t.name ↔ u = t := ⟨List.inj_on_of_nodup_map h.distinct hu ht, congrArg _⟩
  rw [h.get_store t ht u hu, h.get_after hu, h.get_after hu]
  by_cases hsame : u = t <;> simp_all [valueAfter]

theorem takes (htext : RecordText (texts.map (·.part a)) cs) : spec.reader.Takes cs a := by
  let after := textsAfter spec.blank a texts
  have hblank : after [] = spec.blank := by
    refine h.ext _ _ fun t ht => ?_
    rw [h.get_after ht, h.blank t ht]
    rfl
  refine takes_recordText htext hblank ?_ fun seen hseen => h.ext _ _ fun t ht => ?_
  · rw [h.fields, List.forall₂_map_left_iff, List.forall₂_map_right_iff]
    refine List.forall₂_same.2 fun t ht => ⟨rfl, rfl, fun hrequired hmay => ?_, fun seen text hstring => ?_⟩
    · rw [TextField.part, show t.isRequired = true from hrequired] at hmay
      exact hmay
    · have hstore : t.store (after seen) (t.get a) = after (t.name :: seen) := h.store_after ht seen
      exact hstore ▸ (Reader.takes_text hstring).map (t.store (after seen))
  · rw [h.get_after ht]
    refine valueAfter_of_seen ?_
    exact (hseen _ (List.mem_map_of_mem ht)).imp_right TextField.get_eq_of_mayMiss

theorem careful : spec.Careful := by
  intro f hf a
  rw [h.fields] at hf
  obtain ⟨t, -, rfl⟩ := List.mem_map.1 hf
  exact Reader.exact_text.map _

theorem hasShape : spec.HasShape
    ⟨(texts.filter (·.isRequired)).map (·.name), texts.map (·.name), []⟩ where
  unaliased f hf := by
    rw [h.fields] at hf
    obtain ⟨t, -, rfl⟩ := List.mem_map.1 hf
    rfl
  required key hkey := by
    obtain ⟨t, ht, rfl⟩ := List.mem_map.1 hkey
    obtain ⟨hmem, hrequired⟩ := List.mem_filter.1 ht
    exact ⟨t.field, h.fields ▸ List.mem_map_of_mem hmem, rfl, hrequired⟩
  strings key hkey := by
    obtain ⟨t, ht, rfl⟩ := List.mem_map.1 hkey
    cases hfind : spec.fields.find? (·.answersTo t.name) with
    | none =>
      have hmem : t.field ∈ spec.fields := h.fields ▸ List.mem_map_of_mem ht
      exact absurd (List.find?_eq_none.1 hfind _ hmem) (by simp [Field.answersTo, TextField.field])
    | some f =>
      have hf := List.mem_of_find?_eq_some hfind
      rw [h.fields] at hf
      obtain ⟨u, -, rfl⟩ := List.mem_map.1 hf
      exact ⟨_, rfl, u.store, rfl⟩
  others key hkey := by cases hkey

end OfTexts

end Record

end AccessBaseline.Json
