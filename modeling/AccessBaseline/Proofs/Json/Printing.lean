import AccessBaseline.Json.Printer
import AccessBaseline.Proofs.Json.Grammar

/-! What the printer writes is one of the texts of what it was given: the one without blanks. -/
namespace AccessBaseline.Json

theorem hexValue?_hexDigit (n : Nat) : hexValue? (hexDigit n) = some (n % 16) := by
  have hall : ∀ d < 16, hexValue? (hexDigit d) = some d := by decide
  have hdigit : hexDigit n = hexDigit (n % 16) := by simp [hexDigit]
  rw [hdigit, hall _ (Nat.mod_lt n (by decide))]

theorem hexText_control {n : Nat} (h : n < 32) : HexText n ['0', '0', hexDigit (n / 16), hexDigit n] := by
  have hzero : hexValue? '0' = some 0 := by decide
  exact ⟨0, 0, n / 16 % 16, n % 16, by simp [hzero, hexValue?_hexDigit], by omega⟩

theorem charText_escapeChar (c : Char) : CharText c (escapeChar c) := by
  unfold escapeChar
  split
  · next h => exact .short (by rcases (by simpa using h : c = '"' ∨ c = '\\') with rfl | rfl <;> rfl)
  · next hquote =>
    split
    · next h => exact .short (by rw [h]; rfl)
    split
    · next h => exact .short (by rw [h]; rfl)
    split
    · next h => exact .short (by rw [h]; rfl)
    split
    · next h => exact .short (by rw [h]; rfl)
    split
    · next h => exact .short (by rw [h]; rfl)
    split
    · next h => exact .number (hexText_control h)
    · next h =>
      have hplain : c ≠ '"' ∧ c ≠ '\\' := by simpa using hquote
      exact .plain hplain.1 hplain.2 (by omega)

theorem stringText_renderString (s : String) : StringText s (renderString s) := by
  refine ⟨s.toList.map escapeChar, ?_, ?_⟩
  · exact List.forall₂_map_right_iff.2 (List.forall₂_same.2 fun c _ => charText_escapeChar c)
  · rw [renderString, List.flatMap_def, List.cons_append]

def separated (close : Char) (first : Bool) : List (List Char) → List Char
  | [] => [close]
  | part :: parts => (if first then [] else [',']) ++ part ++ separated close false parts

def memberText (m : String × Json) : List Char := renderString m.1 ++ ':' :: m.2.render

theorem spaced_separated (close : Char) (first : Bool) (parts : List (List Char)) :
    Spaced close first parts (separated close first parts) := by
  have hblank : Blank [] := fun _ h => by cases h
  induction parts generalizing first with
  | nil => exact .close hblank
  | cons part parts ih =>
    cases first with
    | true => simpa [separated] using Spaced.first hblank (ih false)
    | false => simpa [separated] using Spaced.next hblank hblank (ih false)

theorem renderItems_eq (items : List Json) :
    renderItems items = separated ']' false (items.map render) := by
  induction items with
  | nil => simp [renderItems, separated]
  | cons item items ih => simp [renderItems, separated, ih]

theorem renderMembers_eq (members : List (String × Json)) :
    renderMembers members = separated '\x7d' false (members.map memberText) := by
  induction members with
  | nil => simp [renderMembers, separated]
  | cons m members ih => simp [renderMembers, separated, memberText, ih]

theorem arrayText_render (items : List Json) :
    ArrayText (items.map render) (render (.array items)) := by
  refine ⟨separated ']' true (items.map render), spaced_separated _ _ _, ?_⟩
  cases items <;> simp [render, renderItems_eq, separated]

theorem objectText_render (members : List (String × Json)) :
    ObjectText (members.map fun m => (m.1, m.2.render)) (render (.object members)) := by
  refine ⟨members.map memberText, separated '\x7d' true (members.map memberText), ?_,
    spaced_separated _ _ _, ?_⟩
  · refine List.forall₂_map_left_iff.2 (List.forall₂_map_right_iff.2 (List.forall₂_same.2 fun m _ => ?_))
    exact ⟨renderString m.1, [], [], stringText_renderString m.1, by simp [Blank], by simp [Blank], rfl⟩
  · cases members <;> simp [render, renderMembers_eq, separated, memberText]

theorem written_object_render {members : List (String × Json)}
    (h : ∀ m ∈ members, Written m.2 m.2.render) : Written (.object members) (Json.object members).render := by
  have hobject := objectText_render members
  have hwritten := @Written.object (members.map fun m => (m.1, m.2, m.2.render)) _
    (by simpa [Function.comp_def] using hobject) (List.forall_mem_map.2 h)
  simpa [Function.comp_def] using hwritten

theorem padded_text {P : List Char → Prop} {v : Json} (h : P v.render) : Padded P v.text :=
  ⟨[], v.render, [], by simp [Blank], h, by simp [Blank], by simp [text]⟩

end AccessBaseline.Json
