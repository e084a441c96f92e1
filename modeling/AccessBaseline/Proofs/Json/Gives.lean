import AccessBaseline.Json.Shape
import Mathlib.Data.List.Nodup

/-! What readers give. A property of all that a reader can give is shown of its parts, whatever text they
are run on. -/
namespace AccessBaseline.Json

namespace Reader
variable {α β : Type} {P : α → Prop} {Q : β → Prop}

def Gives (P : α → Prop) (r : Reader α) : Prop := ∀ cs a rest, r cs = (.ok a, rest) → P a

theorem gives_pure {a : α} (h : P a) : Gives P (pure a : Reader α) := by
  intro cs b rest hb
  cases hb
  exact h

theorem gives_bind {r : Reader β} {f : β → Reader α} (hr : Gives Q r) (hf : ∀ b, Q b → Gives P (f b)) :
    Gives P (r >>= f) := by
  intro cs a rest h
  change ExceptT.bindCont f (r cs).1 (r cs).2 = _ at h
  cases hb : r cs with
  | mk b? rest' =>
    rw [hb] at h
    cases b? with
    | ok b => exact hf b (hr _ _ _ hb) _ _ _ h
    | error e => cases h

theorem gives_any (r : Reader α) : Gives (fun _ => True) r := fun _ _ _ _ => trivial

theorem gives_then {r : Reader β} {f : β → Reader α} (hf : ∀ b, Gives P (f b)) :
    Gives P (r >>= f) :=
  gives_bind (gives_any r) fun b _ => hf b

theorem gives_map {r : Reader β} {f : β → α} (hr : Gives Q r) (hf : ∀ b, Q b → P (f b)) :
    Gives P (f <$> r) := by
  rw [← bind_pure_comp]
  exact gives_bind hr fun b hb => gives_pure (hf b hb)

theorem gives_placed {r : Reader α} (h : Gives P r) : Gives P (placed r) := by
  intro cs a rest ha
  unfold placed at ha
  split at ha
  · cases ha
  · exact h _ _ _ ha

theorem gives_enclosed {r : Reader α} (h : Gives P r) (close : Reader Unit) :
    Gives P (enclosed r close) := by
  intro cs a rest ha
  unfold enclosed at ha
  cases hr : r cs with
  | mk x rest' =>
    cases hc : close rest' with
    | mk y rest'' =>
      simp only [hr, hc] at ha
      rcases x with e | b <;> rcases y with e' | u <;> cases ha
      exact h _ _ _ hr

theorem gives_failAhead (cause : Cause) : Gives P (failAhead cause : Reader α) :=
  fun _ _ _ h => by cases h

theorem gives_refuse (cause : Cause) : Gives P (refuse cause : Reader α) := fun _ _ _ h => by cases h

theorem gives_wrongType (c : Char) (expected : String) : Gives P (wrongType c expected : Reader α) := by
  unfold wrongType
  split
  any_goals exact gives_then fun _ => gives_then fun _ => gives_refuse _
  any_goals exact gives_refuse _
  split
  · exact gives_then fun _ => gives_refuse _
  · exact gives_failAhead _

theorem gives_items {item : Reader α} (h : Gives P item) (fuel : Nat) (first : Bool) :
    Gives (fun as => ∀ a ∈ as, P a) (items item fuel first) := by
  induction fuel generalizing first with
  | zero => exact gives_failAhead _
  | succ fuel ih =>
    refine gives_then fun more => ?_
    cases more with
    | false => exact gives_pure (by simp)
    | true =>
      exact gives_bind h fun a ha => gives_map (ih false) fun as has => List.forall_mem_cons.2 ⟨ha, has⟩

theorem gives_list {item : Reader α} (h : Gives P item) :
    Gives (fun as => ∀ a ∈ as, P a) (list item) := by
  refine gives_placed (gives_then fun c => ?_)
  split
  · exact gives_then fun _ => gives_enclosed (gives_then fun n => gives_items h n true) _
  · exact gives_wrongType _ _

theorem keys_putKey (key : String) (a : α) (entries : List (String × α)) :
    (putKey key a entries).map (·.1) =
      if key ∈ entries.map (·.1) then entries.map (·.1) else entries.map (·.1) ++ [key] := by
  induction entries with
  | nil => rfl
  | cons e rest ih =>
    obtain ⟨k, b⟩ := e
    rw [putKey]
    by_cases hk : k = key
    · simp [hk]
    · rw [if_neg (by simpa using hk), List.map_cons, ih]
      by_cases hmem : key ∈ rest.map (·.1)
      · simp [hmem]
      · simp [hmem, Ne.symm hk]

theorem gives_map_nodup (value : Reader α) :
    Gives (fun entries => (entries.map (·.1)).Nodup) (map value) := by
  have hput (members done : List (String × α)) (h : (done.map (·.1)).Nodup) :
      ((members.foldl (fun done m => putKey m.1 m.2 done) done).map (·.1)).Nodup := by
    induction members generalizing done with
    | nil => exact h
    | cons m members ih =>
      refine ih _ ?_
      rw [keys_putKey]
      split
      · exact h
      · next hkey => exact List.concat_eq_append ▸ h.concat hkey
  refine gives_placed (gives_then fun c => ?_)
  split
  · exact gives_then fun members => gives_pure (hput members [] .nil)
  · exact gives_wrongType _ _

theorem gives_decode {r : Reader α} (h : Gives P r) {text : String} {a : α}
    (ha : decode r text = .ok a) : P a := by
  unfold decode at ha
  split at ha
  · next b rest hb =>
    cases ha
    exact gives_bind h (fun c hc => gives_then fun _ => gives_pure hc) _ _ _ hb
  · cases ha

end Reader

namespace Record
open Reader
variable {α : Type} {P : α → Prop} {spec : Record α}

def Keeps (P : α → Prop) (spec : Record α) : Prop :=
  P spec.blank ∧ ∀ f ∈ spec.fields, ∀ a, P a → Gives P (f.read a)

theorem gives_readMembers (h : spec.Keeps P) (fuel : Nat) (first : Bool) (seen : List String) {a : α}
    (ha : P a) : Gives P (spec.readMembers fuel first seen a) := by
  induction fuel generalizing first seen a with
  | zero => exact gives_failAhead _
  | succ fuel ih =>
    refine gives_then fun key? => ?_
    cases key? with
    | none =>
      dsimp only
      split
      · exact gives_refuse _
      · exact gives_pure ha
    | some key =>
      dsimp only
      split
      · exact gives_then fun _ => gives_then fun _ => ih _ _ ha
      · next f hf =>
        split
        · exact gives_refuse _
        · exact gives_then fun _ =>
            gives_bind (h.2 f (List.mem_of_find?_eq_some hf) a ha) fun b hb => ih _ _ hb

theorem gives_readItems (h : spec.Keeps P) {fields : List (Field α)} (hfields : fields ⊆ spec.fields)
    (index : Nat) (first : Bool) {a : α} (ha : P a) :
    Gives P (spec.readItems fields index first a) := by
  induction fields generalizing index first a with
  | nil => exact gives_pure ha
  | cons f fields ih =>
    obtain ⟨hf, hfields⟩ := List.cons_subset.1 hfields
    refine gives_then fun more => ?_
    split
    · exact gives_bind (h.2 f hf a ha) fun b hb => ih hfields _ _ hb
    · split
      · exact gives_refuse _
      · exact ih hfields _ _ ha

theorem gives_reader (h : spec.Keeps P) : Gives P spec.reader := by
  refine gives_placed (gives_then fun c => ?_)
  split
  · exact gives_then fun _ => gives_enclosed (gives_readItems h (List.Subset.refl _) 0 true h.1) _
  · exact gives_then fun _ => gives_enclosed (gives_then fun n => gives_readMembers h n true [] h.1) _
  · exact gives_wrongType _ _

end Record

end AccessBaseline.Json
