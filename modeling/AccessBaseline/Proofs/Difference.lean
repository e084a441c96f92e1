import AccessBaseline.Proofs.Lookup
import Mathlib.Data.List.FinRange
import Mathlib.Data.Set.Basic

/-! What one list has beyond another, told by places and by classes. A class is all that equals one element,
whatever its spelling; of each class that only one list has elements of, the first element is kept. -/
namespace AccessBaseline
variable {α : Type} [BEq α] {a : α} {as bs bs' : List α}

/-- Whether the element at a place equals none before it, and none of others. -/
def IsNew (as bs : List α) (i : Fin as.length) : Prop :=
  (∀ j < i, (as[j] == as[i]) = false) ∧ ∀ b ∈ bs, (as[i] == b) = false

instance (as bs : List α) : DecidablePred (IsNew as bs) :=
  fun _ => inferInstanceAs (Decidable (_ ∧ _))

/-- The elements at such places, in the order of the places. -/
def newcomers (as bs : List α) : List α :=
  ((List.finRange as.length).filter fun i => IsNew as bs i).map as.get

def classOf (a : α) : Set α := {b | (a == b) = true}

def classes (as : List α) : Set (Set α) := {c | ∃ a ∈ as, c = classOf a}

theorem isNew_zero : IsNew (a :: as) bs ⟨0, Nat.succ_pos _⟩ ↔ ∀ b ∈ bs, (a == b) = false := by
  refine ⟨fun h => h.2, fun h => ⟨fun j hj => ?_, h⟩⟩
  exact absurd hj (Nat.not_lt_zero _)

theorem isNew_succ (i : Fin as.length) :
    IsNew (a :: as) bs i.succ ↔ (a == as[i]) = false ∧ IsNew as bs i := by
  constructor
  · intro h
    refine ⟨h.1 ⟨0, Nat.succ_pos _⟩ (Fin.succ_pos i), fun j hj => ?_, h.2⟩
    exact h.1 j.succ (Fin.succ_lt_succ_iff.2 hj)
  · rintro ⟨hhead, htail, hothers⟩
    refine ⟨fun j hj => ?_, hothers⟩
    cases j using Fin.cases with
    | zero => exact hhead
    | succ j => exact htail j (Fin.succ_lt_succ_iff.1 hj)

theorem newcomers_cons (a : α) (as bs : List α) :
    newcomers (a :: as) bs = without [a] bs ++ (newcomers as bs).filter fun b => !(a == b) := by
  have hplaces : List.finRange (a :: as).length =
      ⟨0, Nat.succ_pos _⟩ :: (List.finRange as.length).map Fin.succ := List.finRange_succ
  have hlater : ((List.finRange as.length).map Fin.succ).filter (fun i => IsNew (a :: as) bs i) =
      ((List.finRange as.length).filter fun i => !(a == as.get i) && IsNew as bs i).map Fin.succ := by
    rw [List.filter_map]
    congr 1
    refine List.filter_congr fun i _ => ?_
    simp [isNew_succ]
  have hfirst : without [a] bs = if ∀ b ∈ bs, (a == b) = false then [a] else [] := by
    split <;> simp_all [without]
  rw [newcomers, hplaces, List.filter_cons, hlater, newcomers, List.filter_map, List.filter_filter, hfirst]
  simp only [decide_eq_true_eq, isNew_zero]
  split <;> simp [Function.comp_def]

/-- What is left of the first elements of their classes stands at the places of the new ones. -/
theorem without_firsts_eq_newcomers (as bs : List α) : without (firsts as) bs = newcomers as bs := by
  induction as with
  | nil => rfl
  | cons a as ih =>
    calc
      without (firsts (a :: as)) bs
          = without [a] bs ++ without ((firsts as).filter fun b => !(a == b)) bs :=
            without_append [a] _ bs
      _ = without [a] bs ++ (without (firsts as) bs).filter fun b => !(a == b) := by
            rw [without, without, List.filter_filter, without, List.filter_filter]
            simp only [Bool.and_comm]
      _ = newcomers (a :: as) bs := by rw [ih, newcomers_cons]

theorem classOf_eq [EquivBEq α] {b : α} (h : (a == b) = true) : classOf a = classOf b := by
  ext c
  change (a == c) = true ↔ (b == c) = true
  rw [BEq.congr_left h]

theorem classOf_mem_classes [EquivBEq α] : classOf a ∈ classes as ↔ as.any (a == ·) = true := by
  rw [List.any_eq_true]
  constructor
  · rintro ⟨b, hb, hsame⟩
    have hmem : b ∈ classOf a := hsame ▸ (BEq.rfl : (b == b) = true)
    exact ⟨b, hb, hmem⟩
  · rintro ⟨b, hb, hab⟩
    exact ⟨b, hb, classOf_eq hab⟩

theorem without_firsts_eq_nil [EquivBEq α] : without (firsts as) bs = [] ↔ classes as ⊆ classes bs := by
  have hknown : without (firsts as) bs = [] ↔ ∀ a ∈ firsts as, classOf a ∈ classes bs := by
    simp [without, List.filter_eq_nil_iff, classOf_mem_classes]
  rw [hknown]
  constructor
  · rintro h c ⟨a, ha, rfl⟩
    obtain ⟨b, hb, hba⟩ := exists_mem_firsts ha
    rw [← classOf_eq hba]
    exact h b hb
  · intro h a ha
    exact h ⟨a, mem_of_mem_firsts ha, rfl⟩

theorem without_congr [EquivBEq α] (h : classes bs = classes bs') (as : List α) :
    without as bs = without as bs' := by
  refine List.filter_congr fun a _ => ?_
  congr 1
  rw [Bool.eq_iff_iff, ← classOf_mem_classes, h, classOf_mem_classes]

theorem without_firsts_without_append [EquivBEq α] (as bs : List α) :
    without (firsts (without (firsts as) bs ++ bs)) bs = without (firsts as) bs := by
  have hothers : ∀ b ∈ bs, bs.any (b == ·) = true := fun b hb => List.any_eq_true.2 ⟨b, hb, BEq.rfl⟩
  have hpairwise : (without (firsts as) bs).Pairwise fun a b => (a == b) = false :=
    (firsts_pairwise as).filter _
  rw [without_firsts_append hothers, firsts_of_pairwise hpairwise, without, without, List.filter_filter]
  simp only [Bool.and_self]

/-- Whether a difference is that of two lists. Each side has the elements that are new in one of them. They
change places with the lists; of the other list only its classes count; both sides are empty when the classes
are the same; and what is new is new still when it is compared once more. -/
structure Difference.IsOf (as bs : List α) (d : Difference α) : Prop where
  first : d.onlyInFirst = newcomers as bs
  second : d.onlyInSecond = newcomers bs as
  swapped : differences bs as = ⟨d.onlyInSecond, d.onlyInFirst⟩
  classed : ∀ bs', classes bs = classes bs' → (differences as bs').onlyInFirst = d.onlyInFirst
  settled : d.isEmpty = true ↔ classes as = classes bs
  repeated : (differences (d.onlyInFirst ++ bs) bs).onlyInFirst = d.onlyInFirst

/-- Whatever the elements are compared by, as long as it is an equivalence. -/
theorem differences_exact [EquivBEq α] (as bs : List α) : (differences as bs).IsOf as bs where
  first := without_firsts_eq_newcomers as bs
  second := without_firsts_eq_newcomers bs as
  swapped := differences_swap as bs
  classed bs' h := (without_congr h (firsts as)).symm
  settled := by
    rw [Difference.isEmpty, Bool.and_eq_true, List.isEmpty_iff, List.isEmpty_iff, Set.Subset.antisymm_iff]
    exact and_congr without_firsts_eq_nil without_firsts_eq_nil
  repeated := without_firsts_without_append as bs

theorem spellings_exact :
    let as : List RoleName := [⟨"OWNER"⟩, ⟨"Reader"⟩, ⟨"owner"⟩, ⟨"Ops"⟩, ⟨"OPS"⟩]
    let bs : List RoleName := [⟨"READER"⟩, ⟨"Guest"⟩, ⟨"guest"⟩]
    let bs' : List RoleName := [⟨"GUEST"⟩, ⟨"reader"⟩]
    classes bs = classes bs' ∧
      (differences as bs).onlyInFirst.map (·.text) = ["OWNER", "Ops"] ∧
      (differences as bs).onlyInSecond.map (·.text) = ["Guest"] ∧
      (differences as bs').onlyInFirst = (differences as bs).onlyInFirst := by
  intro as bs bs'
  have hexact := differences_exact as bs
  have hsame : classes bs = classes bs' := (differences_exact bs bs').settled.1 (by decide +kernel)
  refine ⟨hsame, ?_, ?_, hexact.classed bs' hsame⟩
  · rw [hexact.first]
    decide +kernel
  · rw [hexact.second]
    decide +kernel

end AccessBaseline
