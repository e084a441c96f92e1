/-! Tables kept in the order of their keys, which for strings is that of their UTF-8 bytes. -/
namespace AccessBaseline

abbrev KeyTable (α : Type) := List (String × α)

namespace KeyTable

variable {α : Type}

/-- Puts what `f` makes of the entry under a key in that entry's place. -/
def alter (key : String) (f : Option α → α) : KeyTable α → KeyTable α
  | [] => [(key, f none)]
  | (k, a) :: rest =>
    if key = k then (k, f (some a)) :: rest
    else if key < k then (key, f none) :: (k, a) :: rest
    else (k, a) :: alter key f rest

def values (table : KeyTable α) : List α := table.map (·.2)

theorem mem_keys_alter {key k : String} {f : Option α → α} {table : KeyTable α} :
    k ∈ (table.alter key f).map (·.1) ↔ k = key ∨ k ∈ table.map (·.1) := by
  induction table with
  | nil => simp [alter]
  | cons e rest ih =>
    obtain ⟨k', a⟩ := e
    simp only [alter]
    split
    · next h => simp [h]
    · split
      · simp
      · simp only [List.map_cons, List.mem_cons, ih]
        exact or_left_comm

theorem lookup_eq_none {key : String} {table : KeyTable α} (h : ∀ e ∈ table, key ≠ e.1) :
    table.lookup key = none := by
  induction table with
  | nil => rfl
  | cons e rest ih =>
    have hne : (key == e.1) = false := by simpa using h e (by simp)
    rw [List.lookup_cons, hne]
    exact ih fun e he => h e (by simp [he])

theorem lookup_alter (key k : String) (f : Option α → α) (table : KeyTable α)
    (h : table.Pairwise (·.1 < ·.1)) :
    (table.alter key f).lookup k = if k = key then some (f (table.lookup key)) else table.lookup k := by
  induction table with
  | nil => by_cases hk : k = key <;> simp [alter, List.lookup_cons, hk, beq_eq_false_iff_ne.2]
  | cons e rest ih =>
    obtain ⟨k', a⟩ := e
    obtain ⟨hhead, htail⟩ := List.pairwise_cons.1 h
    simp only [alter]
    split
    · next he =>
      subst he
      by_cases hk : k = key <;> simp [List.lookup_cons, hk, beq_eq_false_iff_ne.2]
    · next he =>
      have he' : (key == k') = false := beq_eq_false_iff_ne.2 he
      split
      · next hlt =>
        have hnone : List.lookup key rest = none := lookup_eq_none fun e hm hkey =>
          String.lt_irrefl _ (String.lt_trans hlt (hkey ▸ hhead e hm))
        by_cases hk : k = key
        · simp [List.lookup_cons, hk, he', hnone]
        · simp [List.lookup_cons, hk, beq_eq_false_iff_ne.2]
      · rw [List.lookup_cons, ih htail, List.lookup_cons, List.lookup_cons, he']
        by_cases hk : k = k'
        · have hkk : ¬ k' = key := fun hc => he hc.symm
          simp [hk, hkk]
        · simp [beq_eq_false_iff_ne.2 hk]

end KeyTable

end AccessBaseline
