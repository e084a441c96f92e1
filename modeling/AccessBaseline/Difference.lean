/-! The two one-sided differences of lists, up to an equality that may be coarser than identity.
Each side keeps its own order, and of equal elements the first. -/
namespace AccessBaseline

variable {α : Type} [BEq α]

/-- The elements that equal none before them. -/
def firsts : List α → List α
  | [] => []
  | a :: as => a :: (firsts as).filter fun b => !(a == b)

def without (as bs : List α) : List α := as.filter fun a => !bs.any (a == ·)

structure Difference (α : Type) where
  onlyInFirst : List α
  onlyInSecond : List α

def Difference.isEmpty (d : Difference α) : Bool :=
  d.onlyInFirst.isEmpty && d.onlyInSecond.isEmpty

def differences (as bs : List α) : Difference α where
  onlyInFirst := without (firsts as) bs
  onlyInSecond := without (firsts bs) as

theorem differences_swap (as bs : List α) :
    differences bs as = ⟨(differences as bs).onlyInSecond, (differences as bs).onlyInFirst⟩ := rfl

theorem mem_of_mem_firsts {a : α} {as : List α} (h : a ∈ firsts as) : a ∈ as := by
  induction as with
  | nil => exact h
  | cons b bs ih =>
    simp only [firsts, List.mem_cons, List.mem_filter] at h ⊢
    exact h.imp_right fun h => ih h.1

end AccessBaseline
