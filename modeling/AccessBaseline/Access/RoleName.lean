import AccessBaseline.Text.Lowercase

/-! Role names. Two names are equal when their lower-case keys are; the spelling is kept for
messages and for creating the role. -/
namespace AccessBaseline

structure RoleName where
  text : String

namespace RoleName

def key (name : RoleName) : String := Text.lowercase name.text

instance : BEq RoleName := ⟨fun a b => a.key == b.key⟩

theorem beq_iff (a b : RoleName) : (a == b) = true ↔ a.key = b.key := by
  simp [BEq.beq]

instance : EquivBEq RoleName where
  rfl := by simp [beq_iff]
  symm h := by simp_all [beq_iff]
  trans h₁ h₂ := by simp_all [beq_iff]

end RoleName

end AccessBaseline
