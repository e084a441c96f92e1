import AccessBaseline.Access.Scope
import AccessBaseline.Proofs.Json.Printing
import AccessBaseline.Proofs.Json.Refusing

/-! The two ways of reading a scope. A text names a scope when it is the scope's name with the case of some
ASCII letters changed. It makes no difference whether the text is parsed, read from JSON or compared. -/
namespace AccessBaseline
open Json (Padded StringText decode decode_padded acceptsAs_of_decode stringText_renderString padded_text)
open Json.Reader (takes_text)

namespace Text

/-- Whether a character is another up to the case of an ASCII letter. -/
inductive Recased : Char → Char → Prop
  | same (c : Char) : Recased c c
  | lowered {c d : Char} (capital : c.isUpper = true) (shift : d.toNat = c.toNat + 32) : Recased c d
  | raised {c d : Char} (capital : d.isUpper = true) (shift : c.toNat = d.toNat + 32) : Recased c d

theorem isUpper_iff {c : Char} : c.isUpper = true ↔ 65 ≤ c.toNat ∧ c.toNat ≤ 90 := by
  change decide ('A'.val ≤ c.val ∧ c.val ≤ 'Z'.val) = true ↔ _
  rw [decide_eq_true_iff, UInt32.le_iff_toNat_le, UInt32.le_iff_toNat_le]
  rfl

theorem not_isUpper_of_shift {c d : Char} (hc : c.isUpper = true) (h : d.toNat = c.toNat + 32) :
    ¬d.isUpper = true := by
  rw [isUpper_iff] at hc ⊢
  omega

theorem toNat_toLower (c : Char) : c.toLower.toNat = if c.isUpper then c.toNat + 32 else c.toNat := by
  by_cases h : 'A'.val ≤ c.val ∧ c.val ≤ 'Z'.val
  · have hupper : c.isUpper = true := decide_eq_true h
    have hlower : c.toLower.val = c.val + 32 := congrArg Char.val (dif_pos h)
    have hsmall : c.toNat + 32 < 2 ^ 32 := by
      have hbounds := isUpper_iff.1 hupper
      omega
    rw [if_pos hupper, ← Char.toNat_val, hlower, UInt32.toNat_add, Char.toNat_val]
    exact Nat.mod_eq_of_lt hsmall
  · have hupper : ¬c.isUpper = true := mt of_decide_eq_true h
    have hlower : c.toLower = c := dif_neg h
    rw [if_neg hupper, hlower]

theorem toLower_eq_toLower {c d : Char} : c.toLower = d.toLower ↔ Recased c d := by
  rw [← Char.toNat_inj, toNat_toLower, toNat_toLower]
  constructor
  · intro h
    split at h
    · next hc =>
      split at h
      · rw [Char.toNat_inj.1 (Nat.add_right_cancel h)]
        exact .same d
      · exact .lowered hc h.symm
    · split at h
      · next hd => exact .raised hd h
      · rw [Char.toNat_inj.1 h]
        exact .same d
  · intro h
    cases h with
    | same => rfl
    | lowered capital shift => rw [if_pos capital, if_neg (not_isUpper_of_shift capital shift), shift]
    | raised capital shift => rw [if_pos capital, if_neg (not_isUpper_of_shift capital shift), shift]

theorem asciiLower_eq_asciiLower {s t : String} :
    asciiLower s = asciiLower t ↔ List.Forall₂ Recased s.toList t.toList := by
  have hlists : asciiLower s = asciiLower t ↔ s.toList.map Char.toLower = t.toList.map Char.toLower :=
    ⟨fun h => String.ofList_injective h, fun h => congrArg String.ofList h⟩
  rw [hlists, ← List.forall₂_eq_eq_eq, List.forall₂_map_left_iff, List.forall₂_map_right_iff]
  simp only [toLower_eq_toLower]

theorem Recased.ascii {c d : Char} (h : Recased c d) (hc : c.toNat < 128) : d.toNat < 128 := by
  cases h with
  | same => exact hc
  | lowered capital shift =>
    rw [isUpper_iff] at capital
    omega
  | raised capital shift => omega

end Text

namespace Scope
variable {s : String} {scope : Scope}

theorem ofText?_eq_some : ofText? s = some scope ↔ Text.asciiLower s = Text.asciiLower scope.name := by
  have hglobal : Text.asciiLower global.name = "global" := by decide +kernel
  have hcapability : Text.asciiLower capability.name = "capability" := by decide +kernel
  have haws : Text.asciiLower aws.name = "aws" := by decide +kernel
  have hazure : Text.asciiLower azure.name = "azure" := by decide +kernel
  unfold ofText?
  split <;> cases scope <;> simp_all

theorem covers_iff : scope.covers s = true ↔ ofText? s = some scope := by
  rw [ofText?_eq_some, covers, Text.sameUpToAsciiCase, beq_iff_eq, eq_comm]

theorem parse_eq_ok : parse s = .ok scope ↔ ofText? s = some scope := by
  unfold parse
  cases ofText? s <;> simp

theorem parse_eq_error {e : Failure} : parse s = .error e ↔ e = .unknownScope s ∧ ofText? s = none := by
  unfold parse
  cases ofText? s <;> simp [eq_comm]

theorem ofText?_eq_some_iff_recased :
    ofText? s = some scope ↔ List.Forall₂ Text.Recased scope.name.toList s.toList := by
  rw [ofText?_eq_some, eq_comm, Text.asciiLower_eq_asciiLower]

theorem ofText?_congr {s' : String} (h : List.Forall₂ Text.Recased s.toList s'.toList) :
    ofText? s' = ofText? s := by
  rw [ofText?, ofText?, Text.asciiLower_eq_asciiLower.2 h]

theorem ofText?_eq_none : ofText? s = none ↔ ∀ scope : Scope, scope.covers s = false := by
  simp only [Option.eq_none_iff_forall_ne_some, ne_eq, ← covers_iff, Bool.not_eq_true]

theorem decode_eq_ok {text : String} (h : Padded (StringText s) text) :
    decode reader text = .ok scope ↔ parse s = .ok scope := by
  have hmessage : (parse s).mapError Failure.message = .ok scope ↔ parse s = .ok scope := by
    cases parse s <;> simp [Except.mapError]
  constructor
  · intro hdecode
    obtain ⟨cs, htext, pre, rest, more, hpre, hrest, hread⟩ := acceptsAs_of_decode h hdecode
    obtain ⟨s', hs', haccept⟩ := Json.Reader.ok_of_accepted hread
    obtain rfl : s = s' := (takes_text htext).unique ⟨pre, rest, more, hpre, hrest, hs'⟩
    exact hmessage.1 haccept
  · intro hparse
    exact decode_padded (h.mono fun cs htext => (takes_text htext).accepted (hmessage.2 hparse))

theorem ascii_name (scope : Scope) : ∀ c ∈ scope.name.toList, c.toNat < 128 := by
  have hall : scope.name.toList.all (·.toNat < 128) = true := by cases scope <;> decide
  simpa using hall

/-- Whether all ways to read a text as a scope agree. -/
structure Readings (s : String) : Prop where
  parsed : ∀ scope : Scope, scope.covers s = true ↔ parse s = .ok scope
  decoded : ∀ (scope : Scope) text, Padded (StringText s) text →
    (scope.covers s = true ↔ decode reader text = .ok scope)
  spelled : ∀ scope : Scope,
    scope.covers s = true ↔ List.Forall₂ Text.Recased scope.name.toList s.toList
  single : ∀ scope scope' : Scope, scope.covers s = true → scope'.covers s = true → scope = scope'
  unread : ∀ e, parse s = .error e ↔ e = .unknownScope s ∧ ∀ scope : Scope, scope.covers s = false
  recased : ∀ s', List.Forall₂ Text.Recased s.toList s'.toList →
    ∀ scope, parse s' = .ok scope ↔ parse s = .ok scope
  ascii : ∀ scope : Scope, scope.covers s = true → ∀ c ∈ s.toList, c.toNat < 128

theorem readings (s : String) : Readings s where
  parsed scope := by rw [covers_iff, parse_eq_ok]
  decoded scope text htext := by rw [decode_eq_ok htext, covers_iff, parse_eq_ok]
  spelled scope := by rw [covers_iff, ofText?_eq_some_iff_recased]
  single scope scope' h h' := Option.some.inj ((covers_iff.1 h).symm.trans (covers_iff.1 h'))
  unread e := by rw [parse_eq_error, ofText?_eq_none]
  recased s' h scope := by rw [parse_eq_ok, parse_eq_ok, ofText?_congr h]
  ascii scope h c hc := by
    have hspelled := ofText?_eq_some_iff_recased.1 (covers_iff.1 h)
    obtain ⟨d, hd, hrecased⟩ := Json.exists_of_mem_right hspelled hc
    exact hrecased.ascii (ascii_name scope d hd)

/-- Every text is read alike in all ways, and a scope is read from what is written for it. -/
theorem readings_agree : (∀ s, Readings s) ∧
    ∀ scope : Scope, parse scope.name = .ok scope ∧ scope.covers scope.name = true ∧
      decode reader (Json.string scope.name).text = .ok scope := by
  refine ⟨readings, fun scope => ?_⟩
  have hparse : parse scope.name = .ok scope := parse_eq_ok.2 (ofText?_eq_some.2 rfl)
  refine ⟨hparse, ((readings _).parsed scope).2 hparse, ?_⟩
  exact (decode_eq_ok (padded_text (stringText_renderString scope.name))).2 hparse

theorem lookalikes_unread :
    parse "aZURE" = .ok azure ∧ azure.covers "aZURE" = true ∧
      parse "Capab\u0130lity" = .error (.unknownScope "Capab\u0130lity") ∧
      parse "Aw\u017F" = .error (.unknownScope "Aw\u017F") ∧
      ∀ scope : Scope, scope.covers "Capab\u0130lity" = false ∧ scope.covers "Aw\u017F" = false := by
  obtain ⟨hreadings, -⟩ := readings_agree
  have hazure : azure.covers "aZURE" = true := by decide +kernel
  have hunread {s : String} {c : Char} (hc : c ∈ s.toList) (hfar : ¬c.toNat < 128) (scope : Scope) :
      scope.covers s = false :=
    Bool.eq_false_iff.2 fun hcovers => hfar ((hreadings s).ascii scope hcovers c hc)
  have hdotted : ∀ scope : Scope, scope.covers "Capab\u0130lity" = false :=
    hunread (c := '\u0130') (by decide +kernel) (by decide)
  have hlong : ∀ scope : Scope, scope.covers "Aw\u017F" = false :=
    hunread (c := '\u017F') (by decide +kernel) (by decide)
  exact ⟨((hreadings _).parsed azure).1 hazure, hazure, ((hreadings _).unread _).2 ⟨rfl, hdotted⟩,
    ((hreadings _).unread _).2 ⟨rfl, hlong⟩, fun scope => ⟨hdotted scope, hlong scope⟩⟩

end Scope

end AccessBaseline
