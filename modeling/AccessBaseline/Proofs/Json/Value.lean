import AccessBaseline.Json.Document
import AccessBaseline.Proofs.Json.Reading

/-! Reading JSON values of any shape. From any text of a value that is not too deep just this value is read,
with the members of its objects in their order and with their repetitions. -/
namespace AccessBaseline.Json

namespace Written
variable {v : Json} {cs : List Char}

theorem isNumber_integer (n : Int) : IsNumber (toString n).toList := by
  rw [Int.toString_eq_repr, Int.repr_eq_if]
  split
  · exact ⟨[], n.toNat.repr.toList, [], [], .inl rfl, Reader.isWhole_repr _, .inl rfl, .inl rfl, by simp⟩
  · exact ⟨['-'], (-n).toNat.repr.toList, [], [], .inr rfl, Reader.isWhole_repr _, .inl rfl, .inl rfl, by simp⟩

theorem isValue (h : Written v cs) : IsValue cs := by
  induction h with
  | null => exact .null
  | bool b => exact .bool b
  | integer => exact .number (isNumber_integer _)
  | string h => exact .string h
  | array h _ ih =>
    refine .array h fun item hitem => ?_
    obtain ⟨item, hmem, rfl⟩ := List.mem_map.1 hitem
    exact ih item hmem
  | object h _ ih =>
    refine .object h fun m hm => ?_
    obtain ⟨m, hmem, rfl⟩ := List.mem_map.1 hm
    exact ih m hmem

theorem not_isNumber (h : Written v cs) (hv : ∀ n, v ≠ .number n) : ¬IsNumber cs := by
  intro hnumber
  obtain ⟨c, rest, hcs, hc⟩ := hnumber.head
  have hne : c ≠ 'n' ∧ c ≠ 't' ∧ c ≠ 'f' ∧ c ≠ '"' ∧ c ≠ '[' ∧ c ≠ '\x7b' := by
    rcases hc with rfl | hdigit
    · decide
    · refine ⟨?_, ?_, ?_, ?_, ?_, ?_⟩ <;> rintro rfl <;> cases hdigit
  cases h with
  | null =>
    cases hcs
    exact hne.1 rfl
  | bool b =>
    cases b <;> cases hcs
    · exact hne.2.2.1 rfl
    · exact hne.2.1 rfl
  | integer => exact hv _ rfl
  | string h =>
    obtain ⟨body, rfl⟩ := h.head
    cases hcs
    exact hne.2.2.2.1 rfl
  | array h =>
    obtain ⟨inner, -, rfl⟩ := h
    cases hcs
    exact hne.2.2.2.2.1 rfl
  | object h =>
    obtain ⟨parts, inner, -, -, rfl⟩ := h
    cases hcs
    exact hne.2.2.2.2.2 rfl

end Written

theorem depth_le_items {v : Json} {items : List Json} (h : v ∈ items) : depth v ≤ depthItems items := by
  induction items with
  | nil => cases h
  | cons item items ih =>
    rw [depthItems]
    rcases List.mem_cons.1 h with rfl | h
    · exact Nat.le_max_left _ _
    · exact (ih h).trans (Nat.le_max_right _ _)

theorem depth_le_members {m : String × Json} {members : List (String × Json)} (h : m ∈ members) :
    depth m.2 ≤ depthMembers members := by
  induction members with
  | nil => cases h
  | cons m' members ih =>
    rw [depthMembers]
    rcases List.mem_cons.1 h with rfl | h
    · exact Nat.le_max_left _ _
    · exact (ih h).trans (Nat.le_max_right _ _)

namespace Reader
variable {cs : List Char}

theorem valueOver_digit {c : Char} {pre : List Char} (hpre : Blank pre) (hc : c.isDigit = true)
    (inner : Option (Reader Json)) (rest : List Char) :
    valueOver inner (pre ++ c :: rest) = (Json.number <$> number true) (c :: rest) := by
  have hstarts : Starts c := by simp [Starts, hc]
  refine (bind_of_ok (peekValue_blank hpre hstarts.plain.1 rest)).trans (eq_of_reader_eq ?_ rfl)
  split <;> simp_all

theorem valueOver_minus {pre : List Char} (hpre : Blank pre) (inner : Option (Reader Json))
    (rest : List Char) : valueOver inner (pre ++ '-' :: rest) = (Json.number <$> number false) rest := by
  refine (bind_of_ok (peekValue_blank hpre (by decide) rest)).trans ?_
  exact bind_of_ok (drop1_cons '-' rest)

theorem takes_integer {n : Int} (hlower : -0x8000000000000000 ≤ n) (hupper : n < 0x10000000000000000)
    (inner : Option (Reader Json)) :
    (valueOver inner).Takes (toString n).toList (.number (.integer n)) where
  isValue := .number (Written.isNumber_integer n)
  reads pre rest hpre hrest := by
    have hrest := hrest (Written.isNumber_integer n)
    rw [Int.toString_eq_repr, Int.repr_eq_if]
    split
    · next hpos =>
      have hread := @number_repr rest n.toNat (by simp only [wordEnd]; omega) hrest true
      have hwhole := isWhole_repr n.toNat
      obtain ⟨d, ds, hds⟩ := List.exists_cons_of_ne_nil hwhole.1.1
      rw [hds] at hread hwhole ⊢
      refine (valueOver_digit hpre (hwhole.1.2 d List.mem_cons_self) inner _).trans ?_
      refine (map_of_ok hread).trans ?_
      rw [Int.toNat_of_nonneg hpos]
    · next hneg =>
      have hread := @number_repr rest (-n).toNat (by simp only [wordEnd]; omega) hrest false
      have hnonzero : ¬((-n).toNat = 0 ∨ 0x8000000000000000 < (-n).toNat) := by omega
      have hneg : -((-n).toNat : Int) = n := by omega
      rw [if_neg (by decide), if_neg hnonzero, hneg] at hread
      rw [String.toList_append]
      exact (valueOver_minus hpre inner _).trans (map_of_ok hread)

theorem value_eq_valueOver (d : Nat) : ∃ inner, value d = valueOver inner := by
  cases d <;> exact ⟨_, rfl⟩

theorem takes_value {v : Json} (h : Written v cs) {d : Nat} (hd : depth v ≤ d) : (value d).Takes cs v := by
  induction h generalizing d with
  | null =>
    obtain ⟨inner, hinner⟩ := value_eq_valueOver d
    rw [hinner]
    exact Takes.of_peek .null fun _ _ => rfl
  | bool b =>
    obtain ⟨inner, hinner⟩ := value_eq_valueOver d
    rw [hinner]
    cases b with
    | false => exact Takes.of_peek (show IsValue (boolText false) from .bool false) fun _ _ => rfl
    | true => exact Takes.of_peek (show IsValue (boolText true) from .bool true) fun _ _ => rfl
  | integer lower upper =>
    obtain ⟨inner, hinner⟩ := value_eq_valueOver d
    rw [hinner]
    exact takes_integer lower upper inner
  | @string s cs h =>
    obtain ⟨inner, hinner⟩ := value_eq_valueOver d
    obtain ⟨body, rfl⟩ := h.head
    rw [hinner]
    refine Takes.of_peek (.string h) fun rest _ => ?_
    obtain ⟨_, heq, hscan⟩ := scanString_text h rest
    cases heq
    exact (bind_of_ok (drop1_cons '"' _)).trans (map_of_ok (stringBody_text hscan))
  | @array items cs h values ih =>
    have hvalue : IsValue cs := (Written.array h values).isValue
    obtain ⟨d, rfl⟩ : ∃ k, d = k + 1 := ⟨d - 1, by rw [depth] at hd; omega⟩
    have hitems : List.Forall₂ (value d).Takes (items.map (·.2)) (items.map (·.1)) := by
      refine List.forall₂_map_left_iff.2 (List.forall₂_map_right_iff.2 (List.forall₂_same.2 fun item hitem => ?_))
      have hdepth : depth item.1 ≤ depthItems (items.map (·.1)) := depth_le_items (List.mem_map_of_mem hitem)
      refine ih item hitem ?_
      rw [depth] at hd
      omega
    have hlist := listOf_array hitems h
    obtain ⟨inner, -, rfl⟩ := h
    exact Takes.of_peek hvalue fun rest _ => map_of_ok (hlist rest)
  | @object members cs h values ih =>
    have hvalue : IsValue cs := (Written.object h values).isValue
    obtain ⟨d, rfl⟩ : ∃ k, d = k + 1 := ⟨d - 1, by rw [depth] at hd; omega⟩
    have hmembers : List.Forall₂ (value d).TakesMember (members.map fun m => (m.1, m.2.2))
        (members.map fun m => (m.1, m.2.1)) := by
      refine List.forall₂_map_left_iff.2 (List.forall₂_map_right_iff.2 (List.forall₂_same.2 fun m hm => ?_))
      have hdepth : depth m.2.1 ≤ depthMembers (members.map fun m => (m.1, m.2.1)) :=
        @depth_le_members (m.1, m.2.1) _ (List.mem_map_of_mem hm)
      refine ⟨rfl, ih m hm ?_⟩
      rw [depth] at hd
      omega
    have hobject := membersOf_object hmembers h
    obtain ⟨parts, inner, -, -, rfl⟩ := h
    exact Takes.of_peek hvalue fun rest _ => map_of_ok (hobject rest)

end Reader

end AccessBaseline.Json
