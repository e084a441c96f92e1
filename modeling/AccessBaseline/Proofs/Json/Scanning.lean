import AccessBaseline.Json.NumberReader
import AccessBaseline.Proofs.Json.Grammar
import Mathlib.Tactic.IntervalCases

/-! Scanning the tokens of JSON text: blanks, words, strings and numbers. A token is read to its end,
however its characters are written, and what follows it is left. -/
namespace AccessBaseline.Json

theorem blank_nil : Blank [] := fun _ h => by cases h

section Strings
variable {s : String} {c : Char} {n : Nat} {cs : List Char}

theorem HexText.exists_digits (h : HexText n cs) :
    ∃ w x y z a b c d, cs = [w, x, y, z] ∧ hexValue? w = some a ∧ hexValue? x = some b ∧
      hexValue? y = some c ∧ hexValue? z = some d ∧
      16 * (16 * (16 * a + b) + c) + d = n := by
  obtain ⟨a, b, c, d, hcs, rfl⟩ := h
  rcases cs with _ | ⟨w, _ | ⟨x, _ | ⟨y, _ | ⟨z, _ | ⟨v, cs⟩⟩⟩⟩⟩ <;> simp at hcs
  obtain ⟨hw, hx, hy, hz⟩ := hcs
  exact ⟨w, x, y, z, a, b, c, d, rfl, hw, hx, hy, hz, by omega⟩

theorem scanString_digits (h : HexText n cs) (lead : Option Nat) (rest : List Char) :
    scanString (.digits 0 0 lead) (cs ++ rest) =
      match lead with
      | none =>
        if isTrailSurrogate n then .error ⟨.loneSurrogate, .bytesLeft (byteCount rest)⟩
        else if isLeadSurrogate n then scanString (.second n) rest
        else (scanString .plain rest).map fun s => (Char.ofNat n :: s.1, s.2)
      | some m =>
        if isTrailSurrogate n then
          (scanString .plain rest).map fun s =>
            (Char.ofNat (0x10000 + (m - 0xD800) * 0x400 + (n - 0xDC00)) :: s.1, s.2)
        else .error ⟨.loneSurrogate, .bytesLeft (byteCount rest)⟩ := by
  obtain ⟨w, x, y, z, a, b, c, d, rfl, hw, hx, hy, hz, hn⟩ := h.exists_digits
  cases lead <;> simp [scanString, hw, hx, hy, hz, hn]

theorem skipString_digits (h : HexText n cs) (rest : List Char) :
    skipString .plain ('\\' :: 'u' :: (cs ++ rest)) = skipString .plain rest := by
  obtain ⟨w, x, y, z, a, b, c, d, rfl, hw, hx, hy, hz, -⟩ := h.exists_digits
  simp [skipString, hw, hx, hy, hz]

theorem not_surrogate (c : Char) :
    isTrailSurrogate c.toNat = false ∧ isLeadSurrogate c.toNat = false := by
  have hvalid : c.toNat < 0xD800 ∨ 0xDFFF < c.toNat ∧ c.toNat < 0x110000 := c.valid
  simp only [isTrailSurrogate, isLeadSurrogate, Bool.and_eq_false_iff, decide_eq_false_iff_not]
  omega

theorem scanString_char (h : CharText c cs) (rest : List Char) :
    scanString .plain (cs ++ rest) = (scanString .plain rest).map fun s => (c :: s.1, s.2) := by
  cases h with
  | plain quote backslash control =>
    have hcontrol : ¬c.toNat < 32 := by omega
    simp [scanString, quote, backslash, hcontrol]
  | @short d escape =>
    have hu : d ≠ 'u' := by
      rintro rfl
      cases escape
    simp [scanString, escape, hu]
  | @number cs digits =>
    have hescape : scanString .plain ('\\' :: 'u' :: cs ++ rest) =
        scanString (.digits 0 0 none) (cs ++ rest) := by simp [scanString]
    rw [hescape, scanString_digits digits]
    simp [not_surrogate c, Char.ofNat_toNat]
  | @pair m n cs ds digits digits' lead trail value =>
    have htrail : isTrailSurrogate m = false := by
      simp only [isLeadSurrogate, Bool.and_eq_true, decide_eq_true_eq] at lead
      simp only [isTrailSurrogate, Bool.and_eq_false_iff, decide_eq_false_iff_not]
      omega
    have hescape : scanString .plain ('\\' :: 'u' :: cs ++ '\\' :: 'u' :: ds ++ rest) =
        scanString (.digits 0 0 none) (cs ++ ('\\' :: 'u' :: ds ++ rest)) := by simp [scanString]
    have hsecond : scanString (.second m) ('\\' :: 'u' :: ds ++ rest) =
        scanString (.digits 0 0 (some m)) (ds ++ rest) := by simp [scanString]
    rw [hescape, scanString_digits digits]
    simp only [htrail, lead, Bool.false_eq_true, if_false, if_true]
    rw [hsecond, scanString_digits digits']
    simp only [trail, if_true, ← value, Char.ofNat_toNat]

theorem skipString_char (h : CharText c cs) (rest : List Char) :
    skipString .plain (cs ++ rest) = skipString .plain rest := by
  cases h with
  | plain quote backslash control =>
    have hcontrol : ¬c.toNat < 32 := by omega
    simp [skipString, quote, backslash, hcontrol]
  | @short d escape =>
    have hu : d ≠ 'u' := by
      rintro rfl
      cases escape
    simp [skipString, escape, hu]
  | @number cs digits => exact skipString_digits digits rest
  | @pair m n cs ds digits digits' lead trail value =>
    simp only [List.cons_append, List.append_assoc]
    rw [skipString_digits digits, skipString_digits digits']

theorem scanString_text (h : StringText s cs) (rest : List Char) :
    ∃ body, cs = '"' :: body ∧ scanString .plain (body ++ rest) = .ok (s.toList, rest) := by
  obtain ⟨parts, hparts, rfl⟩ := h
  refine ⟨_, rfl, ?_⟩
  generalize s.toList = chars at hparts
  induction hparts with
  | nil => simp [scanString]
  | @cons c part chars parts hc _ ih =>
    simp only [List.flatten_cons, List.append_assoc] at ih ⊢
    rw [scanString_char hc, ih]
    rfl

/-- No text is that of two strings. -/
theorem StringText.unique {t : String} (h : StringText s cs) (h' : StringText t cs) : s = t := by
  obtain ⟨body, rfl, hscan⟩ := scanString_text h []
  obtain ⟨_, heq, hscan'⟩ := scanString_text h' []
  cases heq
  rw [hscan] at hscan'
  injection hscan' with hpair
  exact String.toList_inj.1 (Prod.mk.inj hpair).1

theorem skipString_text (h : StringText s cs) (rest : List Char) :
    ∃ body, cs = '"' :: body ∧ skipString .plain (body ++ rest) = .ok rest := by
  obtain ⟨parts, hparts, rfl⟩ := h
  refine ⟨_, rfl, ?_⟩
  generalize s.toList = chars at hparts
  induction hparts with
  | nil => simp [skipString]
  | @cons c part chars parts hc _ ih =>
    simp only [List.flatten_cons, List.append_assoc] at ih ⊢
    rw [skipString_char hc, ih]

end Strings

namespace Reader
variable {α β : Type} {cs rest : List Char}

theorem bind_of_ok {r : Reader α} {f : α → Reader β} {a : α} (h : r cs = (.ok a, rest)) :
    (r >>= f) cs = f a rest := by
  change ExceptT.bindCont f (r cs).1 (r cs).2 = _
  rw [h]
  rfl

theorem ok_of_bind {r : Reader α} {f : α → Reader β} {b : β} (h : (r >>= f) cs = (.ok b, rest)) :
    ∃ a mid, r cs = (.ok a, mid) ∧ f a mid = (.ok b, rest) := by
  change ExceptT.bindCont f (r cs).1 (r cs).2 = _ at h
  cases hr : r cs with
  | mk a? mid =>
    rw [hr] at h
    cases a? with
    | ok a => exact ⟨a, mid, rfl, h⟩
    | error e => cases h

theorem bind_congr {r : Reader α} {f : α → Reader β} {ds : List Char} (h : r cs = r ds) :
    (r >>= f) cs = (r >>= f) ds := by
  change ExceptT.bindCont f (r cs).1 (r cs).2 = ExceptT.bindCont f (r ds).1 (r ds).2
  rw [h]

theorem map_of_ok {r : Reader α} {f : α → β} {a : α} (h : r cs = (.ok a, rest)) :
    (f <$> r) cs = (.ok (f a), rest) := by
  rw [← bind_pure_comp, bind_of_ok h]
  rfl

theorem eq_of_reader_eq {r s : Reader α} {x : Except Fault α × List Char} (h : r = s) (hs : s cs = x) :
    r cs = x := h ▸ hs

theorem drop1_cons (c : Char) (rest : List Char) : drop1 (c :: rest) = (.ok (), rest) := rfl

theorem next?_eq (cs : List Char) : next? cs = (.ok cs.head?, cs) := rfl

def Ends (rest : List Char) : Prop :=
  ∀ c ∈ rest.head?, c.isDigit = false ∧ c ≠ '.' ∧ c ≠ 'e' ∧ c ≠ 'E'

theorem ends_nil : Ends [] := fun _ h => by cases h

theorem ends_cons {c : Char} (h : isBlank c = true ∨ c = ',' ∨ c = ']' ∨ c = '\x7d') (rest : List Char) :
    Ends (c :: rest) := by
  intro d hd
  cases hd
  simp only [isBlank, Bool.or_eq_true, beq_iff_eq] at h
  rcases h with ((((rfl | rfl) | rfl) | rfl) | rfl | rfl | rfl) <;> decide

theorem ends_blank {pre : List Char} (h : Blank pre) (hrest : Ends rest) : Ends (pre ++ rest) := by
  cases pre with
  | nil => exact hrest
  | cons c pre => exact ends_cons (.inl (h c List.mem_cons_self)) _

section Numbers

theorem digits_append {ds : List Char} (hds : ∀ c ∈ ds, c.isDigit = true)
    (hrest : ∀ c ∈ rest.head?, c.isDigit = false) : digits (ds ++ rest) = (.ok ds, rest) := by
  have hspan : (ds ++ rest).takeWhile Char.isDigit = ds ∧ (ds ++ rest).dropWhile Char.isDigit = rest := by
    induction ds with
    | nil =>
      cases rest with
      | nil => exact ⟨rfl, rfl⟩
      | cons c rest => simp [hrest c rfl]
    | cons d ds ih =>
      have hlater := ih fun c hc => hds c (List.mem_cons_of_mem d hc)
      simp [hds d List.mem_cons_self, hlater]
  change (Except.ok _, _) = _
  rw [hspan.1, hspan.2]

theorem exponentSign_text {sign ds : List Char} (hsign : sign = [] ∨ sign = ['+'] ∨ sign = ['-'])
    (hds : Digits ds) (rest : List Char) :
    ∃ up, exponentSign (sign ++ (ds ++ rest)) = (.ok up, ds ++ rest) := by
  rcases hsign with rfl | rfl | rfl
  · obtain ⟨d, ds, rfl⟩ := List.exists_cons_of_ne_nil hds.1
    have hdigit : d.isDigit = true := hds.2 d List.mem_cons_self
    have hsign : d ≠ '+' ∧ d ≠ '-' := by
      constructor <;> rintro rfl <;> cases hdigit
    refine ⟨true, (bind_of_ok (next?_eq _)).trans ?_⟩
    refine eq_of_reader_eq (show _ = (pure true : Reader Bool) from ?_) rfl
    simp only [List.nil_append, List.cons_append, List.head?_cons]
    split <;> simp_all
  · exact ⟨true, rfl⟩
  · exact ⟨false, rfl⟩

theorem skipExponent_text {e : Char} {sign ds : List Char}
    (hsign : sign = [] ∨ sign = ['+'] ∨ sign = ['-']) (hds : Digits ds) (hrest : Ends rest) :
    skipExponent (e :: (sign ++ (ds ++ rest))) = (.ok (), rest) := by
  obtain ⟨up, hup⟩ := exponentSign_text hsign hds rest
  refine (bind_of_ok (drop1_cons e _)).trans ?_
  refine (bind_of_ok hup).trans ?_
  refine (bind_of_ok (digits_append hds.2 fun c hc => (hrest c hc).1)).trans ?_
  rw [if_neg (by simpa using hds.1)]
  rfl

theorem skipFraction_exponent {cs : List Char} (h : IsExponent cs) (hrest : Ends rest) :
    skipFraction (cs ++ rest) = (.ok (), rest) := by
  refine (bind_of_ok (next?_eq _)).trans ?_
  rcases h with rfl | ⟨e, sign, ds, he, hsign, hds, rfl⟩
  · refine eq_of_reader_eq (show _ = (pure () : Reader Unit) from ?_) rfl
    have hhead := fun c hc => hrest c hc
    rw [List.nil_append]
    split <;> simp_all
  · rcases he with rfl | rfl <;> simpa using skipExponent_text hsign hds hrest

theorem skipDecimals_text {cs ds : List Char} (hds : Digits ds) (h : IsExponent cs) (hrest : Ends rest) :
    skipDecimals ('.' :: (ds ++ (cs ++ rest))) = (.ok (), rest) := by
  have hend : ∀ c ∈ (cs ++ rest).head?, c.isDigit = false ∧ c ≠ '.' := by
    rcases h with rfl | ⟨e, sign, es, he, -, -, rfl⟩
    · exact fun c hc => ⟨(hrest c hc).1, (hrest c hc).2.1⟩
    · rintro c ⟨⟩
      rcases he with rfl | rfl <;> decide
  refine (bind_of_ok (drop1_cons '.' _)).trans ?_
  refine (bind_of_ok (digits_append hds.2 fun c hc => (hend c hc).1)).trans ?_
  rw [if_neg (by simpa using hds.1), ← skipFraction_exponent h hrest]
  refine (bind_of_ok (next?_eq _)).trans ((bind_of_ok (next?_eq _)).trans ?_).symm
  refine eq_of_reader_eq ?_ rfl
  generalize (cs ++ rest).head? = next at hend
  split <;> simp_all

theorem skipFraction_text {cs ds : List Char} (hf : IsFraction cs) (he : IsExponent ds) (hrest : Ends rest) :
    skipFraction (cs ++ (ds ++ rest)) = (.ok (), rest) := by
  rcases hf with rfl | ⟨fs, hfs, rfl⟩
  · exact skipFraction_exponent he hrest
  · exact (bind_of_ok (next?_eq _)).trans (skipDecimals_text hfs he hrest)

/-- A text that goes on a number behind its digits, if at all, with a fraction or an exponent. -/
theorem head_afterWhole {cs ds : List Char} (hf : IsFraction cs) (he : IsExponent ds) (hrest : Ends rest) :
    ∀ c ∈ (cs ++ (ds ++ rest)).head?, c.isDigit = false := by
  rcases hf with rfl | ⟨fs, -, rfl⟩
  · rcases he with rfl | ⟨e, sign, es, he, -, -, rfl⟩
    · exact fun c hc => (hrest c hc).1
    · rintro c ⟨⟩
      rcases he with rfl | rfl <;> rfl
  · rintro c ⟨⟩
    rfl

theorem skipNumber_text {whole cs ds : List Char} (hw : IsWhole whole) (hf : IsFraction cs)
    (he : IsExponent ds) (hrest : Ends rest) :
    skipNumber (whole ++ (cs ++ (ds ++ rest))) = (.ok (), rest) := by
  have hend := head_afterWhole hf he hrest
  have hskip := skipFraction_text hf he hrest
  generalize cs ++ (ds ++ rest) = more at hend hskip ⊢
  by_cases hzero : whole.head? = some '0'
  · obtain rfl := hw.2 hzero
    refine (bind_of_ok (next?_eq _)).trans ?_
    refine (bind_of_ok (drop1_cons '0' more)).trans ?_
    refine (bind_of_ok (next?_eq more)).trans ?_
    cases more with
    | nil =>
      cases hskip
      rfl
    | cons c more =>
      simp only [List.head?_cons, hend c rfl, Bool.false_eq_true, if_false]
      exact hskip
  · obtain ⟨d, ds, rfl⟩ := List.exists_cons_of_ne_nil hw.1.1
    have hdigits : (do if (← digits).isEmpty then failAhead .invalidNumber else skipFraction : Reader Unit)
        (d :: ds ++ more) = (.ok (), rest) := (bind_of_ok (digits_append hw.1.2 hend)).trans hskip
    refine (bind_of_ok (next?_eq _)).trans ?_
    refine eq_of_reader_eq ?_ hdigits
    split <;> simp_all

theorem number_text {positive : Bool} {ds : List Char} (h : IsWhole ds) (hrest : Ends rest) :
    number positive (ds ++ rest) = integerPart positive ds rest := by
  have hend : ∀ c ∈ rest.head?, c.isDigit = false := fun c hc => (hrest c hc).1
  by_cases hzero : ds.head? = some '0'
  · obtain rfl := h.2 hzero
    refine (bind_of_ok (next?_eq _)).trans ?_
    refine (bind_of_ok (drop1_cons '0' rest)).trans ?_
    refine (bind_of_ok (next?_eq rest)).trans ?_
    cases rest with
    | nil => rfl
    | cons c rest => simp only [List.head?_cons, hend c rfl, Bool.false_eq_true, if_false]
  · obtain ⟨d, ds, rfl⟩ := List.exists_cons_of_ne_nil h.1.1
    have hdigit : d.isDigit = true := h.1.2 d List.mem_cons_self
    have hdigits : (do integerPart positive (← digits) : Reader Json.Number) (d :: ds ++ rest) =
        integerPart positive (d :: ds) rest := bind_of_ok (digits_append h.1.2 hend)
    refine (bind_of_ok (next?_eq _)).trans ?_
    refine eq_of_reader_eq ?_ hdigits
    split <;> simp_all

theorem head_toDigits {n : Nat} (h : 0 < n) : (Nat.toDigits 10 n).head? ≠ some '0' := by
  induction n using Nat.strongRecOn with
  | ind n ih =>
    by_cases hsmall : n < 10
    · rw [Nat.toDigits_of_lt_base hsmall]
      interval_cases n <;> decide
    · rw [Nat.toDigits_of_base_le (by decide) (by omega), List.head?_append_of_ne_nil _ Nat.toDigits_ne_nil]
      exact ih (n / 10) (by omega) (by omega)

theorem isWhole_repr (n : Nat) : IsWhole n.repr.toList := by
  rw [Nat.toList_repr]
  refine ⟨⟨Nat.toDigits_ne_nil, fun c hc => Nat.isDigit_of_mem_toDigits (by decide) (by decide) hc⟩, ?_⟩
  intro hzero
  obtain rfl | hpos := Nat.eq_zero_or_pos n
  · rfl
  · exact (head_toDigits hpos hzero).elim

theorem le_ofDigitChars (ds : List Char) (n : Nat) : n ≤ Nat.ofDigitChars 10 ds n := by
  induction ds generalizing n with
  | nil => exact Nat.le_refl n
  | cons d ds ih =>
    rw [Nat.ofDigitChars_cons]
    have hlater := ih (10 * n + (d.toNat - '0'.toNat))
    omega

theorem absorb_eq {ds : List Char} {n : Nat} (h : Nat.ofDigitChars 10 ds n < wordEnd) :
    absorb n ds = (Nat.ofDigitChars 10 ds n, 0) := by
  induction ds generalizing n with
  | nil => rfl
  | cons d ds ih =>
    have hstep : n * 10 + (d.toNat - 48) = 10 * n + (d.toNat - '0'.toNat) := by
      rw [Nat.mul_comm]
      rfl
    rw [Nat.ofDigitChars_cons] at h ⊢
    have hbound := le_ofDigitChars ds (10 * n + (d.toNat - '0'.toNat))
    rw [absorb, hstep, if_neg (by omega), ih h]

theorem number_repr {n : Nat} (h : n < wordEnd) (hrest : Ends rest) (positive : Bool) :
    number positive (n.repr.toList ++ rest) =
      (if positive then pure (.integer n)
        else if n = 0 ∨ 0x8000000000000000 < n then fraction false n 0
        else pure (.integer (-n)) : Reader Json.Number) rest := by
  have habsorb : absorb 0 n.repr.toList = (n, 0) := by
    rw [Nat.toList_repr, absorb_eq] <;> rw [Nat.ofDigitChars_ten_toDigits]
    exact h
  rw [number_text (isWhole_repr n) hrest]
  unfold integerPart
  rw [habsorb]
  refine (bind_of_ok (next?_eq rest)).trans (eq_of_reader_eq ?_ rfl)
  generalize hnext : rest.head? = next
  have hhead : ∀ c ∈ next, c ≠ '.' ∧ c ≠ 'e' ∧ c ≠ 'E' := fun c hc => (hrest c (hnext ▸ hc)).2
  split <;> simp_all

end Numbers

end Reader

end AccessBaseline.Json
