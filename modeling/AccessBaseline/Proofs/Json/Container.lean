import AccessBaseline.Json.Container
import AccessBaseline.Proofs.Json.Scanning

/-! The brackets and commas of lists and objects, with blanks around them, and the skipping of values of any
depth. -/
namespace AccessBaseline.Json

def Starts (c : Char) : Prop :=
  c = 'n' ∨ c = 't' ∨ c = 'f' ∨ c = '-' ∨ c = '"' ∨ c = '[' ∨ c = '\x7b' ∨ c.isDigit = true

theorem Starts.plain {c : Char} (h : Starts c) :
    Reader.isBlank c = false ∧ c ≠ ']' ∧ c ≠ '\x7d' ∧ c ≠ ',' := by
  rcases h with rfl | rfl | rfl | rfl | rfl | rfl | rfl | hdigit
  case inr.inr.inr.inr.inr.inr.inr =>
    have hne {d : Char} (hd : d.isDigit = false) : c ≠ d := by
      rintro rfl
      simp [hd] at hdigit
    simp [Reader.isBlank, hne]
  all_goals decide

theorem IsNumber.head {cs : List Char} (h : IsNumber cs) :
    ∃ c rest, cs = c :: rest ∧ (c = '-' ∨ c.isDigit = true) := by
  obtain ⟨sign, whole, fraction, exponent, hsign, hwhole, -, -, rfl⟩ := h
  rcases hsign with rfl | rfl
  · obtain ⟨d, ds, rfl⟩ := List.exists_cons_of_ne_nil hwhole.1.1
    exact ⟨d, _, rfl, .inr (hwhole.1.2 d List.mem_cons_self)⟩
  · exact ⟨'-', _, rfl, .inl rfl⟩

theorem StringText.head {s : String} {cs : List Char} (h : StringText s cs) : ∃ rest, cs = '"' :: rest := by
  obtain ⟨parts, -, rfl⟩ := h
  exact ⟨_, rfl⟩

theorem IsValue.head {cs : List Char} (h : IsValue cs) : ∃ c rest, cs = c :: rest ∧ Starts c := by
  cases h with
  | null => exact ⟨_, _, rfl, by simp [Starts]⟩
  | bool b => cases b <;> exact ⟨_, _, rfl, by simp [Starts]⟩
  | number h =>
    obtain ⟨c, rest, rfl, hc⟩ := h.head
    exact ⟨c, rest, rfl, by rcases hc with hc | hc <;> simp [Starts, hc]⟩
  | string h =>
    obtain ⟨rest, rfl⟩ := h.head
    exact ⟨_, _, rfl, by simp [Starts]⟩
  | array h =>
    obtain ⟨inner, -, rfl⟩ := h
    exact ⟨_, _, rfl, by simp [Starts]⟩
  | object h =>
    obtain ⟨parts, inner, -, -, rfl⟩ := h
    exact ⟨_, _, rfl, by simp [Starts]⟩

theorem exists_of_mem_right {α β : Type} {R : α → β → Prop} {as : List α} {bs : List β} {b : β}
    (h : List.Forall₂ R as bs) (hb : b ∈ bs) : ∃ a ∈ as, R a b := by
  induction h with
  | nil => cases hb
  | @cons a _ as bs ha _ ih =>
    rcases List.mem_cons.1 hb with rfl | hb
    · exact ⟨a, List.mem_cons_self, ha⟩
    · obtain ⟨a', hmem, ha'⟩ := ih hb
      exact ⟨a', List.mem_cons_of_mem a hmem, ha'⟩

namespace Spaced
variable {close : Char} {first : Bool} {parts : List (List Char)} {cs : List Char}

/-- Each part but the first has a comma before it. -/
theorem length_lt (h : Spaced close false parts cs) : parts.length < cs.length := by
  induction parts generalizing cs with
  | nil =>
    cases h
    simp
  | cons part parts ih =>
    cases h with
    | next _ _ rest =>
      have hlater := ih rest
      simp only [List.length_append, List.length_cons]
      omega

theorem length_le (h : Spaced close first parts cs) : parts.length ≤ cs.length := by
  cases h with
  | close => simp
  | first _ rest =>
    have hlater := rest.length_lt
    simp only [List.length_append, List.length_cons]
    omega
  | next blank blank' rest => exact (Spaced.next blank blank' rest).length_lt.le

theorem ends (h : Spaced close false parts cs) (hclose : close = ']' ∨ close = '\x7d') (rest : List Char) :
    Reader.Ends (cs ++ rest) := by
  cases h with
  | close blank =>
    rw [List.append_assoc]
    exact Reader.ends_blank blank (Reader.ends_cons (.inr (.inr hclose)) _)
  | next blank =>
    rw [List.append_assoc]
    exact Reader.ends_blank blank (Reader.ends_cons (.inr (.inl rfl)) _)

end Spaced

namespace Reader
variable {first : Bool} {pre part cs : List Char} {parts : List (List Char)}

theorem peek?_blank {c : Char} (hpre : Blank pre) (hc : isBlank c = false) (rest : List Char) :
    peek? (pre ++ c :: rest) = (.ok (some c), c :: rest) := by
  have hdrop : (pre ++ c :: rest).dropWhile isBlank = c :: rest := by
    rw [List.dropWhile_append_of_pos hpre, List.dropWhile_cons, hc]
    rfl
  change (Except.ok ((pre ++ c :: rest).dropWhile isBlank).head?, (pre ++ c :: rest).dropWhile isBlank) = _
  rw [hdrop]
  rfl

theorem peekValue_blank {c : Char} (hpre : Blank pre) (hc : isBlank c = false) (rest : List Char) :
    peekValue (pre ++ c :: rest) = (.ok c, c :: rest) :=
  bind_of_ok (peek?_blank hpre hc rest)

theorem peekValue_cons {c : Char} (hc : isBlank c = false) (rest : List Char) :
    peekValue (c :: rest) = (.ok c, c :: rest) :=
  peekValue_blank blank_nil hc rest

theorem nextItem_close (hpre : Blank pre) (first : Bool) (rest : List Char) :
    nextItem first (pre ++ ']' :: rest) = (.ok false, ']' :: rest) :=
  bind_of_ok (peek?_blank hpre (by decide) rest)

theorem nextItem_part (h : Spaced ']' first (part :: parts) cs) (hpart : IsValue part) :
    ∃ more, Spaced ']' false parts more ∧
      ∀ rest, nextItem first (cs ++ rest) = (.ok true, part ++ (more ++ rest)) := by
  obtain ⟨c, body, rfl, hc⟩ := hpart.head
  obtain ⟨hblank, hclose, -, -⟩ := hc.plain
  cases h with
  | @first pre _ more _ blank after =>
    refine ⟨more, after, fun rest => ?_⟩
    simp only [List.append_assoc, List.cons_append]
    refine (bind_of_ok (peek?_blank blank hblank _)).trans ?_
    refine eq_of_reader_eq (show _ = (pure true : Reader Bool) from ?_) rfl
    split <;> simp_all
  | @next pre post _ more _ blank blank' after =>
    refine ⟨more, after, fun rest => ?_⟩
    simp only [List.append_assoc, List.cons_append]
    refine (bind_of_ok (peek?_blank blank (by decide) _)).trans ?_
    refine (bind_of_ok (drop1_cons ',' _)).trans ?_
    refine (bind_of_ok (peek?_blank blank' hblank _)).trans ?_
    refine eq_of_reader_eq (show _ = (pure true : Reader Bool) from ?_) rfl
    split <;> simp_all

theorem closeList_bracket (rest : List Char) : closeList (']' :: rest) = (.ok (), rest) :=
  bind_of_ok (peek?_blank blank_nil (by decide) rest)

theorem closeObject_brace (rest : List Char) : closeObject ('\x7d' :: rest) = (.ok (), rest) :=
  bind_of_ok (peek?_blank blank_nil (by decide) rest)

theorem colon_blank (hpre : Blank pre) (rest : List Char) : colon (pre ++ ':' :: rest) = (.ok (), rest) :=
  bind_of_ok (peek?_blank hpre (by decide) rest)

theorem stringBody_text {s : String} {body rest : List Char}
    (h : scanString .plain (body ++ rest) = .ok (s.toList, rest)) :
    stringBody (body ++ rest) = (.ok s, rest) := by
  simp [stringBody, h]

theorem nextKey?_close (hpre : Blank pre) (first : Bool) (rest : List Char) :
    nextKey? first (pre ++ '\x7d' :: rest) = (.ok none, '\x7d' :: rest) :=
  bind_of_ok (peek?_blank hpre (by decide) rest)

/-- Before a value, its key and the colon are read. -/
theorem nextKey?_member {m : String × List Char} (h : Spaced '\x7d' first (part :: parts) cs)
    (hm : MemberText m part) :
    ∃ more, Spaced '\x7d' false parts more ∧ ∀ rest, ∃ mid post,
      nextKey? first (cs ++ rest) = (.ok (some m.1), mid) ∧ Blank post ∧
        colon mid = (.ok (), post ++ (m.2 ++ (more ++ rest))) := by
  obtain ⟨key, pre, post, hkey, hpre, hpost, rfl⟩ := hm
  have hbody (rest : List Char) :
      (do drop1; some <$> stringBody : Reader (Option String)) (key ++ rest) = (.ok (some m.1), rest) := by
    obtain ⟨body, rfl, hscan⟩ := scanString_text hkey rest
    exact (bind_of_ok (drop1_cons '"' _)).trans (map_of_ok (stringBody_text hscan))
  obtain ⟨body, rfl⟩ := hkey.head
  cases h with
  | @first before _ more _ blank after =>
    refine ⟨more, after, fun rest => ⟨pre ++ ':' :: (post ++ (m.2 ++ (more ++ rest))), post, ?_, hpost,
      colon_blank hpre _⟩⟩
    simp only [List.append_assoc, List.cons_append]
    exact (bind_of_ok (peek?_blank blank (by decide) _)).trans (hbody _)
  | @next before behind _ more _ blank blank' after =>
    refine ⟨more, after, fun rest => ⟨pre ++ ':' :: (post ++ (m.2 ++ (more ++ rest))), post, ?_, hpost,
      colon_blank hpre _⟩⟩
    simp only [List.append_assoc, List.cons_append]
    refine (bind_of_ok (peek?_blank blank (by decide) _)).trans ?_
    refine (bind_of_ok (drop1_cons ',' _)).trans ?_
    exact (bind_of_ok (peek?_blank blank' (by decide) _)).trans (hbody _)

end Reader

end AccessBaseline.Json
