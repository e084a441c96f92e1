import AccessBaseline.Proofs.Json.Container

/-! Skipping a value that nobody reads. Any value is skipped to its end, however deep it is, and there are
always enough steps for it. -/
namespace AccessBaseline.Json.Reader
variable {bracket : Bracket} {cs part : List Char} {parts : List (List Char)}

/-- Whether a text is skipped, inside any open brackets, in not more than two steps for a character. -/
def Skips (cs : List Char) : Prop :=
  ∃ n ≤ 2 * cs.length, ∀ fuel stack pre rest, Blank pre → Ends rest →
    skipOpen (fuel + n) .value stack (pre ++ (cs ++ rest)) = skipOpen fuel .filled stack rest

/-- Whether a part of a list or an object is skipped when the value in it is. -/
def SkipsPart (bracket : Bracket) (part : List Char) : Prop :=
  ∃ value, Skips value ∧ value.length ≤ part.length ∧ ∀ pre rest, Blank pre → ∃ post, Blank post ∧
    skipKey bracket (pre ++ (part ++ rest)) = (.ok (), post ++ (value ++ rest))

theorem SkipsPart.item (h : Skips part) : SkipsPart .list part :=
  ⟨part, h, Nat.le_refl _, fun pre _ hpre => ⟨pre, hpre, rfl⟩⟩

theorem skipStringBody_text {s : String} (h : StringText s cs) (rest : List Char) :
    ∃ body, cs = '"' :: body ∧ skipStringBody (body ++ rest) = (.ok (), rest) := by
  obtain ⟨body, rfl, hskip⟩ := skipString_text h rest
  exact ⟨body, rfl, by simp [skipStringBody, hskip]⟩

theorem SkipsPart.member {m : String × List Char} (hm : MemberText m part) (h : Skips m.2) :
    SkipsPart .object part := by
  obtain ⟨key, pre, post, hkey, hpre, hpost, rfl⟩ := hm
  refine ⟨m.2, h, ?_, fun before rest hbefore => ⟨post, hpost, ?_⟩⟩
  · simp only [List.length_append, List.length_cons]
    omega
  · obtain ⟨body, rfl, hbody⟩ := skipStringBody_text hkey (pre ++ ':' :: (post ++ (m.2 ++ rest)))
    simp only [List.append_assoc, List.cons_append]
    refine (bind_of_ok (peek?_blank hbefore (by decide) _)).trans ?_
    refine (bind_of_ok (drop1_cons '"' _)).trans ?_
    exact (bind_of_ok hbody).trans (colon_blank hpre _)

theorem closing_cases (bracket : Bracket) : bracket.closing = ']' ∨ bracket.closing = '\x7d' := by
  cases bracket <;> simp [Bracket.closing]

theorem closing_plain (bracket : Bracket) : isBlank bracket.closing = false ∧ bracket.closing ≠ ',' := by
  cases bracket <;> decide

theorem skipOpen_filled (h : Spaced bracket.closing false parts cs)
    (hparts : ∀ part ∈ parts, SkipsPart bracket part) :
    ∃ n < 2 * cs.length, ∀ fuel stack rest,
      skipOpen (fuel + n) .filled (bracket :: stack) (cs ++ rest) = skipOpen fuel .filled stack rest := by
  obtain ⟨hblank, hcomma⟩ := closing_plain bracket
  induction parts generalizing cs with
  | nil =>
    cases h with
    | @close _ pre blank =>
      refine ⟨1, by simp; omega, fun fuel stack rest => ?_⟩
      rw [List.append_assoc]
      refine (bind_of_ok (peek?_blank blank hblank rest)).trans ?_
      simp only [beq_iff_eq, hcomma, if_false, if_true]
      exact bind_of_ok (drop1_cons _ rest)
  | cons part parts ih =>
    cases h with
    | @next pre post _ more _ blank blank' after =>
      obtain ⟨value, ⟨n, hn, hskips⟩, hlength, hkey⟩ := hparts part List.mem_cons_self
      obtain ⟨m, hm, hlater⟩ := ih after fun p hp => hparts p (List.mem_cons_of_mem _ hp)
      refine ⟨m + n + 1, ?_, fun fuel stack rest => ?_⟩
      · simp only [List.length_append, List.length_cons]
        omega
      · obtain ⟨before, hbefore, hkey⟩ := hkey post (more ++ rest) blank'
        simp only [List.append_assoc, List.cons_append, ← Nat.add_assoc]
        refine (bind_of_ok (peek?_blank blank (by decide) _)).trans ?_
        refine (bind_of_ok (drop1_cons ',' _)).trans ?_
        refine (bind_of_ok hkey).trans ?_
        rw [hskips _ _ _ _ hbefore (after.ends (closing_cases bracket) rest), hlater]

theorem skipOpen_opened (h : Spaced bracket.closing true parts cs)
    (hparts : ∀ part ∈ parts, SkipsPart bracket part)
    (hheads : ∀ part ∈ parts, ∃ c body, part = c :: body ∧ isBlank c = false ∧ c ≠ bracket.closing) :
    ∃ n ≤ 2 * cs.length, ∀ fuel stack rest,
      skipOpen (fuel + n) .opened (bracket :: stack) (cs ++ rest) = skipOpen fuel .filled stack rest := by
  cases h with
  | @close _ pre blank =>
    refine ⟨1, by simp; omega, fun fuel stack rest => ?_⟩
    rw [List.append_assoc]
    refine (bind_of_ok (peek?_blank blank (closing_plain bracket).1 rest)).trans ?_
    simp only [beq_self_eq_true, if_true]
    exact bind_of_ok (drop1_cons _ rest)
  | @first pre part more parts blank after =>
    obtain ⟨value, ⟨n, hn, hskips⟩, hlength, hkey⟩ := hparts part List.mem_cons_self
    obtain ⟨c, body, rfl, hblank, hclose⟩ := hheads part List.mem_cons_self
    obtain ⟨m, hm, hlater⟩ := skipOpen_filled after fun p hp => hparts p (List.mem_cons_of_mem _ hp)
    refine ⟨m + n + 1, ?_, fun fuel stack rest => ?_⟩
    · simp only [List.length_append]
      omega
    · obtain ⟨before, hbefore, hkey⟩ := hkey [] (more ++ rest) blank_nil
      simp only [List.append_assoc, List.cons_append, ← Nat.add_assoc]
      refine (bind_of_ok (peek?_blank blank hblank _)).trans ?_
      simp only [beq_iff_eq, hclose, if_false]
      refine (bind_of_ok hkey).trans ?_
      rw [hskips _ _ _ _ hbefore (after.ends (closing_cases bracket) rest), hlater]

theorem skipOpen_blank {c : Char} {pre : List Char} (hpre : Blank pre) (hc : isBlank c = false)
    (fuel : Nat) (stack : List Bracket) (rest : List Char) :
    skipOpen (fuel + 1) .value stack (pre ++ c :: rest) = skipOpen (fuel + 1) .value stack (c :: rest) :=
  bind_congr ((peekValue_blank hpre hc rest).trans (peekValue_cons hc rest).symm)

theorem Skips.of_token {c : Char} {body : List Char} (hc : isBlank c = false)
    (h : ∀ fuel stack rest, Ends rest →
      skipOpen (fuel + 1) .value stack (c :: (body ++ rest)) = skipOpen fuel .filled stack rest) :
    Skips (c :: body) := by
  refine ⟨1, by simp; omega, fun fuel stack pre rest hpre hrest => ?_⟩
  rw [← h fuel stack rest hrest]
  exact skipOpen_blank hpre hc fuel stack _

theorem Skips.of_number (h : IsNumber cs) : Skips cs := by
  obtain ⟨sign, whole, fraction, exponent, hsign, hwhole, hfraction, hexponent, rfl⟩ := h
  have hskip (fuel : Nat) (stack : List Bracket) {rest : List Char} (hrest : Ends rest) :
      (do skipNumber; skipOpen fuel .filled stack : Reader Unit)
        (whole ++ (fraction ++ exponent) ++ rest) = skipOpen fuel .filled stack rest := by
    rw [List.append_assoc, List.append_assoc]
    exact bind_of_ok (skipNumber_text hwhole hfraction hexponent hrest)
  rcases hsign with rfl | rfl
  · obtain ⟨d, ds, rfl⟩ := List.exists_cons_of_ne_nil hwhole.1.1
    have hdigit : d.isDigit = true := hwhole.1.2 d List.mem_cons_self
    have hstarts : Starts d := by simp [Starts, hdigit]
    refine Skips.of_token hstarts.plain.1 fun fuel stack rest hrest => ?_
    refine (bind_of_ok (peekValue_cons hstarts.plain.1 _)).trans ?_
    refine eq_of_reader_eq ?_ (hskip fuel stack hrest)
    split <;> simp_all
  · refine Skips.of_token (by decide) fun fuel stack rest hrest => ?_
    refine (bind_of_ok (peekValue_cons (by decide) _)).trans ?_
    exact (bind_of_ok (drop1_cons '-' _)).trans (hskip fuel stack hrest)

theorem Skips.of_brackets {bracket : Bracket} {c : Char} {inner : List Char} (hc : isBlank c = false)
    (hopen : ∀ fuel stack rest, skipOpen (fuel + 1) .value stack (c :: rest) =
      skipOpen fuel .opened (bracket :: stack) rest)
    (h : Spaced bracket.closing true parts inner) (hparts : ∀ part ∈ parts, SkipsPart bracket part)
    (hheads : ∀ part ∈ parts, ∃ c body, part = c :: body ∧ isBlank c = false ∧ c ≠ bracket.closing) :
    Skips (c :: inner) := by
  obtain ⟨n, hn, hskip⟩ := skipOpen_opened h hparts hheads
  refine ⟨n + 1, by simp only [List.length_cons]; omega, fun fuel stack pre rest hpre hrest => ?_⟩
  rw [← hskip fuel stack rest, ← hopen]
  exact skipOpen_blank hpre hc (fuel + n) stack _

theorem skips_value (h : IsValue cs) : Skips cs := by
  induction h with
  | null => exact Skips.of_token (by decide) fun _ _ _ _ => rfl
  | bool b => cases b <;> exact Skips.of_token (by decide) fun _ _ _ _ => rfl
  | number h => exact Skips.of_number h
  | @string s cs h =>
    obtain ⟨body, rfl⟩ := h.head
    refine Skips.of_token (by decide) fun fuel stack rest _ => ?_
    obtain ⟨body', hbody, hskip⟩ := skipStringBody_text h rest
    cases hbody
    exact bind_of_ok hskip
  | @array items cs h values ih =>
    obtain ⟨inner, hinner, rfl⟩ := h
    refine @Skips.of_brackets _ .list '[' inner (by decide) (fun _ _ _ => rfl) hinner
      (fun item hitem => .item (ih item hitem)) fun item hitem => ?_
    obtain ⟨c, body, rfl, hc⟩ := (values item hitem).head
    exact ⟨c, body, rfl, hc.plain.1, hc.plain.2.1⟩
  | @object members cs h values ih =>
    obtain ⟨parts, inner, hparts, hinner, rfl⟩ := h
    refine @Skips.of_brackets _ .object '\x7b' inner (by decide) (fun _ _ _ => rfl) hinner
      (fun part hpart => ?_) fun part hpart => ?_
    · obtain ⟨m, hm, htext⟩ := exists_of_mem_right hparts hpart
      exact .member htext (ih m hm)
    · obtain ⟨m, -, key, pre, post, hkey, -, -, rfl⟩ := exists_of_mem_right hparts hpart
      obtain ⟨body, rfl⟩ := hkey.head
      exact ⟨'"', _, rfl, by decide, by decide⟩

theorem skipValue_value (h : IsValue cs) {pre rest : List Char} (hpre : Blank pre) (hrest : Ends rest) :
    skipValue (pre ++ (cs ++ rest)) = (.ok (), rest) := by
  obtain ⟨n, hn, hskip⟩ := skips_value h
  let more := 2 * ((pre ++ (cs ++ rest)).length + 1) - n
  have hfuel : 2 * ((pre ++ (cs ++ rest)).length + 1) = more + n := by
    simp only [more, List.length_append]
    omega
  have hmore : 0 < more := by
    simp only [more, List.length_append]
    omega
  refine (bind_of_ok (show fuel (pre ++ (cs ++ rest)) = (.ok _, _) from rfl)).trans ?_
  rw [hfuel, hskip more [] pre rest hpre hrest]
  obtain ⟨k, hk⟩ := Nat.exists_eq_add_one_of_ne_zero hmore.ne'
  rw [hk]
  rfl

end AccessBaseline.Json.Reader
