import AccessBaseline.Proofs.Json.Gives
import AccessBaseline.Proofs.Json.Reading

/-! What readers refuse. A reader that accepts a value leaves just what follows it, so that a list or an
object is accepted only when all that is read in it is. -/
namespace AccessBaseline.Json

theorem IsValue.of_head {c : Char} {body : List Char} (h : IsValue (c :: body)) :
    (c = 'n' → body = ['u', 'l', 'l']) ∧ (c = 't' → body = ['r', 'u', 'e']) ∧
    (c = 'f' → body = ['a', 'l', 's', 'e']) ∧ (c = '"' → ∃ s, StringText s (c :: body)) ∧
    (c = '[' → ∃ items, ArrayText items (c :: body) ∧ ∀ item ∈ items, IsValue item) ∧
    (c = '\x7b' → ∃ members, ObjectText members (c :: body) ∧ ∀ m ∈ members, IsValue m.2) := by
  generalize hcs : c :: body = cs at h
  cases h with
  | null =>
    cases hcs
    simp
  | bool b => cases b <;> cases hcs <;> simp
  | number h =>
    obtain ⟨d, rest, rfl, hd⟩ := h.head
    cases hcs
    refine ⟨?_, ?_, ?_, ?_, ?_, ?_⟩ <;> rintro rfl <;> simp at hd
  | @string s _ h =>
    obtain ⟨rest, rfl⟩ := h.head
    cases hcs
    simpa using ⟨s, h⟩
  | @array items _ h values =>
    have harray := h
    obtain ⟨inner, -, rfl⟩ := h
    cases hcs
    simpa using ⟨items, harray, values⟩
  | @object members _ h values =>
    have hobject := h
    obtain ⟨parts, inner, -, -, rfl⟩ := h
    cases hcs
    simpa using ⟨members, hobject, fun k cs hm => values (k, cs) hm⟩

namespace Reader
variable {α β : Type} {pre cs rest more : List Char}

/-- Whether a reader, when it accepts a value, leaves just what follows it. -/
def Exact (r : Reader α) : Prop :=
  ∀ ⦃pre cs rest more : List Char⦄ ⦃a : α⦄, Blank pre → IsValue cs → Ends rest →
    r (pre ++ (cs ++ rest)) = (.ok a, more) → more = rest

/-- Whether a reader gives this for the text of a value in some place. -/
def AcceptsAs (r : Reader α) (cs : List Char) (a : α) : Prop :=
  ∃ pre rest more, Blank pre ∧ Ends rest ∧ r (pre ++ (cs ++ rest)) = (.ok a, more)

theorem Takes.unique {r : Reader α} {a b : α} (h : r.Takes cs a) (hb : r.AcceptsAs cs b) : a = b := by
  obtain ⟨pre, rest, more, hpre, hrest, hread⟩ := hb
  cases (h.reads pre rest hpre fun _ => hrest).symm.trans hread
  rfl

section Steps
variable {r : Reader α} {a : α}

theorem ok_of_map {f : α → β} {b : β} (h : (f <$> r) cs = (.ok b, rest)) :
    ∃ a, r cs = (.ok a, rest) ∧ f a = b := by
  rw [← bind_pure_comp] at h
  obtain ⟨a, mid, hr, hb⟩ := ok_of_bind h
  cases hb
  exact ⟨a, hr, rfl⟩

theorem ok_of_placed (h : placed r cs = (.ok a, rest)) : r cs = (.ok a, rest) := by
  unfold placed at h
  split at h
  · cases h
  · exact h

theorem ok_of_enclosed {body : Reader α} {close : Reader Unit} (h : enclosed body close cs = (.ok a, rest)) :
    ∃ mid, body cs = (.ok a, mid) ∧ close mid = (.ok (), rest) := by
  unfold enclosed at h
  cases hb : body cs with
  | mk x mid =>
    cases hc : close mid with
    | mk y rest' =>
      simp only [hb, hc] at h
      rcases x with e | b <;> rcases y with e' | u <;> cases h
      exact ⟨mid, rfl, hc⟩

theorem not_ok_of_wrongType (c : Char) (expected : String) (hr : r = wrongType c expected) :
    r cs ≠ (.ok a, rest) :=
  hr ▸ (gives_wrongType c expected : Gives (fun _ => False) _) cs a rest

theorem ok_of_peekValue {f : Char → Reader α} (hpre : Blank pre) (hvalue : IsValue cs)
    (h : (peekValue >>= f) (pre ++ (cs ++ rest)) = (.ok a, more)) :
    ∃ c body, cs = c :: body ∧ f c (c :: (body ++ rest)) = (.ok a, more) := by
  obtain ⟨c, body, rfl, hc⟩ := hvalue.head
  exact ⟨c, body, rfl, (bind_of_ok (peekValue_blank hpre hc.plain.1 _)).symm.trans h⟩

theorem Exact.map (h : r.Exact) (f : α → β) : (f <$> r).Exact := by
  intro pre cs rest more b hpre hvalue hrest hb
  obtain ⟨a, ha, -⟩ := ok_of_map hb
  exact h hpre hvalue hrest ha

theorem AcceptsAs.of_map {f : α → β} {b : β} (h : (f <$> r).AcceptsAs cs b) :
    ∃ a, r.AcceptsAs cs a ∧ f a = b := by
  obtain ⟨pre, rest, more, hpre, hrest, hb⟩ := h
  obtain ⟨a, ha, hfa⟩ := ok_of_map hb
  exact ⟨a, ⟨pre, rest, more, hpre, hrest, ha⟩, hfa⟩

theorem ok_of_accepted {accept : α → Except String β} {b : β} (h : accepted r accept cs = (.ok b, rest)) :
    ∃ a, r cs = (.ok a, rest) ∧ accept a = .ok b := by
  obtain ⟨a, mid, ha, hb⟩ := ok_of_bind h
  cases haccept : accept a with
  | ok b' =>
    rw [haccept] at hb
    cases hb
    exact ⟨a, ha, haccept⟩
  | error e =>
    rw [haccept] at hb
    cases hb

theorem Exact.accepted (h : r.Exact) (accept : α → Except String β) : (accepted r accept).Exact := by
  intro pre cs rest more b hpre hvalue hrest hb
  obtain ⟨a, ha, -⟩ := ok_of_accepted hb
  exact h hpre hvalue hrest ha

end Steps

section Scalars

theorem stringText_of_ok {s : String} (hpre : Blank pre) (hvalue : IsValue cs)
    (h : text (pre ++ (cs ++ rest)) = (.ok s, more)) : StringText s cs ∧ more = rest := by
  obtain ⟨c, body, rfl, hc⟩ := ok_of_peekValue hpre hvalue (ok_of_placed h)
  by_cases hquote : c = '"'
  · obtain ⟨t, ht⟩ := hvalue.of_head.2.2.2.1 hquote
    have htakes := (takes_text ht).reads pre rest hpre fun hnumber => by
      obtain ⟨d, _, heq, hd⟩ := hnumber.head
      cases heq
      simp [hquote] at hd
    cases htakes.symm.trans h
    exact ⟨ht, rfl⟩
  · exact (not_ok_of_wrongType c "a string" (by split <;> simp_all) hc).elim

theorem exact_text : text.Exact :=
  fun _ _ _ _ _ hpre hvalue _ h => (stringText_of_ok hpre hvalue h).2

theorem exact_bool : bool.Exact := by
  intro pre cs rest more b hpre hvalue _ h
  obtain ⟨c, body, rfl, hc⟩ := ok_of_peekValue hpre hvalue (ok_of_placed h)
  by_cases htrue : c = 't'
  · obtain rfl := hvalue.of_head.2.1 htrue
    subst htrue
    cases hc
    rfl
  · by_cases hfalse : c = 'f'
    · obtain rfl := hvalue.of_head.2.2.1 hfalse
      subst hfalse
      cases hc
      rfl
    · exact (not_ok_of_wrongType c "a boolean" (by split <;> simp_all) hc).elim

theorem exact_optional {r : Reader α} (hr : r.Exact) : (optional r).Exact := by
  intro pre cs rest more b hpre hvalue hrest h
  obtain ⟨c, body, rfl, hc⟩ := hvalue.head
  have hread := (bind_of_ok (peek?_blank hpre hc.plain.1 (body ++ rest))).symm.trans h
  by_cases hnull : c = 'n'
  · obtain rfl := hvalue.of_head.1 hnull
    subst hnull
    cases hread
    rfl
  · refine hr.map some blank_nil hvalue hrest (eq_of_reader_eq ?_ hread)
    split <;> simp_all

end Scalars

section Lists
variable {item : Reader α} {parts : List (List Char)}

/-- The items of a list are accepted one by one, up to the closing bracket. -/
theorem items_accepts (hitem : item.Exact) {first : Bool} (hs : Spaced ']' first parts cs)
    (hparts : ∀ part ∈ parts, IsValue part) {fuel : Nat} {as : List α}
    (h : items item fuel first (cs ++ rest) = (.ok as, more)) :
    more = ']' :: rest ∧ List.Forall₂ item.AcceptsAs parts as := by
  induction parts generalizing cs first fuel as with
  | nil =>
    cases hs with
    | close blank =>
      cases fuel with
      | zero => cases h
      | succ fuel =>
        rw [List.append_assoc] at h
        cases (bind_of_ok (nextItem_close blank first rest)).symm.trans h
        exact ⟨rfl, .nil⟩
  | cons part parts ih =>
    cases fuel with
    | zero => cases h
    | succ fuel =>
      obtain ⟨hpart, hparts⟩ := List.forall_mem_cons.1 hparts
      obtain ⟨after, hafter, hnext⟩ := nextItem_part hs hpart
      obtain ⟨a, mid, hread, h⟩ := ok_of_bind ((bind_of_ok (hnext rest)).symm.trans h)
      have hends := hafter.ends (.inl rfl) rest
      obtain rfl := hitem blank_nil hpart hends hread
      obtain ⟨as', has, rfl⟩ := ok_of_map h
      obtain ⟨hmore, haccepts⟩ := ih hafter hparts has
      exact ⟨hmore, .cons ⟨[], _, _, blank_nil, hends, hread⟩ haccepts⟩

theorem listOf_accepts (hitem : item.Exact) (harray : ArrayText parts cs)
    (hparts : ∀ part ∈ parts, IsValue part) {as : List α}
    (h : listOf item (cs ++ rest) = (.ok as, more)) :
    more = rest ∧ List.Forall₂ item.AcceptsAs parts as := by
  obtain ⟨inner, hinner, rfl⟩ := harray
  obtain ⟨mid, hbody, hclose⟩ := ok_of_enclosed ((bind_of_ok (drop1_cons '[' _)).symm.trans h)
  obtain ⟨n, mid', hn, hitems⟩ := ok_of_bind hbody
  cases hn
  obtain ⟨rfl, haccepts⟩ := items_accepts hitem hinner hparts hitems
  cases (closeList_bracket rest).symm.trans hclose
  exact ⟨rfl, haccepts⟩

theorem list_accepts (hitem : item.Exact) (hpre : Blank pre) (hvalue : IsValue cs) {as : List α}
    (h : list item (pre ++ (cs ++ rest)) = (.ok as, more)) :
    more = rest ∧ ∀ parts, ArrayText parts cs → (∀ part ∈ parts, IsValue part) →
      List.Forall₂ item.AcceptsAs parts as := by
  obtain ⟨c, body, rfl, hc⟩ := ok_of_peekValue hpre hvalue (ok_of_placed h)
  by_cases hbracket : c = '['
  · subst hbracket
    obtain ⟨parts, harray, hparts⟩ := hvalue.of_head.2.2.2.2.1 rfl
    refine ⟨(listOf_accepts hitem harray hparts hc).1, fun parts' harray' hparts' => ?_⟩
    exact (listOf_accepts hitem harray' hparts' hc).2
  · exact (not_ok_of_wrongType c "a sequence" (by split <;> simp_all) hc).elim

theorem exact_list (hitem : item.Exact) : (list item).Exact :=
  fun _ _ _ _ _ hpre hvalue _ h => (list_accepts hitem hpre hvalue h).1

theorem AcceptsAs.items {as : List α} (hitem : item.Exact) (harray : ArrayText parts cs)
    (hparts : ∀ part ∈ parts, IsValue part) (h : (list item).AcceptsAs cs as) :
    List.Forall₂ item.AcceptsAs parts as := by
  obtain ⟨pre, rest, more, hpre, -, has⟩ := h
  exact (list_accepts hitem hpre (.array harray hparts) has).2 parts harray hparts

end Lists

section Maps
variable {value : Reader α} {ms : List (String × List Char)} {parts : List (List Char)}

theorem members_ok (hread : value.Exact) (hmembers : List.Forall₂ MemberText ms parts)
    (hvalues : ∀ m ∈ ms, IsValue m.2) {first : Bool} (hs : Spaced '\x7d' first parts cs) {fuel : Nat}
    {as : List (String × α)} (h : members value fuel first (cs ++ rest) = (.ok as, more)) :
    more = '\x7d' :: rest := by
  induction hmembers generalizing cs first fuel as with
  | nil =>
    cases hs with
    | close blank =>
      cases fuel with
      | zero => cases h
      | succ fuel =>
        rw [List.append_assoc] at h
        cases (bind_of_ok (nextKey?_close blank first rest)).symm.trans h
        rfl
  | @cons m part ms parts hm _ ih =>
    cases fuel with
    | zero => cases h
    | succ fuel =>
      obtain ⟨hvalue, hvalues⟩ := List.forall_mem_cons.1 hvalues
      obtain ⟨after, hafter, hnext⟩ := nextKey?_member hs hm
      obtain ⟨mid, post, hkey, hpost, hcolon⟩ := hnext rest
      have h := (bind_of_ok hcolon).symm.trans ((bind_of_ok hkey).symm.trans h)
      obtain ⟨a, mid', ha, h⟩ := ok_of_bind h
      obtain rfl := hread hpost hvalue (hafter.ends (.inr rfl) rest) ha
      obtain ⟨as', has, -⟩ := ok_of_map h
      exact ih hvalues hafter has

theorem exact_map (hread : value.Exact) : (map value).Exact := by
  intro pre cs rest more as hpre hvalue _ h
  obtain ⟨c, body, rfl, hc⟩ := ok_of_peekValue hpre hvalue (ok_of_placed h)
  by_cases hbrace : c = '\x7b'
  · subst hbrace
    obtain ⟨ms, hobject, hvalues⟩ := hvalue.of_head.2.2.2.2.2 rfl
    obtain ⟨parts, inner, hparts, hinner, heq⟩ := hobject
    cases heq
    obtain ⟨as', mid, hmembers, hgive⟩ := ok_of_bind hc
    cases hgive
    obtain ⟨mid', hbody, hclose⟩ := ok_of_enclosed ((bind_of_ok (drop1_cons '\x7b' _)).symm.trans hmembers)
    obtain ⟨n, mid'', hn, hmembers⟩ := ok_of_bind hbody
    cases hn
    obtain rfl := members_ok hread hparts hvalues hinner hmembers
    cases (closeObject_brace rest).symm.trans hclose
    rfl
  · exact (not_ok_of_wrongType c "a map" (by split <;> simp_all) hc).elim

end Maps

end Reader

namespace Record
open Reader
variable {α : Type} {spec : Record α} {cs rest more : List Char} {parts : List (List Char)}

def Careful (spec : Record α) : Prop := ∀ f ∈ spec.fields, ∀ a, (f.read a).Exact

def namesRead (spec : Record α) (ms : List (String × List Char)) : List String :=
  ms.filterMap fun m => (spec.fields.find? (·.answersTo m.1)).map (·.name)

/-- What holds of the members of an object that was accepted, when the fields `seen` came before them: the
values of fields are accepted, no field is read twice, and no required one is missing. -/
structure AcceptsMembers (spec : Record α) (seen : List String) (ms : List (String × List Char)) : Prop where
  values : ∀ m ∈ ms, ∀ f, spec.fields.find? (·.answersTo m.1) = some f → ∃ a b, (f.read a).AcceptsAs m.2 b
  distinct : (spec.namesRead ms).Nodup
  fresh : ∀ name ∈ spec.namesRead ms, name ∉ seen
  complete : ∀ f ∈ spec.fields, f.isRequired = true → f.name ∈ seen ∨ f.name ∈ spec.namesRead ms

theorem readMembers_accepts (hspec : spec.Careful) {ms : List (String × List Char)}
    (hmembers : List.Forall₂ MemberText ms parts) (hvalues : ∀ m ∈ ms, IsValue m.2) {first : Bool}
    (hs : Spaced '\x7d' first parts cs) {fuel : Nat} {seen : List String} {a b : α}
    (h : spec.readMembers fuel first seen a (cs ++ rest) = (.ok b, more)) :
    more = '\x7d' :: rest ∧ spec.AcceptsMembers seen ms := by
  induction hmembers generalizing cs first fuel seen a with
  | nil =>
    cases hs with
    | close blank =>
      cases fuel with
      | zero => cases h
      | succ fuel =>
        rw [List.append_assoc] at h
        have h := (bind_of_ok (nextKey?_close blank first rest)).symm.trans h
        cases hmissing : spec.missing? seen with
        | none =>
          rw [hmissing] at h
          cases h
          refine ⟨rfl, by simp, .nil, by simp [namesRead], fun f hf hrequired => ?_⟩
          rw [missing?, Option.map_eq_none_iff, List.find?_eq_none] at hmissing
          simpa [namesRead, hrequired] using hmissing f hf
        | some name =>
          rw [hmissing] at h
          cases h
  | @cons m part ms parts hm _ ih =>
    cases fuel with
    | zero => cases h
    | succ fuel =>
      obtain ⟨hvalue, hvalues⟩ := List.forall_mem_cons.1 hvalues
      obtain ⟨after, hafter, hnext⟩ := nextKey?_member hs hm
      obtain ⟨mid, post, hkey, hpost, hcolon⟩ := hnext rest
      have hends := hafter.ends (.inr rfl) rest
      have h := (bind_of_ok hkey).symm.trans h
      -- A member that is no field is skipped; a field is read when its name is not among those seen.
      cases hfind : spec.fields.find? (·.answersTo m.1) with
      | none =>
        simp only [hfind] at h
        have hskip := skipValue_value hvalue hpost hends
        have h := (bind_of_ok hskip).symm.trans ((bind_of_ok hcolon).symm.trans h)
        obtain ⟨hmore, haccepts⟩ := ih hvalues hafter h
        have hnames : spec.namesRead (m :: ms) = spec.namesRead ms := by simp [namesRead, hfind]
        refine ⟨hmore, List.forall_mem_cons.2 ⟨fun f hf => ?_, haccepts.values⟩, ?_, ?_, ?_⟩
        · rw [hfind] at hf
          cases hf
        all_goals rw [hnames]
        · exact haccepts.distinct
        · exact haccepts.fresh
        · exact haccepts.complete
      | some f =>
        simp only [hfind] at h
        by_cases hseen : seen.contains f.name = true
        · rw [if_pos hseen] at h
          cases h
        · rw [if_neg hseen] at h
          obtain ⟨a', mid', ha, h⟩ := ok_of_bind ((bind_of_ok hcolon).symm.trans h)
          obtain rfl := hspec f (List.mem_of_find?_eq_some hfind) a hpost hvalue hends ha
          obtain ⟨hmore, haccepts⟩ := ih hvalues hafter h
          have hnames : spec.namesRead (m :: ms) = f.name :: spec.namesRead ms := by simp [namesRead, hfind]
          refine ⟨hmore, List.forall_mem_cons.2 ⟨fun g hg => ?_, haccepts.values⟩, ?_, ?_,
            fun g hg hrequired => ?_⟩
          · rw [hfind] at hg
            cases hg
            exact ⟨a, a', post, _, _, hpost, hends, ha⟩
          all_goals rw [hnames]
          · have hnew : f.name ∉ spec.namesRead ms := fun hmem => haccepts.fresh _ hmem List.mem_cons_self
            exact List.nodup_cons.2 ⟨hnew, haccepts.distinct⟩
          · refine List.forall_mem_cons.2 ⟨by simpa using hseen, fun name hname => ?_⟩
            exact fun hmem => haccepts.fresh name hname (List.mem_cons_of_mem _ hmem)
          · have hcomplete := haccepts.complete g hg hrequired
            rw [List.mem_cons] at hcomplete ⊢
            tauto

theorem readItems_ok {fields : List (Field α)} (hspec : ∀ f ∈ fields, ∀ a, (f.read a).Exact)
    (hparts : ∀ part ∈ parts, IsValue part) {first : Bool} (hs : Spaced ']' first parts cs) {index : Nat}
    {a b : α} (h : spec.readItems fields index first a (cs ++ rest) = (.ok b, more)) :
    ∃ first' parts' after, Spaced ']' first' parts' after ∧ (∀ part ∈ parts', IsValue part) ∧
      more = after ++ rest := by
  induction fields generalizing cs first parts index a with
  | nil =>
    cases h
    exact ⟨first, parts, cs, hs, hparts, rfl⟩
  | cons f fields ih =>
    obtain ⟨hf, hspec⟩ := List.forall_mem_cons.1 hspec
    cases parts with
    | nil =>
      cases hs with
      | close blank =>
        rw [List.append_assoc] at h
        have h := (bind_of_ok (nextItem_close blank first rest)).symm.trans h
        simp only [Bool.false_eq_true, if_false] at h
        by_cases hrequired : f.isRequired = true
        · rw [if_pos hrequired] at h
          cases h
        · rw [if_neg hrequired] at h
          exact ih hspec (by simp) (.close blank_nil) h
    | cons part parts =>
      obtain ⟨hpart, hparts⟩ := List.forall_mem_cons.1 hparts
      obtain ⟨after, hafter, hnext⟩ := nextItem_part hs hpart
      obtain ⟨a', mid, ha, h⟩ := ok_of_bind ((bind_of_ok (hnext rest)).symm.trans h)
      obtain rfl := hf a blank_nil hpart (hafter.ends (.inl rfl) rest) ha
      exact ih hspec hparts hafter h

theorem closeList_ok (hparts : ∀ part ∈ parts, IsValue part) {first : Bool}
    (hs : Spaced ']' first parts cs) (h : closeList (cs ++ rest) = (.ok (), more)) : more = rest := by
  cases hs with
  | close blank =>
    rw [List.append_assoc] at h
    cases (bind_of_ok (peek?_blank blank (by decide) rest)).symm.trans h
    rfl
  | @first pre part after parts blank rest' =>
    obtain ⟨c, body, rfl, hc⟩ := (hparts part List.mem_cons_self).head
    rw [List.append_assoc] at h
    have h := (bind_of_ok (peek?_blank blank hc.plain.1 _)).symm.trans h
    have hfail : (failAhead .trailingCharacters : Reader Unit) (c :: (body ++ after ++ rest)) =
        (.ok (), more) := by
      refine eq_of_reader_eq ?_ h
      have hplain := hc.plain
      split <;> simp_all
    cases hfail
  | @next pre post part after parts blank blank' rest' =>
    rw [List.append_assoc] at h
    have h := (bind_of_ok (drop1_cons ',' _)).symm.trans
      ((bind_of_ok (peek?_blank blank (by decide) _)).symm.trans h)
    obtain ⟨c, mid, -, h⟩ := ok_of_bind h
    by_cases hc : c = some ']'
    · subst hc
      cases h
    · have hfail : (failAhead .trailingCharacters : Reader Unit) mid = (.ok (), more) :=
        eq_of_reader_eq (by split <;> simp_all) h
      cases hfail

theorem reader_accepts (hspec : spec.Careful) {pre : List Char} {a : α} (hpre : Blank pre)
    (hvalue : IsValue cs) (h : spec.reader (pre ++ (cs ++ rest)) = (.ok a, more)) :
    more = rest ∧ ∀ ms, ObjectText ms cs → (∀ m ∈ ms, IsValue m.2) → spec.AcceptsMembers [] ms := by
  obtain ⟨c, body, rfl, hc⟩ := ok_of_peekValue hpre hvalue (ok_of_placed h)
  by_cases hbracket : c = '['
  · subst hbracket
    obtain ⟨parts, harray, hparts⟩ := hvalue.of_head.2.2.2.2.1 rfl
    obtain ⟨inner, hinner, heq⟩ := harray
    cases heq
    obtain ⟨mid, hbody, hclose⟩ := ok_of_enclosed ((bind_of_ok (drop1_cons '[' _)).symm.trans hc)
    obtain ⟨first, parts', after, hafter, hparts', rfl⟩ := readItems_ok hspec hparts hinner hbody
    refine ⟨closeList_ok hparts' hafter hclose, fun ms hobject => ?_⟩
    obtain ⟨parts'', inner', -, -, heq⟩ := hobject
    cases heq
  · by_cases hbrace : c = '\x7b'
    · subst hbrace
      have hmembers (ms : List (String × List Char)) (hobject : ObjectText ms ('\x7b' :: body))
          (hvalues : ∀ m ∈ ms, IsValue m.2) : more = rest ∧ spec.AcceptsMembers [] ms := by
        obtain ⟨parts, inner, hparts, hinner, heq⟩ := hobject
        cases heq
        obtain ⟨mid, hbody, hclose⟩ := ok_of_enclosed ((bind_of_ok (drop1_cons '\x7b' _)).symm.trans hc)
        obtain ⟨n, mid', hn, hread⟩ := ok_of_bind hbody
        cases hn
        obtain ⟨rfl, haccepts⟩ := readMembers_accepts hspec hparts hvalues hinner hread
        cases (closeObject_brace rest).symm.trans hclose
        exact ⟨rfl, haccepts⟩
      obtain ⟨ms, hobject, hvalues⟩ := hvalue.of_head.2.2.2.2.2 rfl
      exact ⟨(hmembers ms hobject hvalues).1, fun ms hobject hvalues => (hmembers ms hobject hvalues).2⟩
    · exact (not_ok_of_wrongType c spec.expected (by split <;> simp_all) hc).elim

theorem exact_reader (hspec : spec.Careful) : spec.reader.Exact :=
  fun _ _ _ _ _ hpre hvalue _ h => (reader_accepts hspec hpre hvalue h).1

end Record

/-- Whether a text is that of an object with a member of this key whose value has such a text. -/
def HasMember (key : String) (IsText : List Char → Prop) (cs : List Char) : Prop :=
  ∃ members, ObjectText members cs ∧ (∀ m ∈ members, IsValue m.2) ∧
    ∃ text, (key, text) ∈ members ∧ IsText text

def HasItem (IsText : List Char → Prop) (cs : List Char) : Prop :=
  ∃ items, ArrayText items cs ∧ (∀ item ∈ items, IsValue item) ∧ ∃ item ∈ items, IsText item

theorem HasMember.isValue {key : String} {IsText : List Char → Prop} {cs : List Char}
    (h : HasMember key IsText cs) : IsValue cs := by
  obtain ⟨members, hobject, hvalues, -⟩ := h
  exact .object hobject hvalues

theorem HasItem.isValue {IsText : List Char → Prop} {cs : List Char} (h : HasItem IsText cs) :
    IsValue cs := by
  obtain ⟨items, harray, hvalues, -⟩ := h
  exact .array harray hvalues

section Refusals
variable {α β : Type} {P : List Char → Prop}

def Reader.Refuses (r : Reader α) (P : List Char → Prop) : Prop :=
  ∀ ⦃cs : List Char⦄ ⦃a : α⦄, IsValue cs → P cs → ¬r.AcceptsAs cs a

theorem Reader.refuses_text : text.Refuses fun cs => ∀ s, ¬StringText s cs := by
  rintro cs s hvalue hother ⟨pre, rest, more, hpre, -, hread⟩
  exact hother s (stringText_of_ok hpre hvalue hread).1

theorem Reader.Refuses.map {r : Reader α} (h : r.Refuses P) (f : α → β) : (f <$> r).Refuses P := by
  intro cs b hvalue hP hb
  obtain ⟨a, ha, -⟩ := hb.of_map
  exact h hvalue hP ha

theorem Reader.Refuses.list {r : Reader α} (hexact : r.Exact) (h : r.Refuses P) :
    (list r).Refuses (HasItem P) := by
  rintro cs as - ⟨items, harray, hvalues, item, hitem, hP⟩ haccepts
  obtain ⟨a, -, ha⟩ := exists_of_mem_right (haccepts.items hexact harray hvalues).flip hitem
  exact h (hvalues item hitem) hP ha

theorem Record.refuses_member {spec : Record α} (hspec : spec.Careful) {key : String} {f : Field α}
    (hfind : spec.fields.find? (·.answersTo key) = some f) (h : ∀ a, (f.read a).Refuses P) :
    spec.reader.Refuses (HasMember key P) := by
  rintro cs a hvalue ⟨members, hobject, hvalues, value, hmem, hP⟩ ⟨pre, rest, more, hpre, -, hread⟩
  have hmembers := (reader_accepts hspec hpre hvalue hread).2 members hobject hvalues
  obtain ⟨before, after, haccepts⟩ := hmembers.values _ hmem f hfind
  exact h before (hvalues _ hmem) hP haccepts

end Refusals

section Decoding
variable {α : Type} {r : Reader α} {a : α} {IsText : List Char → Prop} {text : String}

theorem acceptsAs_of_decode (h : Padded IsText text) (hdecode : decode r text = .ok a) :
    ∃ cs, IsText cs ∧ r.AcceptsAs cs a := by
  obtain ⟨pre, cs, post, hpre, hcs, hpost, htext⟩ := h
  obtain ⟨mid, _, hread, -⟩ := reads_of_decode hdecode
  have hends := Reader.ends_blank hpost Reader.ends_nil
  rw [List.append_nil] at hends
  rw [htext] at hread
  exact ⟨cs, hcs, pre, post, mid, hpre, hends, hread⟩

theorem exists_error_of_refuses (h : Padded IsText text) (hvalue : ∀ cs, IsText cs → IsValue cs)
    (hrefuses : r.Refuses IsText) : ∃ e, decode r text = .error e := by
  cases hdecode : decode r text with
  | error e => exact ⟨e, rfl⟩
  | ok a =>
    obtain ⟨cs, htext, haccepts⟩ := acceptsAs_of_decode h hdecode
    exact (hrefuses (hvalue cs htext) htext haccepts).elim

theorem mem_of_decode {as : List α} (hexact : r.Exact) (h : Padded (HasItem IsText) text)
    (htakes : ∀ cs, IsText cs → r.Takes cs a) (hdecode : decode (.list r) text = .ok as) : a ∈ as := by
  obtain ⟨cs, ⟨items, harray, hvalues, item, hitem, htext⟩, haccepts⟩ := acceptsAs_of_decode h hdecode
  have hflip := (haccepts.items hexact harray hvalues).flip
  obtain ⟨b, hb, hread⟩ := exists_of_mem_right hflip hitem
  exact (htakes item htext).unique hread ▸ hb

end Decoding

end AccessBaseline.Json
