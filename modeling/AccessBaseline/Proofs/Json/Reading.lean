import AccessBaseline.Json.Shape
import AccessBaseline.Proofs.Json.Skipping

/-! Reading values of a fixed shape from any text of them. Each reader takes the text of its value up to the
end, whatever blanks stand in it, and leaves what follows. -/
namespace AccessBaseline.Json

namespace Reader
variable {α β : Type} {cs rest : List Char}

/-- Whether a reader takes the text of a value for `a`, with any blanks before it and whatever follows. Only
a number could go on in what follows. -/
structure Takes (r : Reader α) (cs : List Char) (a : α) : Prop where
  isValue : IsValue cs
  reads : ∀ pre rest, Blank pre → (IsNumber cs → Ends rest) → r (pre ++ (cs ++ rest)) = (.ok a, rest)

namespace Takes
variable {r : Reader α} {a : α}

theorem map (h : r.Takes cs a) (f : α → β) : (f <$> r).Takes cs (f a) where
  isValue := h.isValue
  reads pre rest hpre hrest := map_of_ok (h.reads pre rest hpre hrest)

theorem accepted {accept : α → Except String β} {b : β} (h : r.Takes cs a) (hb : accept a = .ok b) :
    (accepted r accept).Takes cs b where
  isValue := h.isValue
  reads pre rest hpre hrest := by
    refine (bind_of_ok (h.reads pre rest hpre hrest)).trans ?_
    rw [hb]
    rfl

theorem placed (h : r.Takes cs a) : (placed r).Takes cs a where
  isValue := h.isValue
  reads pre rest hpre hrest := by simp [Reader.placed, h.reads pre rest hpre hrest]

theorem of_peek {f : Char → Reader α} {c : Char} {body : List Char} (hvalue : IsValue (c :: body))
    (h : ∀ rest, (IsNumber (c :: body) → Ends rest) → f c (c :: (body ++ rest)) = (.ok a, rest)) :
    (peekValue >>= f).Takes (c :: body) a where
  isValue := hvalue
  reads pre rest hpre hrest := by
    obtain ⟨_, _, heq, hstarts⟩ := hvalue.head
    cases heq
    exact (bind_of_ok (peekValue_blank hpre hstarts.plain.1 _)).trans (h rest hrest)

end Takes

theorem takes_string {s : String} (h : StringText s cs) (expected : String) :
    (string expected).Takes cs s := by
  obtain ⟨body, rfl⟩ := h.head
  refine Takes.placed (Takes.of_peek (.string h) fun rest _ => ?_)
  obtain ⟨_, heq, hscan⟩ := scanString_text h rest
  cases heq
  exact (bind_of_ok (drop1_cons '"' _)).trans (stringBody_text hscan)

theorem takes_text {s : String} (h : StringText s cs) : text.Takes cs s := takes_string h _

theorem takes_bool (b : Bool) : bool.Takes (boolText b) b := by
  cases b with
  | false => exact Takes.placed (Takes.of_peek (show IsValue (boolText false) from .bool false) fun _ _ => rfl)
  | true => exact Takes.placed (Takes.of_peek (show IsValue (boolText true) from .bool true) fun _ _ => rfl)

theorem takes_optional_null (r : Reader α) : (optional r).Takes ['n', 'u', 'l', 'l'] none where
  isValue := .null
  reads _ _ hpre _ := bind_of_ok (peek?_blank hpre (by decide) _)

theorem takes_optional {r : Reader α} {a : α} (h : r.Takes cs a) (hnull : cs.head? ≠ some 'n') :
    (optional r).Takes cs (some a) where
  isValue := h.isValue
  reads pre rest hpre hrest := by
    have hreads := map_of_ok (f := some) (h.reads [] rest blank_nil hrest)
    obtain ⟨c, body, rfl, hstarts⟩ := h.isValue.head
    refine (bind_of_ok (peek?_blank hpre hstarts.plain.1 _)).trans ?_
    refine eq_of_reader_eq ?_ hreads
    split <;> simp_all

theorem enclosed_of_ok {body : Reader α} {close : Reader Unit} {a : α} {mid : List Char}
    (hbody : body cs = (.ok a, mid)) (hclose : close mid = (.ok (), rest)) :
    enclosed body close cs = (.ok a, rest) := by
  simp [enclosed, hbody, hclose]

/-- The length of the text is more than enough fuel for its parts. -/
theorem fuel_spaced {close : Char} {first : Bool} {parts : List (List Char)} {inner : List Char}
    (hs : Spaced close first parts inner) {f : Nat → Reader α} {answer : Except Fault α × List Char}
    (h : ∀ n, parts.length < n → f n (inner ++ rest) = answer) : (fuel >>= f) (inner ++ rest) = answer := by
  have hlength := hs.length_le
  refine (bind_of_ok (show fuel (inner ++ rest) = (.ok _, _) from rfl)).trans (h _ ?_)
  simp only [List.length_append]
  omega

section Lists
variable {item : Reader α} {parts : List (List Char)} {as : List α}

theorem items_spaced (h : List.Forall₂ item.Takes parts as) {first : Bool} (hs : Spaced ']' first parts cs)
    {fuel : Nat} (hfuel : parts.length < fuel) (rest : List Char) :
    items item fuel first (cs ++ rest) = (.ok as, ']' :: rest) := by
  induction h generalizing fuel first cs with
  | nil =>
    obtain ⟨fuel, rfl⟩ := Nat.exists_eq_add_one_of_ne_zero (Nat.ne_zero_of_lt hfuel)
    cases hs with
    | close blank =>
      rw [List.append_assoc]
      exact bind_of_ok (nextItem_close blank first rest)
  | @cons part a parts as ha _ ih =>
    obtain ⟨fuel, rfl⟩ := Nat.exists_eq_add_one_of_ne_zero (Nat.ne_zero_of_lt hfuel)
    obtain ⟨more, hmore, hnext⟩ := nextItem_part hs ha.isValue
    have hread := ha.reads [] (more ++ rest) blank_nil fun _ => hmore.ends (.inl rfl) rest
    refine (bind_of_ok (hnext rest)).trans ?_
    refine (bind_of_ok hread).trans ?_
    exact map_of_ok (ih hmore (Nat.lt_of_succ_lt_succ hfuel))

theorem isValue_of_takes (h : List.Forall₂ item.Takes parts as) : ∀ part ∈ parts, IsValue part := by
  induction h with
  | nil => simp
  | cons ha _ ih => exact List.forall_mem_cons.2 ⟨ha.isValue, ih⟩

theorem listOf_array (h : List.Forall₂ item.Takes parts as) (harray : ArrayText parts cs)
    (rest : List Char) : listOf item (cs ++ rest) = (.ok as, rest) := by
  obtain ⟨inner, hinner, rfl⟩ := harray
  have hbody : (do items item (← fuel) true : Reader (List α)) (inner ++ rest) = (.ok as, ']' :: rest) :=
    fuel_spaced hinner fun _ hfuel => items_spaced h hinner hfuel rest
  exact (bind_of_ok (drop1_cons '[' _)).trans (enclosed_of_ok hbody (closeList_bracket rest))

theorem takes_list (h : List.Forall₂ item.Takes parts as) (harray : ArrayText parts cs) :
    (list item).Takes cs as := by
  have hlist := listOf_array h harray
  have hvalue : IsValue cs := .array harray (isValue_of_takes h)
  obtain ⟨inner, -, rfl⟩ := harray
  exact Takes.placed (Takes.of_peek hvalue fun rest _ => hlist rest)

end Lists

section Maps
variable {value : Reader α} {ms : List (String × List Char)} {as : List (String × α)}
  {parts : List (List Char)}

def TakesMember (value : Reader α) (m : String × List Char) (a : String × α) : Prop :=
  m.1 = a.1 ∧ value.Takes m.2 a.2

theorem members_spaced (h : List.Forall₂ value.TakesMember ms as) (hparts : List.Forall₂ MemberText ms parts)
    {first : Bool} (hs : Spaced '\x7d' first parts cs) {fuel : Nat} (hfuel : parts.length < fuel)
    (rest : List Char) : members value fuel first (cs ++ rest) = (.ok as, '\x7d' :: rest) := by
  induction h generalizing fuel first cs parts with
  | nil =>
    obtain ⟨fuel, rfl⟩ := Nat.exists_eq_add_one_of_ne_zero (Nat.ne_zero_of_lt hfuel)
    cases hparts
    cases hs with
    | close blank =>
      rw [List.append_assoc]
      exact bind_of_ok (nextKey?_close blank first rest)
  | @cons m a ms as ha _ ih =>
    obtain ⟨fuel, rfl⟩ := Nat.exists_eq_add_one_of_ne_zero (Nat.ne_zero_of_lt hfuel)
    cases hparts with
    | cons hm hparts =>
      obtain ⟨more, hmore, hnext⟩ := nextKey?_member hs hm
      obtain ⟨mid, post, hkey, hpost, hcolon⟩ := hnext rest
      have hread := ha.2.reads post (more ++ rest) hpost fun _ => hmore.ends (.inr rfl) rest
      refine (bind_of_ok hkey).trans ?_
      refine (bind_of_ok hcolon).trans ?_
      refine (bind_of_ok hread).trans ?_
      rw [ha.1]
      exact map_of_ok (ih hparts hmore (Nat.lt_of_succ_lt_succ hfuel))

theorem membersOf_object (h : List.Forall₂ value.TakesMember ms as) (hobject : ObjectText ms cs)
    (rest : List Char) : membersOf value (cs ++ rest) = (.ok as, rest) := by
  obtain ⟨parts, inner, hparts, hinner, rfl⟩ := hobject
  have hbody : (do members value (← fuel) true : Reader (List (String × α))) (inner ++ rest) =
      (.ok as, '\x7d' :: rest) :=
    fuel_spaced hinner fun _ hfuel => members_spaced h hparts hinner hfuel rest
  exact (bind_of_ok (drop1_cons '\x7b' _)).trans (enclosed_of_ok hbody (closeObject_brace rest))

theorem putKey_new {key : String} {a : α} {entries : List (String × α)} (h : key ∉ entries.map (·.1)) :
    putKey key a entries = entries ++ [(key, a)] := by
  induction entries with
  | nil => rfl
  | cons e entries ih =>
    obtain ⟨k, b⟩ := e
    simp only [List.map_cons, List.mem_cons, not_or] at h
    rw [putKey, if_neg (by simpa using Ne.symm h.1), ih h.2, List.cons_append]

theorem foldl_putKey {entries done : List (String × α)} (h : ((done ++ entries).map (·.1)).Nodup) :
    entries.foldl (fun done m => putKey m.1 m.2 done) done = done ++ entries := by
  induction entries generalizing done with
  | nil => simp
  | cons e entries ih =>
    have hnew : e.1 ∉ done.map (·.1) := by
      simp only [List.map_append, List.map_cons, List.nodup_append, List.mem_cons] at h
      exact fun hmem => h.2.2 _ hmem _ (.inl rfl) rfl
    rw [List.foldl_cons, putKey_new hnew, ih (by simpa using h), List.append_assoc]
    rfl

theorem isValue_of_takesMember (h : List.Forall₂ value.TakesMember ms as) : ∀ m ∈ ms, IsValue m.2 := by
  induction h with
  | nil => simp
  | cons ha _ ih => exact List.forall_mem_cons.2 ⟨ha.2.isValue, ih⟩

theorem takes_map (h : List.Forall₂ value.TakesMember ms as) (hobject : ObjectText ms cs)
    (hkeys : (as.map (·.1)).Nodup) : (map value).Takes cs as := by
  have hmembers := membersOf_object h hobject
  have hvalue : IsValue cs := .object hobject (isValue_of_takesMember h)
  obtain ⟨parts, inner, -, -, rfl⟩ := hobject
  refine Takes.placed (Takes.of_peek hvalue fun rest _ => ?_)
  refine (bind_of_ok (hmembers rest)).trans ?_
  rw [foldl_putKey (by simpa using hkeys)]
  rfl

end Maps

end Reader

namespace Record
open Reader
variable {α : Type} {spec : Record α} {cs : List Char} {members : List (String × List Char)}

/-- Whether a record puts members together to a value: each is a field that did not come before or no
field, and in the end no required field is missing. -/
inductive Assembles (spec : Record α) : List String → α → List (String × List Char) → α → Prop where
  | done {seen : List String} {a : α} : spec.missing? seen = none → Assembles spec seen a [] a
  | member {seen : List String} {key : String} {f : Field α} {cs : List Char} {a b c : α}
    {members : List (String × List Char)} : spec.fields.find? (·.answersTo key) = some f → f.name ∉ seen →
    (f.read a).Takes cs b → Assembles spec (f.name :: seen) b members c →
    Assembles spec seen a ((key, cs) :: members) c
  | other {seen : List String} {key : String} {cs : List Char} {a c : α}
    {members : List (String × List Char)} : spec.fields.find? (·.answersTo key) = none → IsValue cs →
    Assembles spec seen a members c → Assembles spec seen a ((key, cs) :: members) c

theorem Assembles.isValue {seen : List String} {a c : α} (h : spec.Assembles seen a members c) :
    ∀ m ∈ members, IsValue m.2 := by
  induction h with
  | done => simp
  | member _ _ htakes _ ih => exact List.forall_mem_cons.2 ⟨htakes.isValue, ih⟩
  | other _ hvalue _ ih => exact List.forall_mem_cons.2 ⟨hvalue, ih⟩

/-- Members that are no fields may stand before others. -/
theorem Assembles.behind {seen : List String} {a c : α} (h : spec.Assembles seen a members c)
    {before : List (String × List Char)}
    (hbefore : ∀ m ∈ before, spec.fields.find? (·.answersTo m.1) = none ∧ IsValue m.2) :
    spec.Assembles seen a (before ++ members) c := by
  induction before with
  | nil => exact h
  | cons m before ih =>
    obtain ⟨⟨hfind, hvalue⟩, hbefore⟩ := List.forall_mem_cons.1 hbefore
    exact .other hfind hvalue (ih hbefore)

theorem readMembers_spaced {seen : List String} {a c : α} (h : spec.Assembles seen a members c)
    {parts : List (List Char)} (hparts : List.Forall₂ MemberText members parts) {first : Bool}
    (hs : Spaced '\x7d' first parts cs) {fuel : Nat} (hfuel : parts.length < fuel) (rest : List Char) :
    spec.readMembers fuel first seen a (cs ++ rest) = (.ok c, '\x7d' :: rest) := by
  induction h generalizing fuel first cs parts with
  | done hmissing =>
    obtain ⟨fuel, rfl⟩ := Nat.exists_eq_add_one_of_ne_zero (Nat.ne_zero_of_lt hfuel)
    cases hparts
    cases hs with
    | close blank =>
      rw [List.append_assoc]
      refine (bind_of_ok (nextKey?_close blank first rest)).trans ?_
      simp only [hmissing]
      rfl
  | @member seen key f cs a b c members hfind hnew htakes _ ih =>
    obtain ⟨fuel, rfl⟩ := Nat.exists_eq_add_one_of_ne_zero (Nat.ne_zero_of_lt hfuel)
    cases hparts with
    | cons hm hparts =>
      obtain ⟨more, hmore, hnext⟩ := nextKey?_member hs hm
      obtain ⟨mid, post, hkey, hpost, hcolon⟩ := hnext rest
      have hseen : seen.contains f.name = false := by simpa using hnew
      have hread := htakes.reads post (more ++ rest) hpost fun _ => hmore.ends (.inr rfl) rest
      refine (bind_of_ok hkey).trans ?_
      simp only [hfind, hseen]
      refine (bind_of_ok hcolon).trans ?_
      exact (bind_of_ok hread).trans (ih hparts hmore (Nat.lt_of_succ_lt_succ hfuel))
  | @other seen key cs a c members hfind hvalue _ ih =>
    obtain ⟨fuel, rfl⟩ := Nat.exists_eq_add_one_of_ne_zero (Nat.ne_zero_of_lt hfuel)
    cases hparts with
    | cons hm hparts =>
      obtain ⟨more, hmore, hnext⟩ := nextKey?_member hs hm
      obtain ⟨mid, post, hkey, hpost, hcolon⟩ := hnext rest
      have hskip := skipValue_value hvalue hpost (hmore.ends (.inr rfl) rest)
      refine (bind_of_ok hkey).trans ?_
      simp only [hfind]
      refine (bind_of_ok hcolon).trans ?_
      exact (bind_of_ok hskip).trans (ih hparts hmore (Nat.lt_of_succ_lt_succ hfuel))

theorem takes_object {a : α} (h : spec.Assembles [] spec.blank members a) (hobject : ObjectText members cs) :
    spec.reader.Takes cs a := by
  have hvalue : IsValue cs := .object hobject h.isValue
  obtain ⟨parts, inner, hparts, hinner, rfl⟩ := hobject
  refine Takes.placed (Takes.of_peek hvalue fun rest _ => ?_)
  have hbody : (do spec.readMembers (← fuel) true [] spec.blank : Reader α) (inner ++ rest) =
      (.ok a, '\x7d' :: rest) :=
    fuel_spaced hinner fun _ hfuel => readMembers_spaced h hparts hinner hfuel rest
  exact (bind_of_ok (drop1_cons '\x7b' _)).trans (enclosed_of_ok hbody (closeObject_brace rest))

end Record

theorem decode_padded {α : Type} {r : Reader α} {a : α} {text : String}
    (h : Padded (r.Takes · a) text) : decode r text = .ok a := by
  obtain ⟨pre, cs, post, hpre, htakes, hpost, htext⟩ := h
  have hread := htakes.reads pre post hpre fun _ => by
    simpa using Reader.ends_blank hpost Reader.ends_nil
  have hfinish : Reader.finish post = (.ok (), []) := by
    have hdrop : post.dropWhile Reader.isBlank = [] := by
      simpa using @List.dropWhile_append_of_pos _ Reader.isBlank post [] hpost
    have hpeek : Reader.peek? post = (.ok none, []) := by
      change (Except.ok (post.dropWhile Reader.isBlank).head?, post.dropWhile Reader.isBlank) = _
      rw [hdrop]
      rfl
    exact Reader.bind_of_ok hpeek
  have hall : (do let a ← r; Reader.finish; pure a : Reader α) text.toList = (.ok a, []) := by
    rw [htext]
    exact (Reader.bind_of_ok hread).trans (Reader.bind_of_ok hfinish)
  simp only [decode, hall]

theorem reads_of_decode {α : Type} {r : Reader α} {a : α} {text : String} (h : decode r text = .ok a) :
    ∃ mid rest, r text.toList = (.ok a, mid) ∧ Reader.finish mid = (.ok (), rest) := by
  unfold decode at h
  split at h
  · next b rest hb =>
    cases h
    obtain ⟨a', mid, hread, hb⟩ := Reader.ok_of_bind hb
    obtain ⟨_, end', hfinish, hb⟩ := Reader.ok_of_bind hb
    cases hb
    exact ⟨mid, _, hread, hfinish⟩
  · cases h

theorem decode_followed {α : Type} {r : Reader α} {a : α} {pre cs post more : List Char} {c : Char}
    {text : String} (h : r.Takes cs a) (hnumber : ¬IsNumber cs) (hpre : Blank pre) (hpost : Blank post)
    (hc : Reader.isBlank c = false) (htext : text.toList = pre ++ (cs ++ (post ++ c :: more))) :
    ∃ e, decode r text = .error e := by
  cases hdecode : decode r text with
  | error e => exact ⟨e, rfl⟩
  | ok b =>
    obtain ⟨mid, rest, hread, hfinish⟩ := reads_of_decode hdecode
    rw [htext, h.reads pre (post ++ c :: more) hpre fun hn => (hnumber hn).elim] at hread
    cases hread
    have hahead : Reader.finish (post ++ c :: more) =
        (Reader.failAhead .trailingCharacters : Reader Unit) (c :: more) :=
      Reader.bind_of_ok (Reader.peek?_blank hpost hc more)
    cases hahead.symm.trans hfinish

end AccessBaseline.Json
