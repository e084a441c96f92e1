import AccessBaseline.Metadata
import AccessBaseline.Proofs.Json.Gives
import AccessBaseline.Proofs.Json.Printing
import AccessBaseline.Proofs.Json.Value

/-! The owner that the metadata of a capability declares. It is a matter of the value that the text is one
of, not of how it is written. -/
namespace AccessBaseline

namespace Json
variable {key : String} {members : List (String × Json)} {v : Json} {cs : List Char}

theorem lastOf?_eq_none : lastOf? key members = none ↔ key ∉ members.map (·.1) := by
  induction members with
  | nil => simp [lastOf?]
  | cons m members ih =>
    simp only [lastOf?, Option.or_eq_none_iff, ih, List.map_cons, List.mem_cons, not_or]
    by_cases hkey : m.1 = key
    · simp [hkey]
    · simp [hkey, Ne.symm hkey]

/-- The last member with a key is the one that no other follows. -/
theorem lastOf?_eq_some : lastOf? key members = some v ↔
    ∃ before after, members = before ++ (key, v) :: after ∧ key ∉ after.map (·.1) := by
  constructor
  · intro h
    induction members with
    | nil => cases h
    | cons m members ih =>
      by_cases hlater : lastOf? key members = none
      · rw [lastOf?, hlater, Option.none_or] at h
        obtain ⟨k, w⟩ := m
        by_cases hkey : k = key
        · obtain rfl : w = v := by simpa [hkey] using h
          exact ⟨[], members, by rw [hkey]; rfl, lastOf?_eq_none.1 hlater⟩
        · simp [hkey] at h
      · obtain ⟨w, hw⟩ := Option.ne_none_iff_exists'.1 hlater
        rw [lastOf?, hw, Option.some_or] at h
        obtain ⟨before, after, hmembers, hafter⟩ := ih (hw.trans h)
        exact ⟨m :: before, after, by rw [hmembers]; rfl, hafter⟩
  · rintro ⟨before, after, rfl, hafter⟩
    simp [lastOf?_append, lastOf?, lastOf?_eq_none.2 hafter]

namespace Reader

theorem number_of_head {d : Nat} {pre rest more : List Char} {c : Char} (hpre : Blank pre)
    (hc : c = '-' ∨ c.isDigit = true) (h : value d (pre ++ c :: rest) = (.ok v, more)) :
    ∃ n, v = .number n := by
  obtain ⟨inner, hinner⟩ := value_eq_valueOver d
  have hgives (positive : Bool) : Gives (fun v => ∃ n, v = Json.number n) (Json.number <$> number positive) :=
    gives_map (gives_any _) fun n _ => ⟨n, rfl⟩
  rw [hinner] at h
  rcases hc with rfl | hdigit
  · rw [valueOver_minus hpre] at h
    exact hgives false _ _ _ h
  · rw [valueOver_digit hpre hdigit] at h
    exact hgives true _ _ _ h

end Reader

end Json

namespace Metadata
open Json (Written Padded Blank IsNumber depth)
variable {v : Json} {text : String}

theorem parse_ok_iff (h : Json.parse text = .ok v) (m : Metadata) :
    parse text = .ok m ↔ v = .null ∧ m = ⟨none⟩ ∨
      ∃ members, v = .object members ∧ m = ⟨(Json.lastOf? ownerKey members).bind Json.string?⟩ := by
  unfold parse
  rw [h]
  cases v <;> simp [bind, Except.bind, pure, Except.pure, throw, throwThe, MonadExceptOf.throw, eq_comm]

theorem declaredOwner?_eq_some {members : List (String × Json)} {s : String} :
    declaredOwner? ⟨(Json.lastOf? ownerKey members).bind Json.string?⟩ = some s ↔
      s ≠ "" ∧ Json.lastOf? ownerKey members = some (.string s) := by
  have hstring (v : Json) (t : String) : v.string? = some t ↔ v = .string t := by
    cases v <;> simp [Json.string?]
  simp only [declaredOwner?, Option.filter_eq_some_iff, Option.bind_eq_some_iff, hstring,
    decide_eq_true_eq]
  constructor
  · rintro ⟨⟨v, hv, rfl⟩, hs⟩
    exact ⟨hs, hv⟩
  · rintro ⟨hs, hv⟩
    exact ⟨⟨_, hv, rfl⟩, hs⟩

theorem parse_followed {pre cs post more : List Char} {c : Char} (hpre : Blank pre) (h : Written v cs)
    (hpost : Blank post) (hdepth : depth v < 128) (hc : Json.Reader.isBlank c = false)
    (htext : text.toList = pre ++ (cs ++ (post ++ c :: more))) : ∃ e, parse text = .error e := by
  by_cases hv : ∃ n, v = .number n
  · -- What follows may belong to the number, but then it is still a number that is read.
    obtain ⟨n, rfl⟩ := hv
    cases hm : parse text with
    | error e => exact ⟨e, rfl⟩
    | ok m =>
      cases hparse : Json.parse text with
      | error e =>
        rw [parse, hparse] at hm
        cases hm
      | ok w =>
        have hnumber : IsNumber cs := by
          cases h
          exact Written.isNumber_integer _
        obtain ⟨d, rest, rfl, hd⟩ := hnumber.head
        obtain ⟨mid, _, hread, -⟩ := Json.reads_of_decode hparse
        rw [htext] at hread
        obtain ⟨k, rfl⟩ := Json.Reader.number_of_head hpre hd hread
        rcases (parse_ok_iff hparse m).1 hm with ⟨hnull, -⟩ | ⟨_, hobject, -⟩
        · cases hnull
        · cases hobject
  · have htakes := Json.Reader.takes_value h (Nat.le_of_lt_succ hdepth)
    have hnumber := h.not_isNumber fun n hn => hv ⟨n, hn⟩
    obtain ⟨e, he⟩ := Json.decode_followed htakes hnumber hpre hpost hc htext
    refine ⟨e, ?_⟩
    change (Json.decode _ text >>= _) = _
    rw [show Json.Reader.nestingLimit = 127 from rfl, he]
    rfl

/-- The owner is what the last top-level member with the key says, and only `null` and objects are
metadata. Whatever else stands in the document does not matter, and nothing may follow it. -/
theorem parse_written (h : Padded (Written v) text) (hdepth : depth v < 128) :
    ((∃ m, parse text = .ok m) ↔ v = .null ∨ ∃ members, v = .object members) ∧
    (∀ m, parse text = .ok m → (v = .null → m.declaredOwner? = none) ∧
      ∀ members, v = .object members → ∀ s, m.declaredOwner? = some s ↔ s ≠ "" ∧
        ∃ before after, members = before ++ ("dfds.owner", .string s) :: after ∧
          "dfds.owner" ∉ after.map (·.1)) ∧
    ∀ c more, Json.Reader.isBlank c = false → ∃ e, parse (text ++ String.ofList (c :: more)) = .error e := by
  obtain ⟨pre, cs, post, hpre, hwritten, hpost, htext⟩ := h
  have hvalue : Json.parse text = .ok v :=
    Json.decode_padded ⟨pre, cs, post, hpre, Json.Reader.takes_value hwritten (Nat.le_of_lt_succ hdepth),
      hpost, htext⟩
  refine ⟨⟨?_, ?_⟩, fun m hm => ⟨?_, ?_⟩, fun c more hc => ?_⟩
  · rintro ⟨m, hm⟩
    rcases (parse_ok_iff hvalue m).1 hm with ⟨hnull, -⟩ | ⟨members, hobject, -⟩
    · exact .inl hnull
    · exact .inr ⟨members, hobject⟩
  · rintro (hnull | ⟨members, hobject⟩)
    · exact ⟨_, (parse_ok_iff hvalue _).2 (.inl ⟨hnull, rfl⟩)⟩
    · exact ⟨_, (parse_ok_iff hvalue _).2 (.inr ⟨members, hobject, rfl⟩)⟩
  · rintro rfl
    rcases (parse_ok_iff hvalue m).1 hm with ⟨-, rfl⟩ | ⟨_, hobject, -⟩
    · rfl
    · cases hobject
  · rintro members rfl s
    rcases (parse_ok_iff hvalue m).1 hm with ⟨hnull, -⟩ | ⟨_, hobject, rfl⟩
    · cases hnull
    · cases hobject
      rw [declaredOwner?_eq_some, Json.lastOf?_eq_some]
      rfl
  · have hfollowed : (text ++ String.ofList (c :: more)).toList = pre ++ (cs ++ (post ++ c :: more)) := by
      rw [String.toList_append, htext, String.toList_ofList, List.append_assoc, List.append_assoc]
    exact parse_followed hpre hwritten hpost hdepth hc hfollowed

def repeated : String := " \x7b\"dfds.owner\":null,\"dfds\\u002eowner\" : \"ada\"\x7d\n"

theorem repeated_written :
    Padded (Written (.object [("dfds.owner", .null), ("dfds.owner", .string "ada")])) repeated := by
  have hplain (cs : List Char) (h : ∀ c ∈ cs, c ≠ '"' ∧ c ≠ '\\' ∧ 32 ≤ c.toNat) :
      List.Forall₂ Json.CharText cs (cs.map ([·])) := by
    rw [List.forall₂_map_right_iff]
    exact List.forall₂_same.2 fun c hc => .plain (h c hc).1 (h c hc).2.1 (h c hc).2.2
  have hkey : Json.StringText "dfds.owner" ("\"dfds\\u002eowner\"".toList) :=
    ⟨_, List.rel_append (hplain ['d', 'f', 'd', 's'] (by simp))
      (.cons (@Json.CharText.number '.' ['0', '0', '2', 'e'] ⟨0, 0, 2, 14, by decide, by decide⟩)
        (hplain ['o', 'w', 'n', 'e', 'r'] (by simp))), rfl⟩
  have hblank : Blank [] := fun _ h => by cases h
  have hspace : Blank [' '] := by simp [Blank, Json.Reader.isBlank]
  have hend : Blank ['\n'] := by simp [Blank, Json.Reader.isBlank]
  have hfirst : Json.MemberText ("dfds.owner", ['n', 'u', 'l', 'l']) "\"dfds.owner\":null".toList :=
    ⟨_, [], [], Json.stringText_renderString "dfds.owner", hblank, hblank, by decide +kernel⟩
  have hsecond : Json.MemberText ("dfds.owner", Json.renderString "ada")
      "\"dfds\\u002eowner\" : \"ada\"".toList :=
    ⟨_, [' '], [' '], hkey, hspace, hspace, by decide +kernel⟩
  refine ⟨[' '], "\x7b\"dfds.owner\":null,\"dfds\\u002eowner\" : \"ada\"\x7d".toList, ['\n'], hspace, ?_, hend,
    by decide +kernel⟩
  refine @Written.object [("dfds.owner", .null, ['n', 'u', 'l', 'l']),
    ("dfds.owner", .string "ada", Json.renderString "ada")] _ ⟨_, _, .cons hfirst (.cons hsecond .nil),
    .first hblank (.next hblank hblank (.close hblank)), by decide +kernel⟩ ?_
  simp [Written.null, Written.string (Json.stringText_renderString "ada")]

theorem repeated_owner : Padded
      (Written (.object [("dfds.owner", .null), ("dfds.owner", .string "ada")])) repeated ∧
    depth (.object [("dfds.owner", .null), ("dfds.owner", .string "ada")]) < 128 ∧
    ∃ m, parse repeated = .ok m ∧ m.declaredOwner? = some "ada" := by
  have hdepth : depth (.object [("dfds.owner", .null), ("dfds.owner", .string "ada")]) < 128 := by
    simp [depth, Json.depthMembers]
  obtain ⟨hok, howner, -⟩ := parse_written repeated_written hdepth
  obtain ⟨m, hm⟩ := hok.2 (.inr ⟨_, rfl⟩)
  have hsome := ((howner m hm).2 _ rfl "ada").2 ⟨by decide, [("dfds.owner", .null)], [], rfl, by simp⟩
  exact ⟨repeated_written, hdepth, m, hm, hsome⟩

end Metadata

end AccessBaseline
