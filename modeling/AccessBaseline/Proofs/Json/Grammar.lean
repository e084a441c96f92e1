import AccessBaseline.Json.Reader
import Mathlib.Data.List.Forall2

/-! How JSON may be written: with blanks between the tokens, with the members of objects in any order and
with any character of a string escaped. -/
namespace AccessBaseline.Json

def Blank (cs : List Char) : Prop := ∀ c ∈ cs, Reader.isBlank c = true

def HexText (n : Nat) (cs : List Char) : Prop :=
  ∃ a b c d, cs.map hexValue? = [some a, some b, some c, some d] ∧ n = ((a * 16 + b) * 16 + c) * 16 + d

/-- How a character may stand in a string: as itself, behind a backslash, by its number, or by the numbers
of a surrogate pair. -/
inductive CharText : Char → List Char → Prop
  | plain {c : Char} (quote : c ≠ '"') (backslash : c ≠ '\\') (control : 32 ≤ c.toNat) : CharText c [c]
  | short {c d : Char} (escape : shortEscape? d = some c) : CharText c ['\\', d]
  | number {c : Char} {cs : List Char} (digits : HexText c.toNat cs) : CharText c ('\\' :: 'u' :: cs)
  | pair {c : Char} {m n : Nat} {cs ds : List Char} (digits : HexText m cs) (digits' : HexText n ds)
      (lead : isLeadSurrogate m = true) (trail : isTrailSurrogate n = true)
      (value : c.toNat = 0x10000 + (m - 0xD800) * 0x400 + (n - 0xDC00)) :
      CharText c ('\\' :: 'u' :: cs ++ '\\' :: 'u' :: ds)

def StringText (s : String) (cs : List Char) : Prop :=
  ∃ parts, List.Forall₂ CharText s.toList parts ∧ cs = '"' :: (parts.flatten ++ ['"'])

/-- Parts with blanks around them and commas between them, and the closing bracket. Nothing but blanks stands
before the first part. -/
inductive Spaced (close : Char) : Bool → List (List Char) → List Char → Prop
  | close {first : Bool} {pre : List Char} (blank : Blank pre) : Spaced close first [] (pre ++ [close])
  | first {pre part cs : List Char} {parts : List (List Char)} (blank : Blank pre)
      (rest : Spaced close false parts cs) : Spaced close true (part :: parts) (pre ++ (part ++ cs))
  | next {pre post part cs : List Char} {parts : List (List Char)} (blank : Blank pre)
      (blank' : Blank post) (rest : Spaced close false parts cs) :
      Spaced close false (part :: parts) (pre ++ ',' :: (post ++ (part ++ cs)))

def ArrayText (items : List (List Char)) (cs : List Char) : Prop :=
  ∃ inner, Spaced ']' true items inner ∧ cs = '[' :: inner

def MemberText (m : String × List Char) (cs : List Char) : Prop :=
  ∃ key pre post, StringText m.1 key ∧ Blank pre ∧ Blank post ∧ cs = key ++ (pre ++ ':' :: (post ++ m.2))

def ObjectText (members : List (String × List Char)) (cs : List Char) : Prop :=
  ∃ parts inner, List.Forall₂ MemberText members parts ∧ Spaced '\x7d' true parts inner ∧
    cs = '\x7b' :: inner

def boolText : Bool → List Char
  | true => ['t', 'r', 'u', 'e']
  | false => ['f', 'a', 'l', 's', 'e']

def Digits (cs : List Char) : Prop := cs ≠ [] ∧ ∀ c ∈ cs, c.isDigit = true

def IsWhole (cs : List Char) : Prop := Digits cs ∧ (cs.head? = some '0' → cs = ['0'])

def IsFraction (cs : List Char) : Prop := cs = [] ∨ ∃ ds, Digits ds ∧ cs = '.' :: ds

def IsExponent (cs : List Char) : Prop :=
  cs = [] ∨ ∃ e sign ds, (e = 'e' ∨ e = 'E') ∧ (sign = [] ∨ sign = ['+'] ∨ sign = ['-']) ∧ Digits ds ∧
    cs = e :: (sign ++ ds)

def IsNumber (cs : List Char) : Prop :=
  ∃ sign whole fraction exponent, (sign = [] ∨ sign = ['-']) ∧ IsWhole whole ∧ IsFraction fraction ∧
    IsExponent exponent ∧ cs = sign ++ (whole ++ (fraction ++ exponent))

inductive IsValue : List Char → Prop
  | null : IsValue ['n', 'u', 'l', 'l']
  | bool (b : Bool) : IsValue (boolText b)
  | number {cs : List Char} (number : IsNumber cs) : IsValue cs
  | string {s : String} {cs : List Char} (string : StringText s cs) : IsValue cs
  | array {items : List (List Char)} {cs : List Char} (array : ArrayText items cs)
      (values : ∀ item ∈ items, IsValue item) : IsValue cs
  | object {members : List (String × List Char)} {cs : List Char} (object : ObjectText members cs)
      (values : ∀ m ∈ members, IsValue m.2) : IsValue cs

/-- A value and a text of it, for values whose numbers are integers of 64 bits, signed or not. -/
inductive Written : Json → List Char → Prop
  | null : Written .null ['n', 'u', 'l', 'l']
  | bool (b : Bool) : Written (.bool b) (boolText b)
  | integer {n : Int} (lower : -0x8000000000000000 ≤ n) (upper : n < 0x10000000000000000) :
      Written (.number (.integer n)) (toString n).toList
  | string {s : String} {cs : List Char} (string : StringText s cs) : Written (.string s) cs
  | array {items : List (Json × List Char)} {cs : List Char} (array : ArrayText (items.map (·.2)) cs)
      (values : ∀ item ∈ items, Written item.1 item.2) : Written (.array (items.map (·.1))) cs
  | object {members : List (String × Json × List Char)} {cs : List Char}
      (object : ObjectText (members.map fun m => (m.1, m.2.2)) cs)
      (values : ∀ m ∈ members, Written m.2.1 m.2.2) :
      Written (.object (members.map fun m => (m.1, m.2.1))) cs

mutual

def depth : Json → Nat
  | null | bool _ | number _ | string _ => 0
  | array items => depthItems items + 1
  | object members => depthMembers members + 1

def depthItems : List Json → Nat
  | [] => 0
  | item :: items => max (depth item) (depthItems items)

def depthMembers : List (String × Json) → Nat
  | [] => 0
  | (_, value) :: members => max (depth value) (depthMembers members)

end

def Padded (P : List Char → Prop) (text : String) : Prop :=
  ∃ pre cs post, Blank pre ∧ P cs ∧ Blank post ∧ text.toList = pre ++ (cs ++ post)

theorem Padded.mono {P Q : List Char → Prop} {text : String} (h : Padded P text) (hPQ : ∀ cs, P cs → Q cs) :
    Padded Q text := by
  obtain ⟨pre, cs, post, hpre, hcs, hpost, htext⟩ := h
  exact ⟨pre, cs, post, hpre, hPQ cs hcs, hpost, htext⟩

end AccessBaseline.Json
