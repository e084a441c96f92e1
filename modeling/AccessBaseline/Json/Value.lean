import AccessBaseline.Number.Shortest

/-! JSON values. An object keeps its members in order and with their repetitions; `member?` reads
the last of those with one name. -/
namespace AccessBaseline

inductive Json.Number where
  | integer (n : Int)
  | fraction (x : Number.Binary64)
  deriving DecidableEq

inductive Json where
  | null
  | bool (b : Bool)
  | number (n : Json.Number)
  | string (s : String)
  | array (items : List Json)
  | object (members : List (String × Json))

namespace Json

def wordEnd : Nat := 0x10000000000000000

def string? : Json → Option String
  | string s => some s
  | _ => none

def lastOf? (name : String) : List (String × Json) → Option Json
  | [] => none
  | (k, v) :: rest => (lastOf? name rest).or (if k == name then some v else none)

def member? (name : String) : Json → Option Json
  | object ms => lastOf? name ms
  | _ => none

theorem lastOf?_append (name : String) (a b : List (String × Json)) :
    lastOf? name (a ++ b) = (lastOf? name b).or (lastOf? name a) := by
  induction a with
  | nil => simp [lastOf?]
  | cons m a ih => simp [lastOf?, ih, Option.or_assoc]

end Json

end AccessBaseline
