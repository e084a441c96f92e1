/-! Cutting a text into the fields between separators, and joining them again. -/
namespace AccessBaseline.Text

/-- The fields between the characters of a class; there is one more of them than separators. -/
def fields (isBreak : Char → Bool) : List Char → List (List Char)
  | [] => [[]]
  | c :: rest =>
    if isBreak c then [] :: fields isBreak rest
    else
      match fields isBreak rest with
      | [] => [[c]]
      | f :: fs => (c :: f) :: fs

def joined (separator : Char) : List (List Char) → List Char
  | [] => []
  | [f] => f
  | f :: fs => f ++ separator :: joined separator fs

theorem fields_ne_nil (isBreak : Char → Bool) (cs : List Char) : fields isBreak cs ≠ [] := by
  cases cs with
  | nil => simp [fields]
  | cons c rest =>
    simp only [fields]
    split
    · simp
    · split <;> simp

end AccessBaseline.Text
