/-! # Cutting texts at a separator

`pieces` cuts a text at every occurrence of one character; a text without it is its own only piece, and
two neighbouring separators have an empty piece between them.
-/
namespace SampleData.Text

def pieces (separator : Char) : List Char → List (List Char)
  | [] => [[]]
  | c :: cs =>
    if c = separator then [] :: pieces separator cs
    else match pieces separator cs with
      | [] => [[c]]
      | p :: ps => (c :: p) :: ps

theorem pieces_ne_nil (separator : Char) (cs : List Char) : pieces separator cs ≠ [] := by
  cases cs with
  | nil => simp [pieces]
  | cons c cs =>
    simp only [pieces]
    split
    · exact List.cons_ne_nil _ _
    · split <;> exact List.cons_ne_nil _ _

/-- Two texts joined by the separator have the pieces of both. -/
theorem pieces_append (separator : Char) (s t : List Char) :
    pieces separator (s ++ separator :: t) = pieces separator s ++ pieces separator t := by
  induction s with
  | nil => simp [pieces]
  | cons c s ih =>
    by_cases h : c = separator
    · simp [pieces, h, ih]
    · simp only [List.cons_append, pieces, h, ↓reduceIte, ih]
      cases hp : pieces separator s with
      | nil => exact absurd hp (pieces_ne_nil separator s)
      | cons p ps => rfl

end SampleData.Text
