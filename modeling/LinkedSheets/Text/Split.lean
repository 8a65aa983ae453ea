/-!
# Splitting at a character

`split sep` cuts a text at every `sep`. There is always one piece more than there are separators,
so the empty text has one piece, the empty one.
-/

namespace LinkedSheets.Text

def split (sep : Char) : List Char → List (List Char)
  | [] => [[]]
  | c :: cs =>
    if c = sep then [] :: split sep cs
    else match split sep cs with
      | [] => [[c]]
      | piece :: pieces => (c :: piece) :: pieces

theorem split_ne_nil (sep : Char) : ∀ cs, split sep cs ≠ []
  | [] => by simp [split]
  | c :: cs => by
    rw [split]
    split
    · simp
    · split <;> simp

end LinkedSheets.Text
