/-!
# Splitting text

Cutting a text at every occurrence of a character.  There is always one piece more
than there are cuts, so the pieces may be empty.
-/

namespace Shortlink.Text

/-- The pieces of a list of characters between separators. -/
def split (separator : Char) : List Char → List (List Char)
  | [] => [[]]
  | character :: rest =>
      if character = separator then [] :: split separator rest
      else match split separator rest with
        | [] => [[character]]
        | piece :: pieces => (character :: piece) :: pieces

end Shortlink.Text
