/-!
# Cutting a text

* `splitAt`: the parts of a text between the places of a character, one more than there are places.
-/

namespace DeployWatch.Text

/-- Cuts a text at every place of a character, which belongs to no part. -/
def splitAt (mark : Char) : List Char → List (List Char)
  | [] => [[]]
  | c :: rest =>
    if c = mark then [] :: splitAt mark rest
    else match splitAt mark rest with
      | [] => [[c]]
      | first :: more => (c :: first) :: more

end DeployWatch.Text
