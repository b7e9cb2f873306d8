import DeployWatch.Text.Blank
import DeployWatch.Text.WordChar

/-!
# Searching without regard to case

* `matchesFold`: whether a text starts with a word in any case;
* `containsFold`: whether it contains the word;
* `containsPhrase`: whether it contains the word between word boundaries.
-/

namespace DeployWatch.Text

/-- The lower-case letter of a letter of ASCII, or of the two other characters that fold to one. -/
def foldCase (c : Char) : Char :=
  if c = '\u017F' then 's' else if c = '\u212A' then 'k' else c.toLower

/-- The rest of a text after a lower-case word written in any case. -/
def dropFold : List Char → List Char → Option (List Char)
  | [], cs => some cs
  | _ :: _, [] => none
  | w :: ws, c :: cs => if foldCase c = w then dropFold ws cs else none

/-- Whether a text starts with a lower-case word in any case. -/
def matchesFold (word cs : List Char) : Bool := (dropFold word cs).isSome

/-- Whether some suffix of a text satisfies a test. -/
def anySuffix (p : List Char → Bool) : List Char → Bool
  | [] => p []
  | c :: cs => p (c :: cs) || anySuffix p cs

/-- Whether a text contains a lower-case word in any case. -/
def containsFold (word cs : List Char) : Bool := anySuffix (matchesFold word) cs

/-- Whether a text starts with a word that no word character follows. -/
def matchesToBoundary (word cs : List Char) : Bool :=
  match dropFold word cs with
  | some (c :: _) => !isWordChar c
  | some [] => true
  | none => false

/-- Whether a text contains a word with no word character right before or after it; `before` is the
character before the text. -/
def containsPhrase (word : List Char) : Option Char → List Char → Bool
  | before, cs =>
    (!(before.any isWordChar) && matchesToBoundary word cs) ||
      match cs with
      | [] => false
      | c :: rest => containsPhrase word (some c) rest

end DeployWatch.Text
