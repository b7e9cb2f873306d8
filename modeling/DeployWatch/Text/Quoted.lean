import DeployWatch.Text.Printable

/-!
# Quoted text in messages

A text is shown between double quotes, with escapes for quotes, backslashes, line ends, and every
character that would not be seen on its own.

* `quoted`: the form used for names and reasons;
* `quotedArguments`: a list of command arguments, where single quotes are escaped too.
-/

namespace DeployWatch.Text

/-- A code point in lower-case hexadecimal between braces. -/
def codePointEscape (c : Char) : List Char :=
  ['\\', 'u', '\x7b'] ++ Nat.toDigits 16 c.toNat ++ ['\x7d']

/-- One character of a quoted text; `single` says whether single quotes are escaped too. -/
def quoteChar (single : Bool) (c : Char) : List Char :=
  if c = '\x00' then ['\\', '0']
  else if c = '\t' then ['\\', 't']
  else if c = '\r' then ['\\', 'r']
  else if c = '\n' then ['\\', 'n']
  else if c = '"' ∨ c = '\\' ∨ (c = '\x27' ∧ single) then ['\\', c]
  else if extendsPrevious c || !isPrintable c then codePointEscape c
  else [c]

/-- A text between double quotes. -/
def quotedWith (single : Bool) (s : String) : String :=
  String.ofList ('"' :: s.toList.flatMap (quoteChar single) ++ ['"'])

def quoted (s : String) : String := quotedWith false s

/-- The quoted form of a list of command arguments. -/
def quotedArguments (args : List String) : String :=
  "[" ++ ", ".intercalate (args.map (quotedWith true)) ++ "]"

end DeployWatch.Text
