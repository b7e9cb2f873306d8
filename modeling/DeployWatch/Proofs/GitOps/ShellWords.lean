import DeployWatch.GitOps.Command
import Mathlib.Data.List.Forall2

/-!
# Words of a shell command

The command for remote access is one line of text, which a shell takes apart. It is read here with the
shell's own rules for quotes and blanks.

* `Shell.Mode`, `Shell.Reader`, `Shell.step`: how the shell reads one character after the other;
* `Shell.words`: the words of a text, if nothing in it stands for something else;
* `Shell.Spells`: a text is one word, wherever a word can begin, and `spells_of_plain`,
  **`spells_quoted`**: plain text is the word itself, and so is quoted text without its quotes;
* `run_spelled`, `run_between`, `words_spelled`: words one after the other, and what comes after them;
* **`key_is_one_word`**: whatever a key is, it is one of seven words.
-/

namespace DeployWatch

namespace Shell

/-! ## The reader -/

/-- How the next character is read. -/
inductive Mode where
  | bare
  /-- After a backslash outside quotes. -/
  | escaped
  | single
  | double
  /-- After a backslash in double quotes. -/
  | doubleEscaped
  deriving DecidableEq, Repr

/-- What has been read so far: the words that have ended, and the one that has begun. -/
structure Reader where
  words : List String := []
  word : Option (List Char) := none
  mode : Mode := .bare
  deriving DecidableEq, Repr

namespace Reader

def inMode (r : Reader) (m : Mode) : Reader := { r with mode := m }

/-- Adds characters to the word, which begins with them if none has begun. -/
def add (r : Reader) (cs : List Char) : Reader := { r with word := some (r.word.getD [] ++ cs) }

/-- Ends the word, if one has begun. -/
def endWord (r : Reader) : Reader :=
  { r with words := r.words ++ (r.word.map String.ofList).toList, word := none }

/-- The words, unless quotes are still open. -/
def finish (r : Reader) : Option (List String) :=
  if r.mode = .bare then some r.endWord.words else none

end Reader

def isBlank (c : Char) : Bool := c = ' ' || c = '\t'

/-- Characters that do not stand for themselves outside quotes, or not everywhere: those of operators,
expansions, patterns, comments and groups. After the name of a command an equals sign is none of them. -/
def isSpecial (c : Char) : Bool :=
  ['\n', '|', '&', ';', '<', '>', '(', ')', '$', '\x60', '*', '?', '[', '#', '~', '!', '\x7b',
    '\x7d'].contains c

/-- Characters that are read alone after a backslash in double quotes. -/
def isEscapable (c : Char) : Bool := ['$', '\x60', '"', '\\'].contains c

/-- Reads one character; there is no reading if it stands for something else. A line end after a backslash
is left out. -/
def step (r : Reader) (c : Char) : Option Reader :=
  match r.mode with
  | .bare =>
    if c = '\x27' then some ((r.add []).inMode .single)
    else if c = '"' then some ((r.add []).inMode .double)
    else if c = '\\' then some (r.inMode .escaped)
    else if isBlank c then some r.endWord
    else if isSpecial c then none
    else some (r.add [c])
  | .escaped => some ((if c = '\n' then r else r.add [c]).inMode .bare)
  | .single => some (if c = '\x27' then r.inMode .bare else r.add [c])
  | .double =>
    if c = '"' then some (r.inMode .bare)
    else if c = '\\' then some (r.inMode .doubleEscaped)
    else if c = '$' ∨ c = '\x60' then none
    else some (r.add [c])
  | .doubleEscaped =>
    some ((if c = '\n' then r else if isEscapable c then r.add [c] else r.add ['\\', c]).inMode .double)

/-- The words of a text, if it can be read and all its quotes are closed. -/
def words (s : String) : Option (List String) := (s.toList.foldlM step {}).bind Reader.finish

example : words "a\\ b'c  \\'\"d\\e\\\"\"\t''" = some ["a bc  \\d\\e\"", ""] := by decide +kernel

example : words "a; b" = none ∧ words "a 'b" = none := by decide +kernel

/-! ## Texts that are one word -/

variable {ws : List String}

/-- A reader after some words, where the next one can begin. -/
def between (ws : List String) : Reader := { words := ws }

/-- A text is read as one word wherever a word can begin. -/
def Spells (text word : List Char) : Prop :=
  ∀ ws, text.foldlM step (between ws) = some { words := ws, word := some word }

/-- Stands for itself outside quotes. -/
def isPlain (c : Char) : Bool :=
  !(c = '\x27' || c = '"' || c = '\\' || isBlank c || isSpecial c)

theorem step_plain {w : Option (List Char)} {c : Char} (hc : isPlain c = true) :
    step { words := ws, word := w } c = some { words := ws, word := some (w.getD [] ++ [c]) } := by
  simp only [isPlain, Bool.not_eq_true', Bool.or_eq_false_iff, decide_eq_false_iff_not] at hc
  obtain ⟨⟨⟨⟨hsingle, hdouble⟩, hescape⟩, hblank⟩, hspecial⟩ := hc
  simp [step, Reader.add, hsingle, hdouble, hescape, hblank, hspecial]

/-- Plain characters go on with a word that has begun. -/
theorem run_plain {cs w : List Char} (hcs : cs.all isPlain = true) :
    cs.foldlM step { words := ws, word := some w } = some { words := ws, word := some (w ++ cs) } := by
  induction cs generalizing w with
  | nil => simp
  | cons c cs ih =>
    rw [List.all_cons, Bool.and_eq_true] at hcs
    rw [List.foldlM_cons, step_plain hcs.1]
    refine (ih hcs.2).trans ?_
    simp

/-- Plain text is a word. -/
theorem spells_of_plain {cs : List Char} (hne : cs ≠ []) (hcs : cs.all isPlain = true) :
    Spells cs cs := by
  intro ws
  cases cs with
  | nil => exact absurd rfl hne
  | cons c cs =>
    rw [List.all_cons, Bool.and_eq_true] at hcs
    rw [List.foldlM_cons, between, step_plain hcs.1]
    exact run_plain hcs.2

/-- In single quotes a character is added to the word as it is; a quote ends them, stands escaped, and
starts them anew. -/
theorem run_quotedChar (w : List Char) (c : Char) :
    (if c = '\x27' then ['\x27', '\\', '\x27', '\x27'] else [c]).foldlM step
        { words := ws, word := some w, mode := .single } =
      some { words := ws, word := some (w ++ [c]), mode := .single } := by
  by_cases hc : c = '\x27'
  · subst hc
    simp [step, Reader.add, Reader.inMode]
  · simp [step, Reader.add, hc]

/-- What the quotes of `shellQuote` hold is read as the text that was quoted. -/
theorem run_quotedChars (w cs : List Char) :
    (cs.flatMap fun c => if c = '\x27' then ['\x27', '\\', '\x27', '\x27'] else [c]).foldlM step
        { words := ws, word := some w, mode := .single } =
      some { words := ws, word := some (w ++ cs), mode := .single } := by
  induction cs generalizing w with
  | nil => simp
  | cons c cs ih =>
    rw [List.flatMap_cons, List.foldlM_append, run_quotedChar]
    refine (ih (w ++ [c])).trans ?_
    simp

/-- **Quoted text is one word**, without its quotes, whatever characters it has. -/
theorem spells_quoted (s : String) : Spells (shellQuote s).toList s.toList := by
  intro ws
  have hopens : step (between ws) '\x27' = some { words := ws, word := some [], mode := .single } := rfl
  rw [shellQuote, String.toList_ofList, List.cons_append, List.foldlM_cons, hopens]
  show List.foldlM step _ (_ ++ _) = _
  rw [List.foldlM_append, run_quotedChars]
  rfl

example : words (shellQuote "key's\n") = some ["key's\n"] := by decide +kernel

/-! ## Words one after the other -/

/-- Texts that are words, each with a blank after it, are read as these words. -/
theorem run_spelled {texts : List (List Char)} {more : List String}
    (h : List.Forall₂ (fun text word => Spells text word.toList) texts more) (ws : List String) :
    (texts.flatMap (· ++ [' '])).foldlM step (between ws) = some (between (ws ++ more)) := by
  induction h generalizing ws with
  | nil => simp
  | @cons text word texts more htext _ ih =>
    have hfirst : (text ++ [' ']).foldlM step (between ws) = some (between (ws ++ [word])) := by
      rw [List.foldlM_append, htext ws]
      simp [step, isBlank, Reader.endWord, between]
    rw [List.flatMap_cons, List.foldlM_append, hfirst]
    refine (ih (ws ++ [word])).trans ?_
    simp

/-- The same reader with more words before. -/
def Reader.after (before : List String) (r : Reader) : Reader := { r with words := before ++ r.words }

section After

variable (before : List String) (r : Reader)

@[simp] theorem mode_after : (r.after before).mode = r.mode := rfl

@[simp] theorem inMode_after (m : Mode) : (r.after before).inMode m = (r.inMode m).after before := rfl

@[simp] theorem add_after (cs : List Char) : (r.after before).add cs = (r.add cs).after before := rfl

@[simp] theorem endWord_after : (r.after before).endWord = r.endWord.after before := by
  simp [Reader.endWord, Reader.after]

/-- What has been read before decides nothing. -/
theorem step_after (c : Char) : step (r.after before) c = (step r c).map (Reader.after before) := by
  simp only [step, mode_after]
  cases r.mode with
  | bare =>
    dsimp only
    split_ifs <;> simp
  | _ =>
    dsimp only
    split_ifs <;> simp

theorem run_after (cs : List Char) :
    cs.foldlM step (r.after before) = (cs.foldlM step r).map (Reader.after before) := by
  induction cs generalizing r with
  | nil => rfl
  | cons c cs ih =>
    rw [List.foldlM_cons, List.foldlM_cons, step_after]
    cases step r c with
    | none => rfl
    | some r' => exact ih r'

theorem finish_after : (r.after before).finish = r.finish.map (before ++ ·) := by
  simp only [Reader.finish, mode_after, endWord_after]
  split_ifs <;> rfl

/-- Words after others are read as if they stood alone. -/
theorem run_between (s : String) :
    (s.toList.foldlM step (between before)).bind Reader.finish = (words s).map (before ++ ·) := by
  have hstart : between before = Reader.after before {} := by simp [Reader.after, between]
  rw [hstart, run_after, words]
  cases s.toList.foldlM step {} with
  | none => rfl
  | some r => exact finish_after before r

end After

/-- Texts that are words, with blanks between them, are read as these words, and what comes after another
blank is read as if it stood alone. -/
theorem words_spelled {s : String} {texts : List (List Char)} {last : List Char} {more : List String}
    {word : String} (hs : s.toList = texts.flatMap (· ++ [' ']) ++ last)
    (h : List.Forall₂ (fun text word => Spells text word.toList) texts more)
    (hlast : Spells last word.toList) :
    words s = some (more ++ [word]) ∧
      ∀ rest, words (s ++ " " ++ rest) = (words rest).map (more ++ [word] ++ ·) := by
  have hrun : s.toList.foldlM step (between []) = some { words := more, word := some word.toList } := by
    rw [hs, List.foldlM_append, run_spelled h []]
    exact hlast more
  have hblank : (s.toList ++ " ".toList).foldlM step (between []) = some (between (more ++ [word])) := by
    rw [List.foldlM_append, hrun]
    simp [step, isBlank, Reader.endWord, between]
  refine ⟨?_, fun rest => ?_⟩
  · show (s.toList.foldlM step (between [])).bind Reader.finish = _
    rw [hrun]
    simp [Reader.finish, Reader.endWord]
  · show ((s ++ " " ++ rest).toList.foldlM step (between [])).bind Reader.finish = _
    rw [String.toList_append, String.toList_append, List.foldlM_append, hblank]
    exact run_between (more ++ [word]) rest

end Shell

/-! ## The command for remote access -/

open Shell (Spells words)

/-- The command for remote access as words with blanks between them. -/
theorem toList_sshCommand (key : String) : (sshCommand key).toList =
    ["ssh".toList, "-i".toList, (shellQuote key).toList, "-o".toList, "IdentitiesOnly=yes".toList,
        "-o".toList].flatMap (· ++ [' ']) ++
      "StrictHostKeyChecking=accept-new".toList := by
  simp [sshCommand]

theorem sshCommand_spelled (key : String) : List.Forall₂ (fun text word => Spells text word.toList)
    ["ssh".toList, "-i".toList, (shellQuote key).toList, "-o".toList, "IdentitiesOnly=yes".toList,
      "-o".toList]
    ["ssh", "-i", key, "-o", "IdentitiesOnly=yes", "-o"] := by
  have hssh : Spells "ssh".toList "ssh".toList := Shell.spells_of_plain (by simp) (by decide +kernel)
  have hkey : Spells "-i".toList "-i".toList := Shell.spells_of_plain (by simp) (by decide +kernel)
  have hoption : Spells "-o".toList "-o".toList := Shell.spells_of_plain (by simp) (by decide +kernel)
  have hidentities : Spells "IdentitiesOnly=yes".toList "IdentitiesOnly=yes".toList :=
    Shell.spells_of_plain (by simp) (by decide +kernel)
  simp only [List.forall₂_cons, List.forall₂_nil_left_iff, and_true]
  exact ⟨hssh, hkey, Shell.spells_quoted key, hoption, hidentities, hoption⟩

/-- **A key is one word.** Whatever characters a key has, the shell reads the command for remote access
with it as seven words, one of which is the key as it is; and the words that come after the command are
read as if they stood alone. -/
theorem key_is_one_word (key : String) :
    words (sshCommand key) = some ["ssh", "-i", key, "-o", "IdentitiesOnly=yes", "-o",
        "StrictHostKeyChecking=accept-new"] ∧
      ∀ rest, words (sshCommand key ++ " " ++ rest) = (words rest).map
        (["ssh", "-i", key, "-o", "IdentitiesOnly=yes", "-o", "StrictHostKeyChecking=accept-new"] ++ ·) :=
  Shell.words_spelled (toList_sshCommand key) (sshCommand_spelled key)
    (Shell.spells_of_plain (by simp) (by decide +kernel))

end DeployWatch
