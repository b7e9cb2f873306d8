import DeployWatch.ControlPlane.Client
import DeployWatch.Proofs.Number.Digits
import DeployWatch.Proofs.Text.Search

/-!
# Kinds of errors

An error that is known by its text has the kind that its text tells. The status line that the client
puts before the text of an answer tells nothing and is read apart from the text.

* `SaysNotFound`, `SaysRefused`, `ToldBy`: what a text says, and the error it tells;
* **`classify_iff`**: the error of a text is the one it tells;
* `saysNotFound_colon`, `saysRefused_colon`: nothing is said across a colon;
* `silent_statusLine`: no status line but one says anything;
* **`answer_told_by_body`**: the error of an answer has the kind of its body.
-/

namespace DeployWatch

namespace ControlPlaneError

open Text (anySuffix anySuffix_iff anySuffix_skip anySuffix_stop Contains ContainsAsPhrase containsFold
  containsFold_iff containsPhrase_iff containsPhrase_before containsPhrase_skip containsPhrase_stop dropFold
  dropFold_eq_none dropFold_eq_some_iff dropFold_stop foldCase foldCase_eq_toLower InAnyCase isBlank IsLower
  isWordChar matchesFold matchesFold_iff StopsAt stopsAt_matchesFold)

/-! ## What a text says -/

/-- The status code of a missing object: `code`, an equals sign with blanks around it, and
`NotFound`. -/
inductive IsMissingCode : List Char → Prop
  | intro {name before after value : List Char} : InAnyCase "code".toList name →
      (∀ c ∈ before, isBlank c = true) → (∀ c ∈ after, isBlank c = true) →
      InAnyCase "notfound".toList value → IsMissingCode (name ++ (before ++ '=' :: (after ++ value)))

/-- A text says that something was not found: by the status code anywhere, or in words. -/
def SaysNotFound (cs : List Char) : Prop :=
  (∃ mid, mid <:+: cs ∧ IsMissingCode mid) ∨ ContainsAsPhrase "not found".toList cs

/-- A text says that the connection was refused. -/
def SaysRefused (cs : List Char) : Prop := Contains "connection refused".toList cs

/-- The error that a text tells: that of the first of the two things it says. It carries the text. -/
inductive ToldBy (text : String) : ControlPlaneError → Prop
  | notFound : SaysNotFound text.toList → ToldBy text (.notFound text)
  | connectionRefused : ¬ SaysNotFound text.toList → SaysRefused text.toList →
      ToldBy text (.connectionRefused text)
  | api : ¬ SaysNotFound text.toList → ¬ SaysRefused text.toList → ToldBy text (.api text)

variable {front back cs : List Char} {c : Char}

theorem isBlank_of_isCaseOf_n (hc : Text.IsCaseOf 'n' c) : isBlank c = false := by
  rcases hc with rfl | rfl | ⟨hn, -⟩ | ⟨hn, -⟩
  · decide
  · decide
  · cases hn
  · cases hn

/-- The value of the code stands after blanks. -/
theorem matchesFold_dropWhile_iff {word : List Char} (hword : ∀ w ∈ 'n' :: word, IsLower w) :
    matchesFold ('n' :: word) (cs.dropWhile isBlank) = true ↔
      ∃ after value, (∀ c ∈ after, isBlank c = true) ∧ InAnyCase ('n' :: word) value ∧
        after ++ value <+: cs := by
  rw [matchesFold_iff hword]
  constructor
  · rintro ⟨value, ⟨rest, hrest⟩, hvalue⟩
    refine ⟨cs.takeWhile isBlank, value, fun c hc => List.mem_takeWhile_imp hc, hvalue, rest, ?_⟩
    rw [List.append_assoc, hrest, List.takeWhile_append_dropWhile]
  · rintro ⟨after, value, hafter, hvalue, rest, rfl⟩
    refine ⟨value, ⟨rest, ?_⟩, hvalue⟩
    cases hvalue with
    | cons hc =>
      rw [List.append_assoc, List.dropWhile_append_of_pos hafter, List.cons_append,
        List.dropWhile_cons_of_neg (by simp [isBlank_of_isCaseOf_n hc])]

theorem dropWhile_eq_equals_iff {rest : List Char} : cs.dropWhile isBlank = '=' :: rest ↔
    ∃ before, (∀ c ∈ before, isBlank c = true) ∧ cs = before ++ '=' :: rest := by
  constructor
  · intro h
    refine ⟨cs.takeWhile isBlank, fun c hc => List.mem_takeWhile_imp hc, ?_⟩
    rw [← h, List.takeWhile_append_dropWhile]
  · rintro ⟨before, hbefore, rfl⟩
    rw [List.dropWhile_append_of_pos hbefore, List.dropWhile_cons_of_neg (by decide)]

/-- What a test finds of all characters of a text holds of each. -/
theorem forall_of_all {p : Char → Prop} [DecidablePred p] (hall : cs.all (p ·) = true) :
    ∀ c ∈ cs, p c :=
  fun c hc => of_decide_eq_true (List.all_eq_true.mp hall c hc)

/-- The words that are searched for are written in lower case. -/
theorem isLower_words : ∀ word ∈ ["code", "notfound", "not found", "connection refused"],
    ∀ w ∈ word.toList, IsLower w := by
  refine fun word hword => forall_of_all ?_
  revert word
  decide

/-- The steps in which the status code is read. -/
theorem startsWithMissingCode_steps : startsWithMissingCode cs = true ↔
    ∃ rest, dropFold "code".toList cs = some rest ∧ ∃ rest', rest.dropWhile isBlank = '=' :: rest' ∧
      matchesFold "notfound".toList (rest'.dropWhile isBlank) = true := by
  unfold startsWithMissingCode
  generalize "code".toList = code, "notfound".toList = value
  cases dropFold code cs with
  | none => simp
  | some rest =>
    dsimp only
    split
    · rename_i rest' hrest'
      simp [hrest']
    · rename_i hno
      refine ⟨nofun, ?_⟩
      rintro ⟨_, h, rest', hrest', -⟩
      obtain rfl := Option.some.inj h
      exact (hno rest' hrest').elim

theorem startsWithMissingCode_iff :
    startsWithMissingCode cs = true ↔ ∃ mid, mid <+: cs ∧ IsMissingCode mid := by
  have hcode := isLower_words "code" (by decide)
  have hvalue := isLower_words "notfound" (by decide)
  rw [startsWithMissingCode_steps]
  simp only [dropFold_eq_some_iff hcode, dropWhile_eq_equals_iff]
  constructor
  · rintro ⟨_, ⟨name, rfl, hname⟩, _, ⟨before, hbefore, rfl⟩, hmatch⟩
    obtain ⟨after, value, hafter, hcase, rest, rfl⟩ := (matchesFold_dropWhile_iff hvalue).mp hmatch
    exact ⟨_, ⟨rest, by simp⟩, .intro hname hbefore hafter hcase⟩
  · rintro ⟨_, ⟨rest, rfl⟩, @⟨name, before, after, value, hname, hbefore, hafter, hcase⟩⟩
    refine ⟨before ++ '=' :: (after ++ value ++ rest), ⟨name, by simp, hname⟩, after ++ value ++ rest,
      ⟨before, hbefore, rfl⟩, ?_⟩
    exact (matchesFold_dropWhile_iff hvalue).mpr ⟨after, value, hafter, hcase, rest, rfl⟩

theorem saysNotFound_iff : saysNotFound cs = true ↔ SaysNotFound cs := by
  rw [saysNotFound, Bool.or_eq_true, containsPhrase_iff (isLower_words "not found" (by decide)),
    anySuffix_iff]
  simp only [startsWithMissingCode_iff]
  refine or_congr ⟨?_, ?_⟩ Iff.rfl
  · rintro ⟨back, hback, mid, hmid, hcode⟩
    exact ⟨mid, hmid.isInfix.trans hback.isInfix, hcode⟩
  · rintro ⟨mid, ⟨front, back, rfl⟩, hcode⟩
    exact ⟨mid ++ back, ⟨front, (List.append_assoc ..).symm⟩, mid, List.prefix_append .., hcode⟩

theorem saysRefused_iff : saysRefused cs = true ↔ SaysRefused cs :=
  containsFold_iff (isLower_words "connection refused" (by decide))

theorem toldBy_classify (text : String) : ToldBy text (classify text) := by
  unfold classify
  split
  · exact .notFound (saysNotFound_iff.mp ‹_›)
  · have hmissing : ¬ SaysNotFound text.toList := mt saysNotFound_iff.mpr ‹_›
    split
    · exact .connectionRefused hmissing (saysRefused_iff.mp ‹_›)
    · exact .api hmissing (mt saysRefused_iff.mpr ‹_›)

theorem ToldBy.unique {text : String} {e e' : ControlPlaneError} (h : ToldBy text e)
    (h' : ToldBy text e') : e = e' := by
  cases h <;> cases h' <;> first | rfl | contradiction

/-- **The error of a text** is the one it tells. -/
theorem classify_iff {text : String} {e : ControlPlaneError} :
    classify text = e ↔ ToldBy text e :=
  ⟨fun h => h ▸ toldBy_classify text, (toldBy_classify text).unique⟩

/-! ## Texts in front -/

/-- The blanks of a text end at a character that is none, whatever follows. -/
theorem dropWhile_stop {p : Char → Bool} {stop : Char} (hstop : p stop = false) :
    (front ++ stop :: back).dropWhile p = front.dropWhile p ++ stop :: back := by
  have hrest : (stop :: back).dropWhile p = stop :: back := List.dropWhile_cons_of_neg (by simp [hstop])
  rw [List.dropWhile_append, hrest]
  cases front.dropWhile p <;> rfl

/-- No word that is searched for has a colon. -/
theorem foldCase_colon_ne : ∀ word ∈ ["code", "notfound", "not found", "connection refused"],
    ∀ w ∈ word.toList, foldCase ':' ≠ w := by
  refine fun word hword => forall_of_all ?_
  revert word
  decide

theorem stopsAt_startsWithMissingCode : StopsAt ':' startsWithMissingCode := by
  intro front back
  have hvalue : StopsAt ':' (matchesFold "notfound".toList) :=
    stopsAt_matchesFold (foldCase_colon_ne "notfound" (by decide))
  have hblank : isBlank ':' = false := by decide
  rw [Bool.eq_iff_iff, startsWithMissingCode_steps, startsWithMissingCode_steps,
    dropFold_stop (foldCase_colon_ne "code" (by decide))]
  constructor
  · rintro ⟨_, hname, rest', hequals, hmatch⟩
    obtain ⟨rest, hrest, rfl⟩ := Option.map_eq_some_iff.mp hname
    refine ⟨rest, hrest, ?_⟩
    rw [dropWhile_stop hblank] at hequals
    cases hdrop : rest.dropWhile isBlank with
    | nil =>
      -- The blanks end at the colon, where an equals sign should be.
      rw [hdrop] at hequals
      cases hequals
    | cons d after =>
      rw [hdrop, List.cons_append] at hequals
      obtain ⟨rfl, rfl⟩ := List.cons.inj hequals
      rw [dropWhile_stop hblank, hvalue] at hmatch
      exact ⟨after, rfl, hmatch⟩
  · rintro ⟨rest, hrest, rest', hequals, hmatch⟩
    refine ⟨rest ++ ':' :: back, by rw [hrest]; rfl, rest' ++ ':' :: back, ?_, ?_⟩
    · rw [dropWhile_stop hblank, hequals, List.cons_append]
    · rw [dropWhile_stop hblank, hvalue, hmatch]

/-- **Nothing is said to be not found across a colon.** -/
theorem saysNotFound_colon :
    saysNotFound (front ++ ':' :: back) = (saysNotFound front || saysNotFound back) := by
  rw [saysNotFound, anySuffix_stop stopsAt_startsWithMissingCode,
    containsPhrase_stop (foldCase_colon_ne "not found" (by decide)) (by decide), saysNotFound,
    saysNotFound]
  ac_rfl

theorem saysRefused_colon :
    saysRefused (front ++ ':' :: back) = (saysRefused front || saysRefused back) :=
  anySuffix_stop (stopsAt_matchesFold (foldCase_colon_ne "connection refused" (by decide)))

/-- A text that starts with characters that no word starts with says what the rest says. -/
theorem saysNotFound_skip (hfront : ∀ c ∈ front, foldCase c ≠ 'c' ∧ foldCase c ≠ 'n')
    (hlast : front.getLast?.any isWordChar = false) :
    saysNotFound (front ++ cs) = saysNotFound cs := by
  have hcode : ∀ c ∈ front, ∀ cs, startsWithMissingCode (c :: cs) = false := by
    intro c hc cs
    unfold startsWithMissingCode
    rw [show "code".toList = 'c' :: "ode".toList from rfl, dropFold_eq_none (hfront c hc).1]
  rw [saysNotFound, anySuffix_skip hcode, show "not found".toList = 'n' :: "ot found".toList from rfl,
    containsPhrase_skip fun c hc => (hfront c hc).2, Option.or_none, containsPhrase_before hlast]
  rfl

theorem saysRefused_skip (hfront : ∀ c ∈ front, foldCase c ≠ 'c') :
    saysRefused (front ++ cs) = saysRefused cs := by
  refine anySuffix_skip fun c hc cs => ?_
  rw [show "connection refused".toList = 'c' :: "onnection refused".toList from rfl, matchesFold,
    dropFold_eq_none (hfront c hc), Option.isSome_none]

/-- The same kind of error with another text. -/
def withText : ControlPlaneError → String → ControlPlaneError
  | notFound _, text => notFound text
  | connectionRefused _, text => connectionRefused text
  | unauthorized _, text => unauthorized text
  | api _, text => api text

/-- Texts that say the same have errors of one kind. -/
theorem classify_eq_withText {text text' : String}
    (hmissing : saysNotFound text'.toList = saysNotFound text.toList)
    (hrefused : saysRefused text'.toList = saysRefused text.toList) :
    classify text' = (classify text).withText text' := by
  unfold classify
  rw [hmissing, hrefused]
  split
  · rfl
  · split <;> rfl

/-! ## Answers -/

/-- No phrase of a status code but that of 404 says anything. -/
theorem silent_statusPhrases : ∀ e ∈ statusPhrases, e.1 ≠ 404 →
    saysNotFound e.2.toList = false ∧ saysRefused e.2.toList = false := by
  decide +kernel

theorem silent_phrase {status : Nat} (hstatus : status ≠ 404) :
    let phrase := (statusPhrases.lookup status).getD "<unknown status code>"
    saysNotFound phrase.toList = false ∧ saysRefused phrase.toList = false := by
  cases h : statusPhrases.lookup status with
  | none => exact by decide +kernel
  | some phrase =>
    obtain ⟨front, back, hsplit, -⟩ := List.lookup_eq_some_iff.mp h
    have hmem : (status, phrase) ∈ statusPhrases := by simp [hsplit]
    exact silent_statusPhrases _ hmem hstatus

/-- What stands before the phrase of a status line. -/
def statusFront (status : Nat) : List Char := "HTTP ".toList ++ (Number.decimal status ++ [' '])

theorem toList_statusLine (status : Nat) : ("HTTP " ++ statusText status).toList =
    statusFront status ++ ((statusPhrases.lookup status).getD "<unknown status code>").toList := by
  simp [statusFront, statusText]

theorem foldCase_of_isDigit (hc : Number.isDigit c = true) : foldCase c = c := by
  have hlong : c ≠ '\u017F' := Number.ne_of_isDigit hc rfl
  have hkelvin : c ≠ '\u212A' := Number.ne_of_isDigit hc rfl
  exact (foldCase_eq_toLower hlong hkelvin).trans (Number.toLower_of_isDigit hc)

/-- Neither the name of the protocol nor a digit starts a word that is searched for. -/
theorem foldCase_statusFront {status : Nat} :
    ∀ c ∈ statusFront status, foldCase c ≠ 'c' ∧ foldCase c ≠ 'n' := by
  intro c hc
  obtain hc | hc := List.mem_append.mp hc
  · have hname : ∀ c ∈ "HTTP ".toList, foldCase c ≠ 'c' ∧ foldCase c ≠ 'n' :=
      forall_of_all (by decide)
    exact hname c hc
  obtain hc | hc := List.mem_append.mp hc
  · have hdigit := Number.isDigit_of_mem_decimal hc
    rw [foldCase_of_isDigit hdigit]
    exact ⟨Number.ne_of_isDigit hdigit rfl, Number.ne_of_isDigit hdigit rfl⟩
  · obtain rfl := List.mem_singleton.mp hc
    decide

/-- **A status line says nothing**, unless it is that of 404. -/
theorem silent_statusLine {status : Nat} (hstatus : status ≠ 404) :
    saysNotFound ("HTTP " ++ statusText status).toList = false ∧
      saysRefused ("HTTP " ++ statusText status).toList = false := by
  have hlast : (statusFront status).getLast? = some ' ' := by
    rw [statusFront, ← List.append_assoc, List.getLast?_concat]
  rw [toList_statusLine, saysNotFound_skip foldCase_statusFront (by rw [hlast]; decide),
    saysRefused_skip fun c hc => (foldCase_statusFront c hc).1]
  exact silent_phrase hstatus

/-- The text of an answer: a status line, and the body behind it. -/
def answerText (status : Nat) (text : String) : String :=
  "HTTP " ++ statusText status ++ ": " ++ text

/-- The error of an answer has the kind of the body. -/
theorem classify_answerText {status : Nat} (hstatus : status ≠ 404) (text : String) :
    classify (answerText status text) = (classify text).withText (answerText status text) := by
  obtain ⟨hmissing, hrefused⟩ := silent_statusLine hstatus
  have hsplit : (answerText status text).toList =
      ("HTTP " ++ statusText status).toList ++ ':' :: ([' '] ++ text.toList) := by
    simp [answerText]
  have hspace : ∀ c ∈ [' '], foldCase c ≠ 'c' ∧ foldCase c ≠ 'n' := forall_of_all (by decide)
  apply classify_eq_withText
  · rw [hsplit, saysNotFound_colon, hmissing, Bool.false_or, saysNotFound_skip hspace (by decide)]
  · rw [hsplit, saysRefused_colon, hrefused, Bool.false_or,
      saysRefused_skip fun c hc => (hspace c hc).1]

/-- **The error of an answer has the kind of its body.** A request that can be sent, and that is answered
with a status other than that of success and those that tell an error themselves, comes to the error of
the body behind the status line; that error has the kind of the body alone, and the line with the body as
its text. Every text has the error that it tells: `notFound` if it says that something was not found,
else `connectionRefused` if it says so, and else `api`, each with the whole text. -/
theorem answer_told_by_body {α : Type} (decode : Json.Decoder α) (send : HttpRequest → HttpAnswer) :
    (∀ r status body, r.fault? = none → send r = .answered status body →
      status ∉ [200, 401, 403, 404] →
      fetch decode send (.ok r) = .error (classify (answerText status (bodyText body))) ∧
      classify (answerText status (bodyText body)) =
        (classify (bodyText body)).withText (answerText status (bodyText body))) ∧
    ∀ text e, classify text = e ↔ ToldBy text e := by
  refine ⟨fun r status body hsent hanswer hstatus => ?_, fun text e => classify_iff⟩
  simp only [List.mem_cons, List.not_mem_nil, or_false, not_or] at hstatus
  obtain ⟨hsuccess, hrejected, hforbidden, hmissing⟩ := hstatus
  refine ⟨?_, classify_answerText hmissing (bodyText body)⟩
  show interpret decode r (send r) = _
  unfold interpret
  rw [hsent, hanswer]
  dsimp only
  rw [if_neg hsuccess, answerError, if_neg hmissing, if_neg (not_or.mpr ⟨hrejected, hforbidden⟩)]
  rfl

/-- A request of a client of a control plane. -/
def exampleRequest : HttpRequest :=
  let base : Url := { scheme := "https", authority := some "argocd.example.com", path := .segments [""] }
  ControlPlaneClient.get { base, token := "token" } base

/-- The words of a status line and those of a body make no phrase together, and the code of a missing
object counts more than a refused connection. -/
theorem answer_told_by_body_seam :
    fetch Session.decode (fun _ => .answered 501 (Text.encodeUtf8 "found")) (.ok exampleRequest) =
      .error (.api "HTTP 501 Not Implemented: found") ∧
    fetch Session.decode
        (fun _ => .answered 500 (Text.encodeUtf8 "connection refused: CODE =\tnotfound"))
        (.ok exampleRequest) =
      .error (.notFound
        "HTTP 500 Internal Server Error: connection refused: CODE =\tnotfound") := by
  obtain ⟨hfirst, -⟩ := answer_told_by_body Session.decode
    fun _ => .answered 501 (Text.encodeUtf8 "found")
  obtain ⟨hsecond, -⟩ := answer_told_by_body Session.decode
    fun _ => .answered 500 (Text.encodeUtf8 "connection refused: CODE =\tnotfound")
  obtain ⟨hapi, hapi'⟩ := hfirst exampleRequest 501 _ (by decide) rfl (by decide)
  obtain ⟨hmissing, hmissing'⟩ := hsecond exampleRequest 500 _ (by decide) rfl (by decide)
  refine ⟨hapi.trans ?_, hmissing.trans ?_⟩
  · rw [hapi']
    decide +kernel
  · rw [hmissing']
    decide +kernel

end ControlPlaneError

end DeployWatch
