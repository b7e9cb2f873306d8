import DeployWatch.Proofs.Application.ManagedImages
import DeployWatch.Proofs.SortedMap
import DeployWatch.Proofs.Text.ByteOrder
import DeployWatch.Proofs.Text.Split
import DeployWatch.Proofs.Text.Trim

/-!
# The grammar of managed images

Managed images are written as entries `alias=repository` with commas between them.

* `Proper`, `Malformed`: what an entry is read as, and the entries that are none;
* `parseEntry_marked`, `parseEntry_eq_none_iff`, `proper_of_parseEntry`: reading one entry;
* `parseManagedImages_append`: a text made of two is read as the union of both;
* `parseManagedImages_malformed`: a malformed entry changes nothing;
* `Spelling`, `written`, `parseManagedImages_written`: a map written with any blanks is read back;
* **`managedImages_grammar`**: all of it, with the alias that is looked up for a repository.
-/

namespace DeployWatch.Annotations

open Text (splitAt isBlank trimChars NoBlankEnds encodeUtf8)

/-! ## One entry -/

/-- An alias and a repository that an entry can be read as. -/
structure Proper (name repository : String) : Prop where
  name_ne : name ≠ ""
  repository_ne : repository ≠ ""
  name_ends : NoBlankEnds name.toList
  repository_ends : NoBlankEnds repository.toList
  name_comma : ',' ∉ name.toList
  repository_comma : ',' ∉ repository.toList
  name_mark : '=' ∉ name.toList

instance (name repository : String) : Decidable (Proper name repository) :=
  decidable_of_iff (name ≠ "" ∧ repository ≠ "" ∧ NoBlankEnds name.toList ∧
      NoBlankEnds repository.toList ∧ ',' ∉ name.toList ∧ ',' ∉ repository.toList ∧ '=' ∉ name.toList)
    ⟨fun ⟨h1, h2, h3, h4, h5, h6, h7⟩ => ⟨h1, h2, h3, h4, h5, h6, h7⟩,
      fun ⟨h1, h2, h3, h4, h5, h6, h7⟩ => ⟨h1, h2, h3, h4, h5, h6, h7⟩⟩

/-- An entry that is passed over: without an equals sign, or blank on one side of the first one. -/
inductive Malformed : List Char → Prop
  | unmarked {entry : List Char} (h : '=' ∉ entry) : Malformed entry
  | blankName {front back : List Char} (h : ∀ c ∈ front, isBlank c = true) :
      Malformed (front ++ '=' :: back)
  | blankRepository {front back : List Char} (hmark : '=' ∉ front)
      (h : ∀ c ∈ back, isBlank c = true) : Malformed (front ++ '=' :: back)

theorem parseEntry_unmarked {entry : List Char} (h : '=' ∉ entry) : parseEntry entry = none := by
  have hnone : entry.dropWhile (· != '=') = [] := by
    rw [Text.dropWhile_eq_nil]
    intro c hc
    simpa using fun heq : c = '=' => h (heq ▸ hc)
  rw [parseEntry, hnone]

/-- An entry is cut at its first equals sign. -/
theorem parseEntry_marked {front : List Char} (h : '=' ∉ front) (back : List Char) :
    parseEntry (front ++ '=' :: back) =
      if trimChars front = [] ∨ trimChars back = [] then none
      else some (String.ofList (trimChars front), String.ofList (trimChars back)) := by
  have hfront : ∀ c ∈ front, (c != '=') = true := fun c hc => by
    simpa using fun heq : c = '=' => h (heq ▸ hc)
  have htake : (front ++ '=' :: back).takeWhile (· != '=') = front := by
    rw [List.takeWhile_append_of_pos hfront]
    simp
  have hdrop : (front ++ '=' :: back).dropWhile (· != '=') = '=' :: back := by
    rw [List.dropWhile_append_of_pos hfront]
    rfl
  rw [parseEntry, hdrop, htake]
  simp only [Bool.or_eq_true, List.isEmpty_iff]

theorem notMem_of_blank {front : List Char} {mark : Char} (hmark : isBlank mark = false)
    (h : ∀ c ∈ front, isBlank c = true) : mark ∉ front := fun hmem => by
  rw [h mark hmem] at hmark
  exact Bool.noConfusion hmark

/-- The entries that are passed over are the malformed ones. -/
theorem parseEntry_eq_none_iff {entry : List Char} : parseEntry entry = none ↔ Malformed entry := by
  constructor
  · intro h
    by_cases hmark : '=' ∈ entry
    · obtain ⟨front, back, rfl, hfront⟩ := List.eq_append_cons_of_mem hmark
      rw [parseEntry_marked hfront] at h
      split at h
      · rename_i hblank
        rcases hblank with hblank | hblank
        · exact .blankName (Text.trimChars_eq_nil_iff.mp hblank)
        · exact .blankRepository hfront (Text.trimChars_eq_nil_iff.mp hblank)
      · cases h
    · exact .unmarked hmark
  · rintro (h | h | ⟨hmark, h⟩)
    · exact parseEntry_unmarked h
    · rw [parseEntry_marked (notMem_of_blank rfl h), if_pos (.inl (Text.trimChars_eq_nil_iff.mpr h))]
    · rw [parseEntry_marked hmark, if_pos (.inr (Text.trimChars_eq_nil_iff.mpr h))]

theorem mem_of_mem_trimChars {cs : List Char} {c : Char} (h : c ∈ trimChars cs) : c ∈ cs := by
  have hstart : c ∈ Text.trimStart cs := (Text.trimEnd_prefix _).subset h
  exact (List.dropWhile_suffix isBlank).subset hstart

/-- What an entry is read as. -/
theorem proper_of_parseEntry {entry : List Char} {name repository : String} (hcomma : ',' ∉ entry)
    (h : parseEntry entry = some (name, repository)) : Proper name repository := by
  by_cases hmark : '=' ∈ entry
  · obtain ⟨front, back, rfl, hfront⟩ := List.eq_append_cons_of_mem hmark
    rw [parseEntry_marked hfront] at h
    split at h
    · cases h
    · rename_i hsides
      rw [not_or] at hsides
      cases h
      have hname : String.ofList (trimChars front) ≠ "" := fun h =>
        hsides.1 (by simpa using congrArg String.toList h)
      have hrepository : String.ofList (trimChars back) ≠ "" := fun h =>
        hsides.2 (by simpa using congrArg String.toList h)
      refine ⟨hname, hrepository, ?_, ?_, ?_, ?_, ?_⟩ <;> rw [String.toList_ofList]
      · exact Text.noBlankEnds_trimChars front
      · exact Text.noBlankEnds_trimChars back
      · exact fun hmem => hcomma (List.mem_append_left _ (mem_of_mem_trimChars hmem))
      · exact fun hmem => hcomma
          (List.mem_append_right _ (List.mem_cons_of_mem _ (mem_of_mem_trimChars hmem)))
      · exact fun hmem => hfront (mem_of_mem_trimChars hmem)
  · rw [parseEntry_unmarked hmark] at h
    cases h

/-! ## Texts -/

/-- A text made of two with a comma between them is read as both, and the second wins. -/
theorem parseManagedImages_append (a b : String) : parseManagedImages (a ++ "," ++ b) =
    (parseManagedImages a).union (parseManagedImages b) := by
  have hchars : (a ++ "," ++ b).toList = a.toList ++ ',' :: b.toList := by
    rw [String.toList_append, String.toList_append, List.append_assoc]
    rfl
  rw [parseManagedImages, hchars, Text.splitAt_append_mark, List.filterMap_append,
    SortedMap.ofList_append]
  rfl

/-- An entry that is none is read as nothing. -/
theorem parseManagedImages_malformed {entry : List Char} (hcomma : ',' ∉ entry)
    (h : Malformed entry) : parseManagedImages (String.ofList entry) = .empty := by
  rw [parseManagedImages, String.toList_ofList, Text.splitAt_of_notMem hcomma, List.filterMap_cons,
    parseEntry_eq_none_iff.mpr h]
  rfl

theorem proper_of_find? {text name repository : String}
    (h : (parseManagedImages text).find? name = some repository) : Proper name repository := by
  rw [parseManagedImages, SortedMap.find?_ofList, Option.map_eq_some_iff] at h
  obtain ⟨e, hfind, rfl⟩ := h
  have hname : e.1 = name := by simpa using List.find?_some hfind
  have hmem := List.mem_reverse.mp (List.mem_of_find?_eq_some hfind)
  obtain ⟨entry, hentry, hparse⟩ := List.mem_filterMap.mp hmem
  exact hname ▸ proper_of_parseEntry (Text.notMem_of_mem_splitAt hentry) hparse

/-! ## Written maps -/

/-- Characters that do not count at the ends of a part. -/
def Blanks : Type := {cs : List Char // ∀ c ∈ cs, isBlank c = true}

/-- An entry with the blanks around its two parts. -/
structure Spelling where
  name : String
  repository : String
  beforeName : Blanks
  behindName : Blanks
  beforeRepository : Blanks
  behindRepository : Blanks

namespace Spelling

def entry (s : Spelling) : String × String := (s.name, s.repository)

def chars (s : Spelling) : List Char :=
  s.beforeName.1 ++ s.name.toList ++ s.behindName.1 ++
    '=' :: (s.beforeRepository.1 ++ s.repository.toList ++ s.behindRepository.1)

end Spelling

/-- Entries with commas between them. -/
def written (spellings : List Spelling) : String :=
  ",".intercalate (spellings.map fun s => String.ofList s.chars)

theorem toList_ne_nil {s : String} (h : s ≠ "") : s.toList ≠ [] :=
  fun hnil => h (String.toList_eq_nil_iff.mp hnil)

/-- However a proper entry is spelled, it is read as itself. -/
theorem parseEntry_chars {s : Spelling} (h : Proper s.name s.repository) :
    parseEntry s.chars = some s.entry := by
  have hname := Text.trimChars_around s.beforeName.2 s.behindName.2 (toList_ne_nil h.name_ne) h.name_ends
  have hrepository := Text.trimChars_around s.beforeRepository.2 s.behindRepository.2
    (toList_ne_nil h.repository_ne) h.repository_ends
  have hmark : '=' ∉ s.beforeName.1 ++ s.name.toList ++ s.behindName.1 := by
    simp only [List.mem_append, not_or]
    exact ⟨⟨notMem_of_blank rfl s.beforeName.2, h.name_mark⟩, notMem_of_blank rfl s.behindName.2⟩
  rw [Spelling.chars, parseEntry_marked hmark, hname, hrepository, if_neg, String.ofList_toList,
    String.ofList_toList]
  · rfl
  · rw [not_or]
    exact ⟨toList_ne_nil h.name_ne, toList_ne_nil h.repository_ne⟩

theorem comma_notMem_chars {s : Spelling} (h : Proper s.name s.repository) : ',' ∉ s.chars := by
  have hblanks : ∀ blanks : Blanks, ',' ∉ blanks.1 := fun blanks => notMem_of_blank rfl blanks.2
  simp [Spelling.chars, hblanks, h.name_comma, h.repository_comma]

/-- **A map that is written is read back**, in whatever order and with whatever blanks. -/
theorem parseManagedImages_written {m : SortedMap String} {spellings : List Spelling}
    (hm : ∀ e ∈ m.entries, Proper e.1 e.2) (h : (spellings.map Spelling.entry).Perm m.entries) :
    parseManagedImages (written spellings) = m := by
  have hproper : ∀ s ∈ spellings, Proper s.name s.repository := fun s hs =>
    hm s.entry (h.subset (List.mem_map_of_mem hs))
  rw [← SortedMap.ofList_of_perm h, parseManagedImages, written, String.toList_intercalate,
    List.map_map]
  have hchars : spellings.map (String.toList ∘ fun s => String.ofList s.chars) =
      spellings.map Spelling.chars := List.map_congr_left fun s _ => String.toList_ofList
  have hentries : (spellings.map Spelling.chars).filterMap parseEntry = spellings.map Spelling.entry := by
    rw [List.filterMap_map, ← List.filterMap_eq_map]
    exact List.filterMap_congr fun s hs => parseEntry_chars (hproper s hs)
  rw [hchars, ← hentries]
  cases spellings with
  | nil => rfl
  | cons s rest =>
    have hne : (s :: rest).map Spelling.chars ≠ [] := List.cons_ne_nil _ _
    rw [show ",".toList = [','] from rfl, Text.splitAt_intercalate hne]
    intro part hpart
    obtain ⟨s', hs', rfl⟩ := List.mem_map.mp hpart
    exact comma_notMem_chars (hproper s' hs')

/-! ## The grammar -/

/-- **The grammar of managed images.** A text made of two with a comma between them is read as the union
of both, where the second wins: under each alias stands what the second says, or else what the first
says. So an entry that is malformed changes nothing. What is read are proper entries. A map of proper
entries, written in any order and with any blanks around the parts, is read back. And the alias that is
looked up for a repository is the least one, byte by byte, of those mapped to it; none is found just if
there is none. -/
theorem managedImages_grammar :
    (∀ a b : String, parseManagedImages (a ++ "," ++ b) =
        (parseManagedImages a).union (parseManagedImages b) ∧
      ∀ name, (parseManagedImages (a ++ "," ++ b)).find? name =
        ((parseManagedImages b).find? name).or ((parseManagedImages a).find? name)) ∧
    (∀ entry : List Char, ',' ∉ entry → Malformed entry → ∀ a b : String,
      parseManagedImages (String.ofList entry ++ "," ++ b) = parseManagedImages b ∧
      parseManagedImages (a ++ "," ++ String.ofList entry) = parseManagedImages a ∧
      parseManagedImages (a ++ "," ++ String.ofList entry ++ "," ++ b) =
        parseManagedImages (a ++ "," ++ b)) ∧
    (∀ text name repository : String,
      (parseManagedImages text).find? name = some repository → Proper name repository) ∧
    (∀ (m : SortedMap String) (spellings : List Spelling),
      (∀ e ∈ m.entries, Proper e.1 e.2) → (spellings.map Spelling.entry).Perm m.entries →
      parseManagedImages (written spellings) = m) ∧
    ∀ (notes : Annotations) (repository : String),
      (∀ name, notes.aliasFor? repository = some name ↔
        notes.managedImages.find? name = some repository ∧
          ∀ name', notes.managedImages.find? name' = some repository →
            encodeUtf8 name ≤ encodeUtf8 name') ∧
      (notes.aliasFor? repository = none ↔
        ∀ name, notes.managedImages.find? name ≠ some repository) := by
  refine ⟨fun a b => ⟨parseManagedImages_append a b, fun name => ?_⟩, fun entry hcomma h a b => ?_,
    fun _ _ _ => proper_of_find?, fun _ _ => parseManagedImages_written,
    fun notes repository => ⟨fun name => ?_, aliasFor?_eq_none_iff⟩⟩
  · rw [parseManagedImages_append, SortedMap.find?_union]
  · simp only [parseManagedImages_append, parseManagedImages_malformed hcomma h, SortedMap.empty_union,
      SortedMap.union_empty, and_self]
  · simp only [Text.encodeUtf8_le_iff]
    exact aliasFor?_iff_least

/-- Two entries, the greater alias first, with blanks at some places and an equals sign in a
repository; an entry without an alias between two others; and what is read of the latter. -/
theorem managedImages_grammar_spaced :
    let bare : Blanks := ⟨[], List.all_eq_true.mp rfl⟩
    let spaced : Blanks := ⟨[' ', '\t', '\u2003'], List.all_eq_true.mp rfl⟩
    let m : SortedMap String := .ofList [("api", "ghcr.io/api=1"), ("web", "nginx")]
    parseManagedImages (written [⟨"web", "nginx", bare, spaced, spaced, spaced⟩,
        ⟨"api", "ghcr.io/api=1", spaced, bare, bare, spaced⟩]) = m ∧
      parseManagedImages ("web=nginx" ++ "," ++ String.ofList " = redis".toList ++ "," ++ "db=pg") =
        parseManagedImages ("web=nginx" ++ "," ++ "db=pg") ∧
      Proper "db" "pg" := by
  intro bare spaced m
  obtain ⟨-, hmalformed, hproper, hwritten, -⟩ := managedImages_grammar
  have hnameless : Malformed " = redis".toList :=
    @Malformed.blankName [' '] " redis".toList (List.all_eq_true.mp rfl)
  exact ⟨hwritten m _ (by decide +kernel) (by decide +kernel),
    (hmalformed " = redis".toList (by decide +kernel) hnameless "web=nginx" "db=pg").2.2,
    hproper "web=nginx,db=pg" "db" "pg" (by decide +kernel)⟩

end DeployWatch.Annotations
