import DeployWatch.ControlPlane.Client
import DeployWatch.Proofs.Url.Percent

/-!
# Names of applications in addresses

The name of an application goes into a segment of its own. Tabs and line breaks in it are dropped on the
way, after the names that cannot be a segment have been refused.

* `Url.basePath`, `Url.addSegment_eq`: what is added to a base, and what it is added to;
* `Url.StandsFor`, `Url.segmentText_standsFor`: what the segment of a name looks like;
* `applicationPath`, **`application_stays_in_segment`**: the address of the request for a name;
* `application_leaves_segment`: a name that reaches another address.
-/

namespace DeployWatch

namespace Url

variable {hosted : Bool} {parts : List String} {name : String}

/-! ## The base -/

/-- The segments of a base below which others are added. An empty one at the end does not count, nor does
one alone. -/
def basePath (parts : List String) : List String :=
  let kept := if parts.getLast? = some "" then parts.dropLast else parts
  if kept = [""] then [] else kept

theorem basePath_of_slash (front : List String) :
    basePath (front ++ [""]) = if front = [""] then [] else front := by
  unfold basePath
  rw [List.getLast?_concat, if_pos rfl, List.dropLast_concat]

theorem withoutLastEmpty_concat (front : List String) :
    withoutLastEmpty (front ++ [""]) = if front = [] then [""] else front := by
  unfold withoutLastEmpty
  rw [List.getLast?_concat, List.dropLast_concat, List.length_append]
  cases front with
  | nil => rfl
  | cons part more =>
    rw [if_neg (List.cons_ne_nil _ _), if_pos ⟨by simp, rfl⟩]

/-- The segments to which the first new one is added are those of the base. -/
theorem path_withTrailingSlash {u : Url} (hu : u.path = .segments parts) :
    ∃ front, u.withTrailingSlash = { u with path := .segments (front ++ [""]) } ∧
      basePath parts = if front = [""] then [] else front := by
  unfold withTrailingSlash
  rw [hu]
  dsimp only
  split
  · rename_i hlast
    obtain ⟨front, rfl⟩ := List.getLast?_eq_some_iff.mp hlast
    refine ⟨front, ?_, basePath_of_slash front⟩
    rw [← hu]
  · rename_i hlast
    refine ⟨parts, rfl, ?_⟩
    unfold basePath
    rw [if_neg hlast]

/-! ## Segments -/

/-- A segment that stands for a text: it has its bytes, nothing in it separates parts of an address, and
it does not count as dots. -/
structure StandsFor (hosted : Bool) (segment : String) (cs : List Char) : Prop where
  bytes : unescape segment.toList = cs.flatMap String.utf8EncodeChar
  unbroken : ∀ x ∈ ['/', '?', '#'], x ∉ segment.toList
  unbroken_hosted : hosted = true → '\\' ∉ segment.toList
  isName : dotsOf segment.toList = .name

theorem percent_inSegment : (inSegment '%' || (hosted && '%' == '\\')) = true := by
  rw [show inSegment '%' = true from rfl, Bool.true_or]

theorem segmentText_standsFor (hone : counted name.toList ≠ ['.'])
    (htwo : counted name.toList ≠ ['.', '.']) :
    StandsFor hosted (segmentText hosted name) (counted name.toList) := by
  have hmarks : ∀ x ∈ ['/', '?', '#'], inSegment x = true ∧ x ≠ '%' ∧ hexValue x = none := by
    rw [List.forall_mem_cons, List.forall_mem_cons, List.forall_mem_singleton]
    decide
  unfold segmentText
  constructor
  · rw [String.toList_ofList]
    exact unescape_escape percent_inSegment _
  · intro x hx
    obtain ⟨hreserved, hpercent, hdigit⟩ := hmarks x hx
    rw [String.toList_ofList]
    exact notMem_escape (by rw [hreserved, Bool.true_or]) hpercent hdigit _
  · intro hhosted
    rw [String.toList_ofList]
    exact notMem_escape (by rw [hhosted]; rfl) (by decide) (by decide) _
  · rw [String.toList_ofList]
    exact dotsOf_escape percent_inSegment hone htwo

theorem segmentText_injective {name' : String}
    (h : segmentText hosted name = segmentText hosted name') :
    counted name.toList = counted name'.toList :=
  escape_injective percent_inSegment (String.ofList_injective h)

theorem segmentText_eq_iff {text : String} (htext : segmentText hosted text = text)
    (hcounted : counted text.toList = text.toList) :
    segmentText hosted name = text ↔ counted name.toList = text.toList := by
  constructor
  · intro h
    rw [← htext] at h
    rw [segmentText_injective h, hcounted]
  · intro h
    unfold segmentText at htext ⊢
    rw [h, ← hcounted, htext]

/-- **What a name adds** to a path that is not that of the root: a segment, unless what counts of it is
one dot or two. -/
theorem addSegment_eq (hparts : parts ≠ [""]) (hone : name ≠ ".") (htwo : name ≠ "..") :
    addSegment hosted parts name =
      if counted name.toList = ['.'] then parts ++ [""]
      else if counted name.toList = ['.', '.'] then parts.dropLast ++ [""]
      else parts ++ [segmentText hosted name] := by
  have hdot : segmentText hosted name = "." ↔ counted name.toList = ['.'] :=
    segmentText_eq_iff (by cases hosted <;> rfl) rfl
  have hdots : segmentText hosted name = ".." ↔ counted name.toList = ['.', '.'] :=
    segmentText_eq_iff (by cases hosted <;> rfl) rfl
  unfold addSegment
  rw [if_neg (not_or.mpr ⟨hone, htwo⟩), if_neg hparts]
  simp only [hdot, hdots]

/-- A word that is its own segment is added as it is. -/
theorem addSegment_word {word : String} (hword : segmentText hosted word = word)
    (hne : word ≠ "." ∧ word ≠ "..") :
    addSegment hosted parts word = (if parts = [""] then [] else parts) ++ [word] := by
  unfold addSegment
  rw [if_neg (not_or.mpr hne)]
  dsimp only
  rw [hword, if_neg hne.1, if_neg hne.2]

end Url

/-! ## Requests -/

namespace ControlPlaneClient

open Url (basePath counted segmentText StandsFor)

/-- What the path of a request for a name consists of below the base. -/
def applicationPath (hosted : Bool) (name : String) : List String :=
  if counted name.toList = ['.'] then ["api", "v1", "applications", ""]
  else if counted name.toList = ['.', '.'] then ["api", "v1", ""]
  else ["api", "v1", "applications", segmentText hosted name]

theorem foldl_addSegment {hosted : Bool} (front : List String) {name : String}
    (hname : isAskable name = true) :
    ["api", "v1", "applications", name].foldl (Url.addSegment hosted)
        (Url.withoutLastEmpty (front ++ [""])) =
      (if front = [""] then [] else front) ++ applicationPath hosted name := by
  have hwords : ∀ word ∈ ["api", "v1", "applications"],
      segmentText hosted word = word ∧ word ≠ "." ∧ word ≠ ".." := by
    cases hosted <;> decide
  have hne : name ≠ "." ∧ name ≠ ".." := by
    constructor <;> rintro rfl <;> cases hname
  have hconcat : ∀ (parts : List String) {word : String}, word ≠ "" → parts ++ [word] ≠ [""] := by
    intro parts word hword h
    have hlast := congrArg List.getLast? h
    rw [List.getLast?_concat] at hlast
    exact hword (Option.some.inj hlast)
  have hstart : (if Url.withoutLastEmpty (front ++ [""]) = [""] then []
      else Url.withoutLastEmpty (front ++ [""])) = if front = [""] then [] else front := by
    rw [Url.withoutLastEmpty_concat]
    cases front with
    | nil => rfl
    | cons part more => rw [if_neg (List.cons_ne_nil part more)]
  obtain ⟨hapi, hapi'⟩ := hwords "api" (by decide)
  obtain ⟨hv1, hv1'⟩ := hwords "v1" (by decide)
  obtain ⟨happs, happs'⟩ := hwords "applications" (by decide)
  rw [List.foldl_cons, Url.addSegment_word hapi hapi', hstart]
  generalize (if front = [""] then [] else front) = start
  rw [List.foldl_cons, Url.addSegment_word hv1 hv1', if_neg (hconcat _ (by decide)), List.foldl_cons,
    Url.addSegment_word happs happs', if_neg (hconcat _ (by decide)), List.foldl_cons, List.foldl_nil,
    Url.addSegment_eq (hconcat _ (by decide)) hne.1 hne.2, List.dropLast_concat]
  unfold applicationPath
  split
  · simp only [List.append_assoc, List.cons_append, List.nil_append]
  · split <;> simp only [List.append_assoc, List.cons_append, List.nil_append]

/-- **The request for a name** goes to an address that differs from the base in its path only. -/
theorem applicationRequest_eq {c : ControlPlaneClient} {parts : List String}
    (hbase : c.base.path = .segments parts) {name : String} (hname : isAskable name = true) :
    c.applicationRequest name = .ok (c.get { c.base with
      path := .segments (basePath parts ++ applicationPath c.base.namesHost name) }) := by
  obtain ⟨front, hroot, hbasePath⟩ := Url.path_withTrailingSlash hbase
  unfold applicationRequest endpoint? root
  rw [if_pos hname, hroot, hbasePath]
  show Except.map c.get (.ok { c.base with
    path := .segments (["api", "v1", "applications", name].foldl (Url.addSegment c.base.namesHost)
      (Url.withoutLastEmpty (front ++ [""]))) }) = _
  rw [foldl_addSegment front hname]
  rfl

theorem applicationPath_of_name {hosted : Bool} {name : String}
    (hone : counted name.toList ≠ ['.']) (htwo : counted name.toList ≠ ['.', '.']) :
    applicationPath hosted name = ["api", "v1", "applications", segmentText hosted name] := by
  unfold applicationPath
  rw [if_neg hone, if_neg htwo]

/-- What counts of a name without tabs and line breaks is no dots, or the name is not asked for. -/
theorem counted_ne_dots {name : String} (hname : isAskable name = true)
    (hcounted : counted name.toList = name.toList) :
    counted name.toList ≠ ['.'] ∧ counted name.toList ≠ ['.', '.'] := by
  have hdots : ∀ text, isAskable text = false → counted name.toList ≠ text.toList := by
    intro text htext h
    rw [hcounted] at h
    rw [String.toList_injective h, htext] at hname
    cases hname
  exact ⟨hdots "." rfl, hdots ".." rfl⟩

/-- **A name without tabs and line breaks stays in a segment of its own.** The request for any name that
is asked for goes below the base, and differs from it in the path only. If the name has no tab or line
break, then the path is that of the base with `api`, `v1`, `applications` and one more segment, which
reads as the name; and two such names are never asked for at one address. Of other names the rest stands
in the segment, unless it is one dot or two. -/
theorem application_stays_in_segment (c : ControlPlaneClient) {parts : List String}
    (hbase : c.base.path = .segments parts) :
    let hosted := c.base.namesHost
    (∀ name, isAskable name = true → c.applicationRequest name = .ok (c.get { c.base with
      path := .segments (basePath parts ++ applicationPath hosted name) })) ∧
    (∀ name, isAskable name = true → counted name.toList = name.toList →
      applicationPath hosted name = ["api", "v1", "applications", segmentText hosted name] ∧
      StandsFor hosted (segmentText hosted name) name.toList ∧
      Text.decodeUtf8 (Url.unescape (segmentText hosted name).toList) = some name) ∧
    (∀ name name', isAskable name = true → isAskable name' = true →
      counted name.toList = name.toList → counted name'.toList = name'.toList →
      c.applicationRequest name = c.applicationRequest name' → name = name') ∧
    ∀ name, counted name.toList ≠ ['.'] → counted name.toList ≠ ['.', '.'] →
      applicationPath hosted name = ["api", "v1", "applications", segmentText hosted name] ∧
      StandsFor hosted (segmentText hosted name) (counted name.toList) := by
  intro hosted
  refine ⟨fun name => applicationRequest_eq hbase, fun name hname hcounted => ?_,
    fun name name' hname hname' hcounted hcounted' hrequest => ?_, fun name hone htwo => ?_⟩
  · obtain ⟨hone, htwo⟩ := counted_ne_dots hname hcounted
    have hsegment : StandsFor hosted (segmentText hosted name) (counted name.toList) :=
      Url.segmentText_standsFor hone htwo
    rw [hcounted] at hsegment
    refine ⟨applicationPath_of_name hone htwo, hsegment, ?_⟩
    rw [hsegment.bytes, ← Text.encodeUtf8_eq, Text.decodeUtf8_encodeUtf8]
  · obtain ⟨hone, htwo⟩ := counted_ne_dots hname hcounted
    obtain ⟨hone', htwo'⟩ := counted_ne_dots hname' hcounted'
    rw [applicationRequest_eq hbase hname, applicationRequest_eq hbase hname',
      applicationPath_of_name hone htwo, applicationPath_of_name hone' htwo'] at hrequest
    have hpath := UrlPath.segments.inj (congrArg (·.url.path) (Except.ok.inj hrequest))
    have hlast := congrArg List.getLast? (List.append_cancel_left hpath)
    have hsegment := Url.segmentText_injective (Option.some.inj hlast)
    rw [hcounted, hcounted'] at hsegment
    exact String.toList_injective hsegment
  · exact ⟨applicationPath_of_name hone htwo, Url.segmentText_standsFor hone htwo⟩

/-- A client of a control plane at a host of its own. -/
def exampleClient : ControlPlaneClient where
  base := { scheme := "https", authority := some "argocd.example.com", path := .segments ["argo"] }
  token := "token"

/-- A name with slashes and dots is one segment. -/
theorem application_stays_in_segment_dotted :
    exampleClient.applicationRequest "../session?x#y" = .ok (exampleClient.get { exampleClient.base with
      path := .segments ["argo", "api", "v1", "applications", "..%2Fsession%3Fx%23y"] }) := by
  have hbase : exampleClient.base.path = .segments ["argo"] := rfl
  obtain ⟨hrequest, hsegment, -, -⟩ := application_stays_in_segment exampleClient hbase
  have hpath : basePath ["argo"] ++ ["api", "v1", "applications",
      segmentText exampleClient.base.namesHost "../session?x#y"] =
      ["argo", "api", "v1", "applications", "..%2Fsession%3Fx%23y"] := by decide +kernel
  rw [hrequest _ (by decide), (hsegment _ (by decide) (by decide)).1, hpath]

/-! ### A name that is not its own segment -/

/-- **A tab before two dots** leads to the parent of the list of applications, and a tab within a name to
the address of another name. -/
theorem application_leaves_segment :
    isAskable "\t.." = true ∧
    exampleClient.applicationRequest "\t.." = .ok (exampleClient.get { exampleClient.base with
      path := .segments ["argo", "api", "v1", ""] }) ∧
    exampleClient.applicationRequest "a\tb" = exampleClient.applicationRequest "ab" := by
  have hrequest : ∀ name, isAskable name = true → exampleClient.applicationRequest name =
      .ok (exampleClient.get { exampleClient.base with
        path := .segments (basePath ["argo"] ++ applicationPath true name) }) :=
    fun name hname => applicationRequest_eq rfl hname
  have hup : basePath ["argo"] ++ applicationPath true "\t.." = ["argo", "api", "v1", ""] := by
    decide +kernel
  have hsame : applicationPath true "a\tb" = applicationPath true "ab" := by decide +kernel
  refine ⟨by decide, ?_, ?_⟩
  · rw [hrequest _ (by decide), hup]
  · rw [hrequest _ (by decide), hrequest _ (by decide), hsame]

end ControlPlaneClient

end DeployWatch
