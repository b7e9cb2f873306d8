import DeployWatch.Proofs.GitOps.AllOrNothing
import DeployWatch.Proofs.Program.Serial

/-!
# Updates at the same time

Updates of one application share its lock, and those of one override file must not lose what others have
written to it.

* `UpdateCall`, `UpdateCall.Alike`: calls that may write to one override file only;
* `UpdateCall.transaction`: a call does all it does under the application's lock;
* `readOverrides_of_chain`: what calls leave in the file that take effect one after the other;
* `written`, `merged_at_end`: the parameters of the calls that succeed, and the file at the end;
* **`no_lost_update`**: what this says about single parameters, and about the order of the calls.
-/

namespace DeployWatch

open FileTree (placeOf)
open Program (ask done Ensures)
open Crew (holders Chain)

/-! ## Calls -/

structure UpdateCall where
  updater : Updater
  application : Application
  task : Task

namespace UpdateCall

/-- The program of a call, with the repositories that the surroundings give access to. -/
def program (c : UpdateCall) : Program (Except GitOpsError Unit) :=
  c.updater.remotely.update c.application c.task

/-- The parameters that a call writes if it may write. -/
def parameters (c : UpdateCall) : List Parameter := imageParameters c.task c.application.watch

def Authorised (c : UpdateCall) (r : Repository) : Prop :=
  Updater.Authorised c.application c.task r

/-- A call for an application that may write to one repository only. -/
structure Alike (l : TextLayer) (app : String) (r : Repository) (c : UpdateCall) : Prop where
  layer : c.updater.layer = l
  app : c.task.app = app
  repository : ∀ r', c.Authorised r' → r' = r

/-- What may come of a call that gets the lock. -/
def Effect (l : TextLayer) (file : String) (c : UpdateCall) (r : Repository) (v : FileTree)
    (result : Except GitOpsError Unit) (v' : FileTree) : Prop :=
  c.Authorised r ∧ ∃ history,
    CommitEffect l file c.parameters (Updater.committed r c.task c.parameters) v result history v'

variable {l : TextLayer} {app : String} {r : Repository} {c : UpdateCall}

/-- **A call does all it does under the application's lock.** -/
theorem transaction {σ : Type} {s : Surroundings σ} {tree : σ → FileTree} (hs : Hosting s r tree)
    (hl : l.RoundTrips) (hc : c.Alike l app r) : c.program.Transaction s tree app
      fun v result v' => Effect l (overridePath r app) c r v result v' := by
  by_cases hauthorised : c.Authorised r
  · have hps : c.parameters ≠ [] :=
      (Updater.imageParameters_ne_nil_iff c.application.watch).mpr hauthorised.2.2.2
    have hfree : (c.updater.remotely.commit r c.task c.parameters).Free := by
      refine c.updater.remotely.commit_only (fun q hq => ?_) (fun q hq => ?_) r c.task c.parameters
      · cases q <;> first | rfl | cases hq
      · cases q <;> first | rfl | cases hq
    have hens := commit_ensures hs c.updater.remotely rfl (hc.layer ▸ hl) c.task hps
    have hprogram : c.program = ask (.acquire app) fun _ =>
        Program.releasing app (c.updater.remotely.commit r c.task c.parameters) := by
      rw [program, Updater.update_of_authorised _ hauthorised, hc.app]
      rfl
    rw [hprogram]
    refine .locked hfree fun v => (hens v).mono fun result history v' he => ⟨hauthorised, history, ?_⟩
    rw [← hc.layer, ← hc.app]
    exact he
  · obtain ⟨result, hresult⟩ := Updater.update_of_not_authorised (a := c.application) (t := c.task)
      c.updater.remotely fun r' hr' => hauthorised (hc.repository r' hr' ▸ hr')
    rw [program, hresult]
    exact .idle result

theorem Effect.readOverrides {file : String} {v v' : FileTree} {result : Except GitOpsError Unit}
    (h : Effect l file c r v result v') :
    (result = .ok () → ∃ f, DeployWatch.readOverrides l v file = .ok f ∧
      DeployWatch.readOverrides l v' file = .ok (f.apply c.parameters).1) ∧
    (∀ e, result = .error e → v' = v) := by
  obtain ⟨-, history, he⟩ := h
  cases he with
  | failed e _ => exact ⟨fun h => (by cases h), fun _ _ => rfl⟩
  | current _ hf happly =>
    refine ⟨fun _ => ⟨_, hf.readOverrides, ?_⟩, fun e h => by cases h⟩
    rw [happly]
    exact hf.readOverrides
  | pushed _ _ hf hholds _ => exact ⟨fun _ => ⟨_, hf, hholds.readOverrides⟩, fun e h => by cases h⟩

end UpdateCall

/-! ## Calls one after the other -/

variable {l : TextLayer} {file app : String} {r : Repository} {calls : List UpdateCall}

/-- What may come of the call of a number. -/
def effectOf (l : TextLayer) (file : String) (r : Repository) (calls : List UpdateCall) (i : Nat)
    (v : FileTree) (result : Except GitOpsError Unit) (v' : FileTree) : Prop :=
  ∃ c, calls[i]? = some c ∧ c.Effect l file r v result v'

/-- The parameters of a call that has succeeded. -/
def written (calls : List UpdateCall) (ended : List (Nat × Except GitOpsError Unit)) (i : Nat) :
    List Parameter :=
  match calls[i]?, ended.lookup i with
  | some c, some (.ok ()) => c.parameters
  | _, _ => []

theorem apply_append (f : OverrideFile) (ps qs : List Parameter) :
    (f.apply (ps ++ qs)).1 = ((f.apply ps).1.apply qs).1 := by
  simp only [OverrideFile.apply_eq, putAll_append]

theorem readOverrides_of_chain {ended done : List (Nat × Except GitOpsError Unit)} {v v' : FileTree}
    (h : Chain (effectOf l file r calls) v done v')
    (hended : ∀ e ∈ done, ended.lookup e.1 = some e.2) :
    readOverrides l v' file = (readOverrides l v file).map
        (fun f => (f.apply ((done.map (·.1)).flatMap (written calls ended))).1) ∧
      (∀ e ∈ done, e.2 = .ok () → ∃ f, readOverrides l v file = .ok f) ∧
      ∀ e ∈ done, ∃ c, calls[e.1]? = some c ∧ c.Authorised r := by
  induction h with
  | nil =>
    refine ⟨?_, by simp, by simp⟩
    cases readOverrides l v file <;> rfl
  | @snoc done v' v'' i result h heffect ih =>
    obtain ⟨hfile, hok, hauthorised⟩ := ih fun e he => hended e (List.mem_append_left _ he)
    obtain ⟨c, hc, heffect⟩ := heffect
    have hresult : ended.lookup i = some result := hended (i, result) (by simp)
    obtain ⟨hsuccess, hfailure⟩ := heffect.readOverrides
    have hall : ∀ e ∈ done ++ [(i, result)], ∃ c, calls[e.1]? = some c ∧ c.Authorised r := by
      intro e he
      rcases List.mem_append.mp he with he | he
      · exact hauthorised e he
      · rw [List.mem_singleton.mp he]
        exact ⟨c, hc, heffect.1⟩
    rw [List.map_append, List.flatMap_append]
    cases result with
    | error e =>
      have hwritten : written calls ended i = [] := by simp [written, hc, hresult]
      rw [hfailure e rfl, hfile]
      refine ⟨by simp [hwritten], fun e' he' hok' => ?_, hall⟩
      rcases List.mem_append.mp he' with he' | he'
      · exact hok e' he' hok'
      · rw [List.mem_singleton.mp he'] at hok'
        cases hok'
    | ok _ =>
      have hwritten : written calls ended i = c.parameters := by simp [written, hc, hresult]
      obtain ⟨f, hf, hf'⟩ := hsuccess rfl
      rw [hf] at hfile
      cases hstart : readOverrides l v file with
      | error e =>
        rw [hstart] at hfile
        cases hfile
      | ok f₀ =>
        rw [hstart] at hfile
        refine ⟨?_, fun _ _ _ => ⟨f₀, rfl⟩, hall⟩
        have hmerged : f = (f₀.apply ((done.map (·.1)).flatMap (written calls ended))).1 :=
          Except.ok.inj hfile
        rw [hf', hmerged, ← apply_append]
        simp [Except.map, hwritten]

/-! ## Calls at the same time -/

section AtEnd

variable {σ : Type} {s : Surroundings σ} {tree : σ → FileTree} (hs : Hosting s r tree)
  (hl : l.RoundTrips) (hcalls : ∀ call ∈ calls, call.Alike l app r) {eager : Prop} {w : σ}
  {log : List (CrewEvent (Except GitOpsError Unit))} {c : Crew σ (Except GitOpsError Unit)}
  (h : Crew.Reaches s eager (.ofPrograms (calls.map UpdateCall.program) w) log c)

include hs hl hcalls h

/-- **At the end the file has been merged with the parameters of the calls that succeed**, in the order in
which they got the lock. -/
theorem merged_at_end (hover : c.isOver = true) :
    (holders app log).Nodup ∧ (∀ i < calls.length, ∃ result, c.ended.lookup i = some result) ∧
      (∀ i, i ∈ holders app log ↔ ∃ call, calls[i]? = some call ∧ call.Authorised r) ∧
      (∀ i ∈ holders app log, c.ended.lookup i = some (.ok ()) →
        ∃ f, readOverrides l (tree w) (overridePath r app) = .ok f) ∧
      readOverrides l (tree c.state) (overridePath r app) =
        (readOverrides l (tree w) (overridePath r app)).map fun f =>
          (f.apply ((holders app log).flatMap (written calls c.ended))).1 := by
  have hlocks : ∀ q w, q.isOfLock = true → tree (s.answer q w).2 = tree w := by
    intro q w hq
    refine hs.quiet q w ?_
    cases q <;> first | rfl | cases hq
  have hprograms : ∀ (i : Nat) (p : Program (Except GitOpsError Unit)),
      (calls.map UpdateCall.program)[i]? = some p →
        p.Transaction s tree app (effectOf l (overridePath r app) r calls i) := by
    intro i p hp
    rw [List.getElem?_map, Option.map_eq_some_iff] at hp
    obtain ⟨call, hcall, rfl⟩ := hp
    exact (call.transaction hs hl (hcalls call (List.mem_of_getElem? hcall))).mono
      fun v result v' he => ⟨call, hcall, he⟩
  obtain ⟨-, horder, -⟩ := h.serial hlocks hs.passing hprograms
  obtain ⟨done, hnames, hchain, hended, hall⟩ := h.serial_of_isOver hlocks hs.passing hprograms hover
  obtain ⟨hfile, hok, hauthorised⟩ := readOverrides_of_chain hchain hended
  rw [hnames] at hfile
  have hprogram : ∀ (i : Nat) (call : UpdateCall), calls[i]? = some call →
      (calls.map UpdateCall.program)[i]? = some call.program := by
    intro i call hcall
    rw [List.getElem?_map, hcall]
    rfl
  refine ⟨horder.nodup_holders app, fun i hi => ?_, fun i => ⟨fun hi => ?_, ?_⟩,
    fun i hi hresult => ?_, hfile⟩
  · obtain ⟨result, hresult, -⟩ := hall i _ (hprogram i _ (List.getElem?_eq_getElem hi))
    exact ⟨result, hresult⟩
  · rw [← hnames] at hi
    obtain ⟨e, he, rfl⟩ := List.mem_map.mp hi
    exact hauthorised e he
  · rintro ⟨call, hcall, hcan⟩
    obtain ⟨result, -, hdone | hidle⟩ := hall i _ (hprogram i call hcall)
    · rw [← hnames]
      exact List.mem_map.mpr ⟨_, hdone, rfl⟩
    · rw [UpdateCall.program, Updater.update_of_authorised _ hcan] at hidle
      cases hidle
  · rw [← hnames] at hi
    obtain ⟨e, he, rfl⟩ := List.mem_map.mp hi
    rw [hended e he] at hresult
    exact hok e he (Option.some.inj hresult)

/-- What a call has written is still there if no later call has written the same name. -/
theorem kept_at_end (hover : c.isOver = true) {before after : List Nat} {i : Nat} {call : UpdateCall}
    {name tag : String} (horder : holders app log = before ++ i :: after)
    (hcall : calls[i]? = some call) (hresult : c.ended.lookup i = some (.ok ()))
    (htag : lastTag? call.task call.application.watch name = some tag)
    (hlater : ∀ j ∈ after, ∀ p ∈ written calls c.ended j, p.name ≠ name) :
    ∃ f, Holds l (tree c.state) (overridePath r app) f ∧
      named? name f.parameters = some ⟨name, tag, true⟩ := by
  obtain ⟨-, -, -, hok, hfile⟩ := merged_at_end hs hl hcalls h hover
  obtain ⟨f₀, hf₀⟩ := hok i (horder ▸ List.mem_append_right _ List.mem_cons_self) hresult
  have hwritten : written calls c.ended i = imageParameters call.task call.application.watch := by
    simp [written, hcall, hresult, UpdateCall.parameters]
  rw [hf₀, horder, List.flatMap_append, List.flatMap_cons, hwritten] at hfile
  replace hfile := hfile.trans (congrArg Except.ok (OverrideFile.apply_eq f₀ _))
  have hlast : named? name (after.flatMap (written calls c.ended)).reverse = none := by
    refine named?_eq_none.mpr fun p hp => ?_
    obtain ⟨j, hj, hmem⟩ := List.mem_flatMap.mp (List.mem_reverse.mp hp)
    exact hlater j hj p hmem
  have hnamed : ∀ ps, named? name (putAll (before.flatMap (written calls c.ended) ++
      (imageParameters call.task call.application.watch ++
        after.flatMap (written calls c.ended))) ps) = some ⟨name, tag, true⟩ := by
    intro ps
    rw [putAll_append, putAll_append, named?_putAll, hlast, Option.none_or]
    exact named?_putAll_imageParameters htag _
  refine ⟨_, (readOverrides_ok hfile).resolve_right fun hempty => ?_, ?_⟩
  · have hnil : putAll _ f₀.parameters = [] := congrArg OverrideFile.parameters hempty
    have hsome := hnamed f₀.parameters
    rw [hnil] at hsome
    cases hsome
  · exact hnamed f₀.parameters

/-- The order of calls that write different names does not matter. -/
theorem same_at_end (hover : c.isOver = true) {eager' : Prop} {w' : σ}
    {log' : List (CrewEvent (Except GitOpsError Unit))} {c' : Crew σ (Except GitOpsError Unit)}
    (h' : Crew.Reaches s eager' (.ofPrograms (calls.map UpdateCall.program) w') log' c')
    (hover' : c'.isOver = true) (htree : tree w' = tree w)
    (hsame : ∀ i : Nat, c'.ended.lookup i = some (.ok ()) ↔ c.ended.lookup i = some (.ok ()))
    (hdisjoint : ((holders app log).map (written calls c.ended)).Pairwise DisjointNames)
    {f f' : OverrideFile} (hf : readOverrides l (tree c.state) (overridePath r app) = .ok f)
    (hf' : readOverrides l (tree c'.state) (overridePath r app) = .ok f') (name : String) :
    named? name f.parameters = named? name f'.parameters := by
  obtain ⟨hnodup, -, horder, -, hfile⟩ := merged_at_end hs hl hcalls h hover
  obtain ⟨hnodup', -, horder', -, hfile'⟩ := merged_at_end hs hl hcalls h' hover'
  have hwritten : written calls c'.ended = written calls c.ended := by
    funext i
    have hi := hsame i
    unfold written
    split
    · rename_i hc' hok
      rw [hi.mp hok, hc']
    · rename_i hnot
      split
      · rename_i hc hok
        exact absurd (hi.mpr hok) (hnot _ hc)
      · rfl
  -- The same calls have got the lock, in one order or another.
  have hperm : (holders app log).Perm (holders app log') :=
    (List.perm_ext_iff_of_nodup hnodup hnodup').mpr fun i => (horder i).trans (horder' i).symm
  rw [hf] at hfile
  rw [hf', htree, hwritten] at hfile'
  cases hstart : readOverrides l (tree w) (overridePath r app) with
  | error e =>
    rw [hstart] at hfile
    cases hfile
  | ok f₀ =>
    rw [hstart] at hfile hfile'
    have hmerged : f = _ := (Except.ok.inj hfile).trans (OverrideFile.apply_eq f₀ _)
    have hmerged' : f' = _ := (Except.ok.inj hfile').trans (OverrideFile.apply_eq f₀ _)
    rw [hmerged, hmerged', List.flatMap_def, List.flatMap_def]
    exact named?_putAll_of_perm (hperm.map _) hdisjoint name f₀.parameters

/-- **No update is lost.** Calls at the same time, for one application and with one override file, all
return. At the end the file is that of the start, merged with the parameters of the calls that have
succeeded, in the order in which they got the lock. So what a call has written is still there if no later
one has written the same name; and calls that write different names come to the same in every order. -/
theorem no_lost_update (hover : c.isOver = true) :
    let file := overridePath r app
    let order := holders app log
    (∀ i < calls.length, ∃ result, c.ended.lookup i = some result) ∧
    order.Nodup ∧ (∀ i, i ∈ order ↔ ∃ call, calls[i]? = some call ∧ call.Authorised r) ∧
    readOverrides l (tree c.state) file = (readOverrides l (tree w) file).map
      (fun f => (f.apply (order.flatMap (written calls c.ended))).1) ∧
    (∀ before after (i : Nat) (call : UpdateCall) name tag, order = before ++ i :: after →
      calls[i]? = some call → c.ended.lookup i = some (.ok ()) →
      lastTag? call.task call.application.watch name = some tag →
      (∀ j ∈ after, ∀ p ∈ written calls c.ended j, p.name ≠ name) →
      ∃ f, Holds l (tree c.state) file f ∧ named? name f.parameters = some ⟨name, tag, true⟩) ∧
    ∀ (eager' : Prop) (w' : σ) log' (c' : Crew σ (Except GitOpsError Unit)),
      Crew.Reaches s eager' (.ofPrograms (calls.map UpdateCall.program) w') log' c' →
      c'.isOver = true → tree w' = tree w →
      (∀ i : Nat, c'.ended.lookup i = some (.ok ()) ↔ c.ended.lookup i = some (.ok ())) →
      (order.map (written calls c.ended)).Pairwise DisjointNames →
      ∀ f f', readOverrides l (tree c.state) file = .ok f →
        readOverrides l (tree c'.state) file = .ok f' →
        ∀ name, named? name f.parameters = named? name f'.parameters := by
  obtain ⟨hnodup, hresults, horder, -, hfile⟩ := merged_at_end hs hl hcalls h hover
  refine ⟨hresults, hnodup, horder, hfile, ?_, ?_⟩
  · intro before after i call name tag horder hcall hresult htag hlater
    exact kept_at_end hs hl hcalls h hover horder hcall hresult htag hlater
  · intro eager' w' log' c' h' hover' htree hsame hdisjoint f f' hf hf' name
    exact same_at_end hs hl hcalls h hover h' hover' htree hsame hdisjoint hf hf' name

end AtEnd

/-! ## Two calls, and a push that is refused -/

/-- A task with another tag. -/
def nextShopTask : Task :=
  Submission.toTask { app := "shop", images := [⟨"registry/web", "v3"⟩], validated := true }
    (Simulation.taskId 1) (.ofNanos 0)

/-- Two calls for one application, with a tag each. -/
def shopCalls : List UpdateCall :=
  [⟨Updater.shopUpdater, Updater.shopApplication, Updater.shopTask⟩,
    ⟨Updater.shopUpdater, Updater.shopApplication, nextShopTask⟩]

theorem shopCalls_alike : ∀ call ∈ shopCalls,
    call.Alike Updater.shopUpdater.layer "shop" Updater.shopRepository := by
  have hrepository : ∀ r', Repository.resolve Updater.shopApplication Updater.shopApplication.watch =
      .ok r' → r' = Updater.shopRepository := by
    intro r' h
    rw [Updater.shop_authorised.2.2.1] at h
    exact (Except.ok.inj h).symm
  intro call hcall
  simp only [shopCalls, List.mem_cons, List.not_mem_nil, or_false] at hcall
  rcases hcall with rfl | rfl
  · exact ⟨rfl, rfl, fun r' h => hrepository r' h.2.2.1⟩
  · exact ⟨rfl, rfl, fun r' h => hrepository r' h.2.2.1⟩

theorem no_lost_update_two_calls : ∃ log c,
    Crew.Reaches bareHost True (.ofPrograms (shopCalls.map UpdateCall.program) ⟨{}, 1⟩) log c ∧
      c.isOver = true ∧ c.ended.map (fun e => (e.1, e.2.toOption)) = [(0, some ()), (1, some ())] ∧
      readOverrides Updater.shopUpdater.layer c.state.tree
          (overridePath Updater.shopRepository "shop") =
        (readOverrides Updater.shopUpdater.layer (Bare.tree ⟨{}, 1⟩)
          (overridePath Updater.shopRepository "shop")).map
            fun f => (f.apply ((holders "shop" log).flatMap (written shopCalls c.ended))).1 := by
  have hstart : Crew.Reaches bareHost True (.ofPrograms (shopCalls.map UpdateCall.program) ⟨{}, 1⟩) []
    (.ofPrograms (shopCalls.map UpdateCall.program) ⟨{}, 1⟩) := .start
  have hrun : (fun c : Crew Bare (Except GitOpsError Unit) =>
      (c.isOver, c.ended.map fun e => (e.1, e.2.toOption)))
        (Crew.run bareHost 60 (.ofPrograms (shopCalls.map UpdateCall.program) ⟨{}, 1⟩)) =
      (true, [(0, some ()), (1, some ())]) := by
    decide +kernel
  obtain ⟨log, hlog⟩ := Crew.run_reaches bareHost hstart 60
  generalize Crew.run bareHost 60 _ = c at hrun hlog
  obtain ⟨hover, hended⟩ := (Prod.mk.injEq ..).mp hrun
  obtain ⟨-, -, -, hfile, -⟩ := no_lost_update (bareHost_hosting Updater.shopRepository)
    TextLayer.checked_roundTrips shopCalls_alike hlog hover
  exact ⟨log, c, hlog, hover, hended, hfile⟩

end DeployWatch
