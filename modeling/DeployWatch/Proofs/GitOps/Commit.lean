import DeployWatch.Proofs.GitOps.Edit
import DeployWatch.Proofs.Program.Ensures

/-!
# What an update does to a branch

* `Hosting`: what is expected of those who answer checkouts and pushes;
* `pushes`, `audits`, `Quiet`: the marks that an update leaves in its history;
* `CommitEffect`: what may come of an update that is under way;
* `Updater.retrying_ensures`, `Updater.attempt_ensures_of_copy`: rules for attempts;
* `attempt_ensures`, **`commit_ensures`**: nothing else comes of one attempt and of all attempts.
-/

namespace DeployWatch

open FileTree (placeOf)
open Program (ask done Ensures)

/-! ## Those who answer -/

def Request.isPush : Request → Bool
  | .push .. => true
  | _ => false

/-- Answers to checkouts and pushes as a repository gives them whose branch holds `tree`. A copy holds
what the branch holds, a refused push changes nothing, and a push that is taken brings the file it is
about to the branch; whatever other files it changes come from the copy. -/
structure Hosting {σ : Type} (s : Surroundings σ) (r : Repository) (tree : σ → FileTree) : Prop where
  copied : ∀ w copy, (s.answer (.checkout r) w).1 = .ok copy → copy.files = tree w
  quiet : ∀ q w, q.isPush = false → tree (s.answer q w).2 = tree w
  refused : ∀ copy file message w e, (s.answer (.push copy r file message) w).1 = .error e →
    tree (s.answer (.push copy r file message) w).2 = tree w
  taken : ∀ copy file message w, (s.answer (.push copy r file message) w).1 = .ok () →
    (∀ text, copy.files.readText file = .ok text →
      (tree (s.answer (.push copy r file message) w).2).readText file = .ok text) ∧
    ∀ p, (tree (s.answer (.push copy r file message) w).2).fileAt? p = (tree w).fileAt? p ∨
      (tree (s.answer (.push copy r file message) w).2).fileAt? p = copy.files.fileAt? p
  passing : ∀ time w, tree (s.atTime time w) = tree w

/-! ## Marks in a history -/

def Exchange.pushed? : Exchange → Option String
  | ⟨.push _ _ file _, .ok ()⟩ => some file
  | _ => none

def Exchange.audited? : Exchange → Option AuditEvent
  | ⟨.audit e, _⟩ => some e
  | _ => none

/-- The files of the pushes that were taken. -/
def pushes (h : List Exchange) : List String := h.filterMap Exchange.pushed?

/-- The audit events that were written. -/
def audits (h : List Exchange) : List AuditEvent := h.filterMap Exchange.audited?

theorem pushes_append (h h' : List Exchange) : pushes (h ++ h') = pushes h ++ pushes h' :=
  List.filterMap_append

theorem audits_append (h h' : List Exchange) : audits (h ++ h') = audits h ++ audits h' :=
  List.filterMap_append

/-- A history without pushes that were taken and without audit events. -/
def Quiet (h : List Exchange) : Prop := pushes h = [] ∧ audits h = []

/-! ## What may come of an update -/

/-- What may come of an update that finds a branch as `v`: it fails and leaves the branch alone; it finds
its parameters in the file already; or it pushes the merged file once and says so once. -/
inductive CommitEffect (l : TextLayer) (file : String) (ps : List Parameter) (event : AuditEvent)
    (v : FileTree) : Except GitOpsError Unit → List Exchange → FileTree → Prop
  | failed (e : GitOpsError) {h : List Exchange} : Quiet h → CommitEffect l file ps event v (.error e) h v
  | current {f : OverrideFile} {h : List Exchange} : Quiet h → Holds l v file f →
      (f.apply ps).1 = f → CommitEffect l file ps event v (.ok ()) h v
  | pushed {f : OverrideFile} {h : List Exchange} {v' : FileTree} :
      pushes h = [file] → audits h = [event] →
      readOverrides l v file = .ok f → Holds l v' file (f.apply ps).1 →
      (∀ q, q ≠ placeOf (steps file) → v'.fileAt? q = v.fileAt? q) →
      CommitEffect l file ps event v (.ok ()) h v'

namespace CommitEffect

variable {l : TextLayer} {file : String} {ps : List Parameter} {event : AuditEvent} {v v' : FileTree}
  {result : Except GitOpsError Unit} {h h' : List Exchange}

theorem of_marks (hpushed : pushes h' = pushes h)
    (haudited : audits h' = audits h)
    (he : CommitEffect l file ps event v result h v') :
    CommitEffect l file ps event v result h' v' := by
  cases he with
  | failed e hq => exact .failed e ⟨hpushed.trans hq.1, haudited.trans hq.2⟩
  | current hq hf ha => exact .current ⟨hpushed.trans hq.1, haudited.trans hq.2⟩ hf ha
  | pushed hp ha hf hf' hothers =>
    exact .pushed (hpushed.trans hp) (haudited.trans ha) hf hf' hothers

theorem of_error {e : GitOpsError} (he : CommitEffect l file ps event v (.error e) h v') :
    v' = v ∧ Quiet h := by
  cases he with
  | failed e hq => exact ⟨rfl, hq⟩

end CommitEffect

/-! ## Attempts -/

/-- What one attempt makes sure of, all attempts together make sure of, if a failed attempt leaves the
view alone and does not matter once there is another one. -/
theorem Updater.retrying_ensures {σ ν : Type} {s : Surroundings σ} {view : σ → ν} {v : ν}
    {b : Backoff} {body : Program (Except GitOpsError Unit)}
    {Q : Except GitOpsError Unit → List Exchange → ν → Prop}
    (hclock : ∀ w, view (s.answer .clockNanos w).2 = view w)
    (hsleep : ∀ duration w, view (s.answer (.sleep duration) w).2 = view w)
    (hbody : body.Ensures s view v Q)
    (hagain : ∀ e h v', Q (.error e) h v' → v' = v ∧ ∀ nanos duration result h' v'',
      Q result h' v'' → Q result (h ++ ⟨.clockNanos, nanos⟩ :: ⟨.sleep duration, ()⟩ :: h') v'')
    (left number : Nat) : (retrying b body left number).Ensures s view v Q := by
  induction left generalizing number with
  | zero => exact hbody
  | succ left ih =>
    rw [retrying_succ]
    refine hbody.bind fun result h v' hQ => ?_
    cases result with
    | ok _ =>
      refine Ensures.done ?_
      rw [List.append_nil]
      exact hQ
    | error e =>
      obtain ⟨rfl, hlater⟩ := hagain e h v' hQ
      dsimp only
      split
      · refine Ensures.ask hclock fun nanos => ?_
        refine Ensures.ask (hsleep _) fun _ => ?_
        exact (ih (number + 1)).mono fun result h' v'' hQ' => hlater _ _ _ _ _ hQ'
      · refine Ensures.done ?_
        rw [List.append_nil]
        exact hQ

/-- What an attempt makes sure of, by what came of its checkout. -/
theorem Updater.attempt_ensures_of_copy {σ : Type} {s : Surroundings σ} {r : Repository}
    {tree : σ → FileTree} (hs : Hosting s r tree) (u : Updater) (hclient : u.client = .remote)
    {t : Task} {ps : List Parameter} {v : FileTree}
    {Q : Except GitOpsError Unit → List Exchange → FileTree → Prop}
    (hrefused : ∀ e, Q (.error e) [⟨.checkout r, .error e⟩] v)
    (hcopied : ∀ copy, copy.files = v → (u.useCopy r t ps copy).Ensures s tree v
      fun result h v' => Q result (⟨.checkout r, .ok copy⟩ :: h) v') :
    (u.attempt r t ps).Ensures s tree v Q := by
  rw [attempt_eq, hclient]
  rintro w rfl
  have hfiles := hs.copied w
  have hquiet : tree (s.answer (.checkout r) w).2 = tree w := hs.quiet _ w rfl
  generalize s.answer (.checkout r) w = answered at hfiles hquiet ⊢
  obtain ⟨result, w'⟩ := answered
  dsimp only at hquiet
  rw [hquiet]
  cases result with
  | error e => exact Ensures.done (hrefused e)
  | ok copy => exact hcopied copy (hfiles copy rfl)

section Commit

variable {σ : Type} {s : Surroundings σ} {r : Repository} {tree : σ → FileTree}
  (hs : Hosting s r tree) (u : Updater) (hclient : u.client = .remote) (hl : u.layer.RoundTrips)
  (t : Task) {ps : List Parameter} (hps : ps ≠ [])

include hs hclient hl hps

theorem useCopy_ensures (copy : WorkingCopy) :
    (u.useCopy r t ps copy).Ensures s tree copy.files
      (CommitEffect u.layer (overridePath r t.app) ps (Updater.committed r t ps) copy.files) := by
  unfold Updater.useCopy
  cases hedit : editOverrides u.layer ps copy.files (overridePath r t.app) with
  | error e => exact Ensures.done (.failed e ⟨rfl, rfl⟩)
  | ok o =>
    cases o with
    | none =>
      obtain ⟨f, hf, happly⟩ := editOverrides_none hps hedit
      exact Ensures.done (.current ⟨rfl, rfl⟩ hf happly)
    | some files =>
      obtain ⟨f, hf, ⟨text, htext, hparse⟩, hothers⟩ := editOverrides_some hl hedit
      rw [hclient]
      intro w hw
      have hrefused := hs.refused { copy with files := files } (overridePath r t.app)
        (u.commitMessage t) w
      have htaken := hs.taken { copy with files := files } (overridePath r t.app)
        (u.commitMessage t) w
      generalize s.answer (.push { copy with files := files } r (overridePath r t.app)
        (u.commitMessage t)) w = answered at hrefused htaken ⊢
      obtain ⟨result, w'⟩ := answered
      cases result with
      | error e =>
        rw [hrefused e rfl, hw]
        exact Ensures.done (.failed e ⟨rfl, rfl⟩)
      | ok _ =>
        obtain ⟨hread, hfiles⟩ := htaken rfl
        refine Ensures.ask (fun w => hs.quiet _ w rfl) fun x => Ensures.done ?_
        refine .pushed rfl rfl hf ⟨text, hread text htext, hparse⟩ fun q hq => ?_
        rcases hfiles q with h | h
        · rw [h, hw]
        · rw [h, hothers q hq]

/-- Nothing else comes of one attempt. -/
theorem attempt_ensures (v : FileTree) : (u.attempt r t ps).Ensures s tree v
    (CommitEffect u.layer (overridePath r t.app) ps (Updater.committed r t ps) v) := by
  refine Updater.attempt_ensures_of_copy hs u hclient (fun e => .failed e ⟨rfl, rfl⟩)
    fun copy hcopy => ?_
  rw [← hcopy]
  exact (useCopy_ensures hs u hclient hl t hps copy).mono fun result h v' he =>
    he.of_marks (by rfl) (by rfl)

/-- **Nothing else comes of all attempts together**: an attempt that is followed by another one has left
the branch alone. -/
theorem commit_ensures (v : FileTree) : (u.commit r t ps).Ensures s tree v
    (CommitEffect u.layer (overridePath r t.app) ps (Updater.committed r t ps) v) := by
  refine Updater.retrying_ensures (fun w => hs.quiet _ w rfl) (fun _ w => hs.quiet _ w rfl)
    (attempt_ensures hs u hclient hl t hps v) (fun e h v' he => ?_) _ _
  obtain ⟨rfl, hq⟩ := he.of_error
  refine ⟨rfl, fun nanos duration result h' v'' he' => he'.of_marks ?_ ?_⟩
  · rw [pushes_append, hq.1]
    rfl
  · rw [audits_append, hq.2]
    rfl

end Commit

end DeployWatch
