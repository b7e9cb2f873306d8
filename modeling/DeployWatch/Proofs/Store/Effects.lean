import DeployWatch.Proofs.Program.Unfolding
import Mathlib.Data.List.Nodup

/-!
# What exchanges do to the task store

* `TaskStore.Effect`: what one exchange can do to the store;
* `TaskStore.Becomes`, **`Effect.becomes`**: how a task comes to be in the store;
* `Keeps`: surroundings with a task store;
* `Replays`, **`Unfolds.replays`**: the store after an interleaving is told by the exchanges in it;
* `Replays.admitted`, `Replays.standing`: how a stored task came to its status;
* `IssuedOnce`: identifiers are given to one task each.
-/

namespace DeployWatch

open Time (Instant)

/-- A task as it was when it was admitted. -/
def Task.asAdmitted (t : Task) : Task :=
  { t with updated := t.created, status := .inProgress, reason := "" }

@[simp] theorem Task.asAdmitted_withStatus (t : Task) (status : Status) (reason : String)
    (now : Instant) : (t.withStatus status reason now).asAdmitted = t.asAdmitted := rfl

namespace TaskStore

/-! ## One exchange -/

/-- What an exchange can do to the store. Refused writes and exchanges about other things keep it as it
is. -/
inductive Effect (st : TaskStore) : Exchange → TaskStore → Prop
  | add (s : Submission) (id : Uuid) (now : Instant) :
    Effect st ⟨.addTask s, .ok (st.add s id now).2⟩ (st.add s id now).1
  | set {id : Uuid} {status : Status} {reason : String} {now : Instant} {st' : TaskStore} :
    st.setStatus id status reason now = .ok st' → Effect st ⟨.setStatus id status reason, .ok ()⟩ st'
  | sweep (staleness : Nat) (start : Instant) (readings : Uuid → Instant) :
    Effect st ⟨.sweep staleness, .ok (st.sweep staleness start readings).2⟩
      (st.sweep staleness start readings).1
  | keep (e : Exchange) : Effect st e st

/-- How a task comes to be in the store that an exchange leaves. -/
inductive Becomes (st : TaskStore) (e : Exchange) : Task → Prop
  | stays {t : Task} : t ∈ st.tasks → Becomes st e t
  | admitted {s : Submission} {id : Uuid} {now : Instant} :
    e = ⟨.addTask s, .ok (s.toTask id now)⟩ → Becomes st e (s.toTask id now)
  | written {t : Task} {status : Status} {reason : String} (now : Instant) :
    t ∈ st.tasks → e = ⟨.setStatus t.id status reason, .ok ()⟩ →
    Becomes st e (t.withStatus status reason now)
  | aborted {t : Task} (now : Instant) :
    t ∈ st.tasks → t.status = .inProgress →
    Becomes st e (t.withStatus .aborted abortedReason now)

variable {st st' : TaskStore} {e : Exchange} {t : Task}

theorem setStatus_eq_ok {id : Uuid} {status : Status} {reason : String} {now : Instant}
    (h : st.setStatus id status reason now = .ok st') : st'.tasks =
      st.tasks.map fun t => if t.id = id then t.withStatus status reason now else t := by
  unfold setStatus at h
  split at h
  · cases h
    rfl
  · cases h

/-- **What an exchange leaves in the store** was there, has been admitted, or is an older task with the
status that was written. -/
theorem Effect.becomes (h : st.Effect e st') (ht : t ∈ st'.tasks) : st.Becomes e t := by
  cases h with
  | add s id now =>
    rcases List.mem_append.mp ht with ht | ht
    · exact .stays (List.mem_of_mem_filter ht)
    · obtain rfl := List.mem_singleton.mp ht
      exact .admitted rfl
  | @set id status reason now _ hset =>
    rw [setStatus_eq_ok hset] at ht
    obtain ⟨u, hu, rfl⟩ := List.mem_map.mp ht
    by_cases hid : u.id = id
    · rw [if_pos hid]
      subst hid
      exact .written now hu rfl
    · rw [if_neg hid]
      exact .stays hu
  | sweep staleness start readings =>
    obtain ⟨u, hu, rfl⟩ := List.mem_map.mp ht
    have hmem := List.mem_of_mem_filter hu
    split
    · rename_i habort
      unfold isAbortable at habort
      rw [Bool.and_eq_true, beq_iff_eq] at habort
      exact .aborted (readings u.id) hmem habort.1
    · exact .stays hmem
  | keep => exact .stays ht

theorem ids_map {change : Task → Task} (hchange : ∀ t, (change t).id = t.id) (ts : List Task) :
    (ts.map change).map (·.id) = ts.map (·.id) := by
  rw [List.map_map]
  exact List.map_congr_left fun t _ => hchange t

/-- Identifiers stay unique. -/
theorem Effect.nodup_ids (h : st.Effect e st') (hst : (st.tasks.map (·.id)).Nodup) :
    (st'.tasks.map (·.id)).Nodup := by
  have hkept : ∀ p : Task → Bool, ((st.tasks.filter p).map (·.id)).Nodup :=
    fun p => (List.filter_sublist.map _).nodup hst
  cases h with
  | add s id now =>
    show ((st.tasks.filter (fun u => u.id ≠ id) ++ [s.toTask id now]).map (·.id)).Nodup
    rw [List.map_append, List.nodup_append]
    refine ⟨hkept _, List.nodup_singleton _, ?_⟩
    intro i hi j hj
    obtain ⟨u, hu, rfl⟩ := List.mem_map.mp hi
    obtain rfl := List.mem_singleton.mp hj
    exact of_decide_eq_true (List.mem_filter.mp hu).2
  | set hset =>
    rw [setStatus_eq_ok hset, ids_map (fun t => by split <;> rfl)]
    exact hst
  | sweep staleness start readings =>
    show (List.map _ (List.map _ _)).Nodup
    rw [ids_map (fun t => by split <;> rfl)]
    exact hkept _
  | keep => exact hst

end TaskStore

/-! ## Surroundings with a store -/

/-- Surroundings that keep a task store, and change it by their exchanges only. -/
structure Keeps {σ : Type} (s : Surroundings σ) (store : σ → TaskStore) : Prop where
  answers : ∀ r w, (store w).Effect ⟨r, (s.answer r w).1⟩ (store (s.answer r w).2)
  passing : ∀ time w, store (s.atTime time w) = store w

/-- The stores to which exchanges can lead. -/
inductive Replays (st₀ : TaskStore) : List (Nat × Exchange) → TaskStore → Prop
  | start : Replays st₀ [] st₀
  | snoc {H : List (Nat × Exchange)} {st st' : TaskStore} {n : Nat} {e : Exchange} :
    Replays st₀ H st → st.Effect e st' → Replays st₀ (H ++ [(n, e)]) st'

/-- How a stored task can have come to its status: it has kept that of its admission, its status was
written, or a sweep has aborted it. -/
inductive Standing (H : List (Nat × Exchange)) (t : Task) : Prop
  | admitted : t.status = .inProgress → t.reason = "" → Standing H t
  | written (n : Nat) : (n, ⟨.setStatus t.id t.status t.reason, .ok ()⟩) ∈ H → Standing H t
  | aborted : t.status = .aborted → t.reason = abortedReason → Standing H t

namespace Replays

variable {st₀ st : TaskStore} {H : List (Nat × Exchange)} {t : Task}

theorem nodup_ids (h : Replays {} H st) : (st.tasks.map (·.id)).Nodup := by
  induction h with
  | start => exact List.nodup_nil
  | snoc _ heffect ih => exact heffect.nodup_ids ih

/-- **A stored task was admitted**, and nothing but its status, its reason and the time of its update has
changed since. -/
theorem admitted (h : Replays {} H st) (ht : t ∈ st.tasks) :
    ∃ n s, (n, ⟨.addTask s, .ok t.asAdmitted⟩) ∈ H := by
  induction h generalizing t with
  | start => cases ht
  | @snoc H st st' n e _ heffect ih =>
    have hold : ∀ u ∈ st.tasks, ∃ n' s, (n', ⟨.addTask s, .ok u.asAdmitted⟩) ∈ H ++ [(n, e)] := by
      intro u hu
      obtain ⟨n', s, hs⟩ := ih hu
      exact ⟨n', s, List.mem_append_left _ hs⟩
    cases heffect.becomes ht with
    | stays ht => exact hold t ht
    | admitted he =>
      subst he
      exact ⟨n, _, List.mem_append_right _ (List.mem_singleton.mpr rfl)⟩
    | written now hu _ =>
      rw [Task.asAdmitted_withStatus]
      exact hold _ hu
    | aborted now hu _ =>
      rw [Task.asAdmitted_withStatus]
      exact hold _ hu

/-- **The status of a stored task** is that of its admission, of a write, or of a sweep. -/
theorem standing (h : Replays {} H st) (ht : t ∈ st.tasks) : Standing H t := by
  induction h generalizing t with
  | start => cases ht
  | @snoc H st st' n e _ heffect ih =>
    cases heffect.becomes ht with
    | stays ht =>
      cases ih ht with
      | admitted hstatus hreason => exact .admitted hstatus hreason
      | written n' hwrite => exact .written n' (List.mem_append_left _ hwrite)
      | aborted hstatus hreason => exact .aborted hstatus hreason
    | admitted _ => exact .admitted rfl rfl
    | written now _ he =>
      subst he
      exact .written n (List.mem_append_right _ (List.mem_singleton.mpr rfl))
    | aborted now _ _ => exact .aborted rfl rfl

end Replays

section Interleavings

variable {σ α : Type} {s : Surroundings σ} {store : σ → TaskStore} {start c : Crew σ α}
  {H : List (Nat × Exchange)}

theorem Keeps.passes (hkeeps : Keeps s store) {w w' : σ} (h : Floor.Passes s w w') :
    store w' = store w := by
  rcases h with rfl | ⟨time, rfl⟩
  · rfl
  · exact hkeeps.passing time w

/-- **The exchanges of an interleaving lead to the store after it.** -/
theorem Crew.Unfolds.replays (hkeeps : Keeps s store) (htidy : start.Tidy)
    (h : Unfolds s start H c) : Replays (store start.state) H (store c.state) := by
  refine (h.invariant (I := fun H F => Replays (store start.state) H (store F.state)) htidy .start
    fun H F es F' hreplays hmoves => ?_).2
  cases hmoves with
  | quiet _ hpasses =>
    rw [List.append_nil, hkeeps.passes hpasses]
    exact hreplays
  | asks _ _ _ hpasses =>
    rw [hkeeps.passes hpasses]
    exact hreplays.snoc (hkeeps.answers _ _)

end Interleavings

/-! ## Identifiers -/

/-- The admissions of a history, each with the number of its program. -/
def admissions (H : List (Nat × Exchange)) : List (Nat × Task) :=
  H.filterMap fun
    | (n, ⟨.addTask _, .ok t⟩) => some (n, t)
    | _ => none

/-- No identifier was given to two tasks. -/
def IssuedOnce (H : List (Nat × Exchange)) : Prop := ((admissions H).map (·.2.id)).Nodup

theorem mem_admissions {H : List (Nat × Exchange)} {n : Nat} {s : Submission} {t : Task}
    (h : (n, ⟨.addTask s, .ok t⟩) ∈ H) : (n, t) ∈ admissions H :=
  List.mem_filterMap.mpr ⟨_, h, rfl⟩

/-- Of two admissions with one identifier, one is the other. -/
theorem IssuedOnce.eq {H : List (Nat × Exchange)} (h : IssuedOnce H) {n n' : Nat} {s s' : Submission}
    {t t' : Task} (ht : (n, ⟨.addTask s, .ok t⟩) ∈ H) (ht' : (n', ⟨.addTask s', .ok t'⟩) ∈ H)
    (hid : t.id = t'.id) : n = n' ∧ t = t' := by
  exact Prod.mk.inj (List.inj_on_of_nodup_map h (mem_admissions ht) (mem_admissions ht') hid)

end DeployWatch
