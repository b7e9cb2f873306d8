import DeployWatch.Proofs.Time.Order
import DeployWatch.Store.Tasks
import Mathlib.Data.List.Sort

/-!
# Listing tasks page by page

* `mem_listing`, `listing_pairwise`, `listing_filter_created`: which tasks are listed, in which order, also
  those of one instant;
* `page_total`, `page_tasks`: a page is a cut through the listing, for any limit and any offset;
* `flatMap_chunks`: a list cut into pieces of one length is the list again;
* **`page_exact`**: the pages of a query, and all of them together.
-/

namespace DeployWatch.TaskQuery

open Time (Instant)

variable {q : TaskQuery} {tasks : List Task} {t : Task}

theorem accepts_iff : q.accepts t = true ↔
    q.start ≤ t.created ∧ t.created ≤ q.stop ∧ ∀ a, q.app = some a → t.app = a := by
  obtain ⟨start, stop, app, limit, offset⟩ := q
  cases app <;> simp [accepts, and_assoc]

/-! ## The listing -/

theorem listing_perm (q : TaskQuery) (tasks : List Task) :
    (q.listing tasks).Perm (tasks.filter q.accepts) := List.mergeSort_perm _ _

theorem mem_listing : t ∈ q.listing tasks ↔ t ∈ tasks ∧ q.accepts t = true :=
  (listing_perm q tasks).mem_iff.trans List.mem_filter

theorem newest_trans (t u v : Task) (htu : decide (u.created ≤ t.created) = true)
    (huv : decide (v.created ≤ u.created) = true) : decide (v.created ≤ t.created) = true :=
  decide_eq_true (le_trans (of_decide_eq_true huv) (of_decide_eq_true htu))

theorem newest_total (t u : Task) :
    (decide (u.created ≤ t.created) || decide (t.created ≤ u.created)) = true := by
  simpa using le_total u.created t.created

/-- Newest first. -/
theorem listing_pairwise (q : TaskQuery) (tasks : List Task) :
    (q.listing tasks).Pairwise fun t u => u.created ≤ t.created := by
  have hsorted : (q.listing tasks).Pairwise fun t u => decide (u.created ≤ t.created) = true :=
    List.pairwise_mergeSort newest_trans newest_total _
  exact hsorted.imp fun h => of_decide_eq_true h

/-- Tasks of one instant are listed in the order in which they were found. -/
theorem listing_filter_created (q : TaskQuery) (tasks : List Task) (i : Instant) :
    (q.listing tasks).filter (fun t => t.created = i) =
      (tasks.filter q.accepts).filter (fun t => t.created = i) := by
  have htied : ((tasks.filter q.accepts).filter (fun t => t.created = i)).Pairwise
      fun t u => decide (u.created ≤ t.created) = true := by
    refine List.pairwise_of_forall_mem_list fun t ht u hu => ?_
    simp only [List.mem_filter, decide_eq_true_eq] at ht hu
    rw [ht.2, hu.2]
    exact decide_eq_true le_rfl
  -- Sorting keeps sorted parts; as both sides have equally many tasks, nothing else is of that instant.
  have hkept : ((tasks.filter q.accepts).filter (fun t => t.created = i)).Sublist (q.listing tasks) :=
    List.sublist_mergeSort newest_trans newest_total htied List.filter_sublist
  have hsublist := hkept.filter fun t => decide (t.created = i)
  rw [List.filter_filter] at hsublist
  simp only [Bool.and_self] at hsublist
  exact (hsublist.eq_of_length ((listing_perm q tasks).filter _).length_eq.symm).symm

/-! ## Pages -/

theorem page_total (q : TaskQuery) (tasks : List Task) :
    (q.page tasks).total = tasks.countP q.accepts :=
  (listing_perm q tasks).length_eq.trans List.countP_eq_length_filter.symm

theorem page_tasks (q : TaskQuery) (tasks : List Task) : (q.page tasks).tasks =
    if 0 < q.limit.toInt then
      ((q.listing tasks).drop q.offset.toInt.toNat).take q.limit.toInt.toNat
    else (q.listing tasks).drop q.offset.toInt.toNat := rfl

/-- A list cut into pieces of one length. -/
theorem flatMap_chunks {α : Type*} (l : List α) (n m : Nat) :
    ((List.range m).flatMap fun k => (l.drop (k * n)).take n) = l.take (m * n) := by
  induction m with
  | zero => simp
  | succ m ih => rw [List.range_succ, List.flatMap_append, ih, List.flatMap_singleton, ← List.take_add,
      Nat.succ_mul]

/-- The query for one of the pages of a length, counted from zero. -/
def atPage (q : TaskQuery) (length : Int64) (k : Nat) : TaskQuery :=
  { q with limit := length, offset := .ofInt (k * length.toInt) }

/-- The query without pages. -/
def unbounded (q : TaskQuery) : TaskQuery := { q with limit := 0, offset := 0 }

theorem page_unbounded (q : TaskQuery) (tasks : List Task) :
    (q.unbounded.page tasks).tasks = q.listing tasks :=
  (page_tasks _ _).trans (if_neg (show ¬ 0 < (0 : Int64).toInt by decide))

theorem page_atPage {n : Int64} (hn : 0 < n.toInt) {k : Nat} (hk : k * n.toInt ≤ Int64.maxValue.toInt) :
    ((q.atPage n k).page tasks).tasks =
      ((q.listing tasks).drop (k * n.toInt.toNat)).take n.toInt.toNat := by
  have hcast : (k * n.toInt : Int) = (k * n.toInt.toNat : Nat) := by
    rw [Int.natCast_mul, Int.toNat_of_nonneg hn.le]
  have hoffset : (Int64.ofInt (k * n.toInt)).toInt.toNat = k * n.toInt.toNat := by
    rw [Int64.toInt_ofInt_of_le (by omega) (Int.lt_of_le_of_lt hk (by decide)), hcast, Int.toNat_natCast]
  rw [← hoffset]
  exact (page_tasks _ _).trans (if_pos hn)

/-- **Page after page, the listing comes out.** -/
theorem flatMap_atPage (q : TaskQuery) (tasks : List Task) {n : Int64} (hn : 0 < n.toInt) (m : Nat)
    (hm : ∀ k < m, k * n.toInt ≤ Int64.maxValue.toInt) :
    ((List.range m).flatMap fun k => ((q.atPage n k).page tasks).tasks) =
      (q.listing tasks).take (m * n.toInt.toNat) := by
  rw [← flatMap_chunks]
  exact List.flatMap_congr fun k hk => page_atPage hn (hm k (List.mem_range.mp hk))

/-- As many pages as fill the listing are all of it. -/
theorem flatMap_atPage_all (q : TaskQuery) (tasks : List Task) {n : Int64} (hn : 0 < n.toInt)
    (hlength : (q.listing tasks).length ≤ Int64.maxValue.toInt) :
    ((List.range ((q.listing tasks).length / n.toInt.toNat + 1)).flatMap
      fun k => ((q.atPage n k).page tasks).tasks) = q.listing tasks := by
  generalize hcount : n.toInt.toNat = count
  have hcast : n.toInt = count := by omega
  have hlt := Nat.lt_div_mul_add (a := (q.listing tasks).length) (b := count) (by omega)
  rw [flatMap_atPage q tasks hn _ fun k hk => ?_, hcount,
    List.take_of_length_le (by rw [Nat.succ_mul]; exact hlt.le)]
  have hle : k * count ≤ (q.listing tasks).length :=
    (Nat.mul_le_mul_right _ (Nat.le_of_lt_succ hk)).trans (Nat.div_mul_le_self _ _)
  rw [hcast, ← Int.natCast_mul]
  exact (Int.ofNat_le.mpr hle).trans hlength

/-- **Pages are exact.** The store lists its tasks in some order. For every query, the total counts the
tasks of the span of time and, if one is given, of the application; a page holds these tasks, newest first,
with as many passed over as the offset says and no more kept than the limit says, if it is positive. So the
pages of any length, put together, are the listing without pages: none of its tasks is missed, and none
comes twice. -/
theorem page_exact {st : TaskStore} {order : List Task} (horder : order.Perm st.tasks) (q : TaskQuery) :
    let wanted := fun t : Task =>
      decide (q.start ≤ t.created ∧ t.created ≤ q.stop ∧ ∀ a ∈ q.app, t.app = a)
    let all := (q.unbounded.page order).tasks
    all.Perm (st.tasks.filter wanted) ∧
    all.Pairwise (fun t u => u.created ≤ t.created) ∧
    (∀ i, all.filter (fun t => t.created = i) = (order.filter wanted).filter (fun t => t.created = i)) ∧
    (q.page order).total = st.tasks.countP wanted ∧
    (q.page order).tasks = (
      let rest := all.drop (max q.offset.toInt 0).toNat
      if 0 < q.limit then rest.take q.limit.toInt.toNat else rest) ∧
    ∀ n : Int64, 0 < n →
      (∀ m : Nat, (∀ k < m, k * n.toInt ≤ Int64.maxValue.toInt) →
        ((List.range m).flatMap fun k => ((q.atPage n k).page order).tasks) =
          all.take (m * n.toInt.toNat)) ∧
      (all.length ≤ Int64.maxValue.toInt →
        ((List.range (all.length / n.toInt.toNat + 1)).flatMap
          fun k => ((q.atPage n k).page order).tasks) = all) := by
  intro wanted all
  have haccepts : q.accepts = wanted := by
    funext t
    rw [Bool.eq_iff_iff, accepts_iff, decide_eq_true_eq]
    rfl
  have hall : all = q.listing order := page_unbounded q order
  have hperm : all.Perm (st.tasks.filter wanted) := by
    rw [hall, ← haccepts]
    exact (listing_perm q order).trans (horder.filter _)
  refine ⟨hperm, hall ▸ listing_pairwise q order, fun i => ?_, ?_, ?_, fun n hn => ?_⟩
  · rw [hall, ← haccepts]
    exact listing_filter_created q order i
  · rw [page_total, haccepts]
    exact horder.countP_eq _
  · have hoffset : (max q.offset.toInt 0).toNat = q.offset.toInt.toNat := by omega
    rw [page_tasks, hall, hoffset]
    simp only [Int64.lt_iff_toInt_lt, Int64.toInt_zero]
  · have hpos : 0 < n.toInt := by rwa [Int64.lt_iff_toInt_lt] at hn
    rw [hall]
    exact ⟨flatMap_atPage q order hpos, flatMap_atPage_all q order hpos⟩

/-- Three tasks, two of them created in one instant. -/
def tiedStore : TaskStore where
  tasks := [(0, 4), (1, 5), (2, 4)].map fun ((n, created) : BitVec 128 × Int) =>
    ({ app := "shop" } : Submission).toTask ⟨n⟩ (.ofNanos created)

theorem page_exact_tied :
    let q : TaskQuery := { start := .ofNanos 4, stop := .ofNanos 5, app := some "shop" }
    let order := tiedStore.tasks.reverse
    order.Perm tiedStore.tasks ∧ (q.page order).total = 3 ∧
    ((List.range 2).flatMap fun k => ((q.atPage 2 k).page order).tasks) = (q.unbounded.page order).tasks := by
  intro q order
  have horder : order.Perm tiedStore.tasks := List.reverse_perm _
  obtain ⟨hperm, -, -, htotal, -, hpages⟩ := page_exact horder q
  have hlength : (q.unbounded.page order).tasks.length = 3 := hperm.length_eq.trans (by decide +kernel)
  refine ⟨horder, htotal.trans (by decide +kernel), ?_⟩
  have hall := (hpages 2 (by decide)).2 (by rw [hlength]; decide)
  rwa [hlength] at hall

end DeployWatch.TaskQuery
