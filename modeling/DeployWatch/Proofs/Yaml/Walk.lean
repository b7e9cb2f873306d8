import DeployWatch.Yaml.Value
import Mathlib.Data.List.Forall2

/-!
# Results of walks

* `Yields`, `YieldsIn`: all results of a walk satisfy a condition, in all documents or in one, with the
  rules for its parts;
* `Value.Readable`: what can be read with a number of collections inside one another;
* **`read_yields`**: what is read is readable.
-/

namespace DeployWatch.Yaml

variable {α β : Type}

/-- All results of a walk satisfy a condition. -/
def Yields (w : Walk α) (P : α → Prop) : Prop :=
  ∀ doc jumps a jumps', (w.run doc).run jumps = some (a, jumps') → P a

/-- All results of a walk through one document satisfy a condition. -/
def YieldsIn (doc : Document) (w : Walk α) (P : α → Prop) : Prop :=
  ∀ jumps a jumps', (w.run doc).run jumps = some (a, jumps') → P a

namespace YieldsIn

variable {doc : Document}

theorem pure {a : α} {P : α → Prop} (h : P a) : YieldsIn doc (pure a) P := by
  rintro jumps b jumps' hb
  cases hb
  exact h

theorem failure {P : α → Prop} : YieldsIn doc (failure : Walk α) P := by
  rintro jumps b jumps' hb
  cases hb

theorem trivial (w : Walk α) : YieldsIn doc w fun _ => True := fun _ _ _ _ => True.intro

theorem bind {w : Walk α} {f : α → Walk β} {P : α → Prop} {Q : β → Prop} (hw : YieldsIn doc w P)
    (hf : ∀ a, P a → YieldsIn doc (f a) Q) : YieldsIn doc (w >>= f) Q := by
  intro jumps b jumps' hb
  rw [ReaderT.run_bind, StateT.run_bind, Option.bind_eq_bind, Option.bind_eq_some_iff] at hb
  obtain ⟨⟨a, j⟩, ha, hb⟩ := hb
  exact hf a (hw jumps a j ha) j b jumps' hb

theorem mono {w : Walk α} {P Q : α → Prop} (hw : YieldsIn doc w P) (h : ∀ a, P a → Q a) :
    YieldsIn doc w Q :=
  fun jumps a jumps' ha => h a (hw jumps a jumps' ha)

/-- A walk for each item of a list has its results in the order of the items. -/
theorem mapM {f : α → Walk β} {R : α → β → Prop} (hf : ∀ a, YieldsIn doc (f a) (R a)) (l : List α) :
    YieldsIn doc (l.mapM f) (List.Forall₂ R l) := by
  induction l with
  | nil =>
    rw [List.mapM_nil]
    exact pure .nil
  | cons a l ih =>
    rw [List.mapM_cons]
    exact (hf a).bind fun b hb => ih.bind fun bs hbs => pure (.cons hb hbs)

/-- An invariant of a fold, which may speak of the items that were gone through. -/
theorem foldlM {f : β → α → Walk β} {I : List α → β → Prop}
    (hf : ∀ before b a, I before b → YieldsIn doc (f b a) (I (before ++ [a]))) (l : List α) {b : β}
    (hb : I [] b) : YieldsIn doc (l.foldlM f b) (I l) := by
  suffices h : ∀ before b, I before b → YieldsIn doc (l.foldlM f b) (I (before ++ l)) from h [] b hb
  induction l with
  | nil =>
    intro before b hb
    rw [List.append_nil]
    exact pure hb
  | cons a l ih =>
    intro before b hb
    rw [List.foldlM_cons, List.append_cons]
    exact (hf before b a hb).bind fun b' hb' => ih _ b' hb'

end YieldsIn

namespace Yields

theorem pure {a : α} {P : α → Prop} (h : P a) : Yields (pure a) P := fun _ => YieldsIn.pure h

theorem failure {P : α → Prop} : Yields (failure : Walk α) P := fun _ => YieldsIn.failure

theorem trivial (w : Walk α) : Yields w fun _ => True := fun _ => YieldsIn.trivial w

theorem bind {w : Walk α} {f : α → Walk β} {P : α → Prop} {Q : β → Prop} (hw : Yields w P)
    (hf : ∀ a, P a → Yields (f a) Q) : Yields (w >>= f) Q :=
  fun doc => YieldsIn.bind (hw doc) fun a ha => hf a ha doc

theorem mono {w : Walk α} {P Q : α → Prop} (hw : Yields w P) (h : ∀ a, P a → Q a) : Yields w Q :=
  fun doc => YieldsIn.mono (hw doc) h

theorem mapM {f : α → Walk β} {P : β → Prop} (hf : ∀ a, Yields (f a) P) (l : List α) :
    Yields (l.mapM f) fun bs => ∀ b ∈ bs, P b := by
  refine fun doc => (YieldsIn.mapM (R := fun _ => P) (fun a => hf a doc) l).mono fun bs h => ?_
  induction h with
  | nil => simp
  | cons hb _ ih => simpa using ⟨hb, ih⟩

theorem foldlM {f : β → α → Walk β} {I : β → Prop} (hf : ∀ b a, I b → Yields (f b a) I) (l : List α)
    {b : β} (hb : I b) : Yields (l.foldlM f b) I :=
  fun doc => YieldsIn.foldlM (I := fun _ => I) (fun _ b a hb => hf b a hb doc) l hb

end Yields

/-! ## Readable values -/

namespace Value

/-- What some scalar stands for. -/
def OfScalar (v : Value) : Prop :=
  ∃ tag style s, (Scalar.ofTagged? tag style s).bind ofScalar? = some v

/-- What some node with at most so many collections inside one another stands for. -/
def Readable : Nat → Value → Prop
  | d + 1, sequence items => ∀ v ∈ items, v.Readable d
  | d + 1, mapping entries =>
    distinctKeys entries = true ∧ ∀ e ∈ entries, e.1.Readable d ∧ e.2.Readable d
  | _, v => v.OfScalar

theorem OfScalar.readable {v : Value} (h : v.OfScalar) (d : Nat) : v.Readable d := by
  obtain ⟨tag, style, s, hs⟩ := h
  cases v with
  | sequence items | mapping entries =>
    obtain ⟨sc, -, hsc⟩ := Option.bind_eq_some_iff.mp hs
    cases sc <;> simp [ofScalar?] at hsc
  | _ => cases d <;> exact ⟨tag, style, s, hs⟩

theorem readable_text (s : String) (d : Nat) : (text s).Readable d :=
  OfScalar.readable ⟨none, .doubleQuoted, s, rfl⟩ d

theorem readable_true (d : Nat) : (bool true).Readable d :=
  OfScalar.readable ⟨none, .plain, "true", rfl⟩ d

theorem readWith_yields {part : Option (Node → Walk Value)} {P : Value → Prop}
    (hscalar : ∀ v, OfScalar v → P v)
    (hsequence : ∀ f (items : List Node), part = some f → Yields (items.mapM f) fun vs => P (sequence vs))
    (hmapping : ∀ f (entries : List (Node × Node)), part = some f →
      Yields (entries.mapM fun e => do return (← f e.1, ← f e.2)) fun es =>
        distinctKeys es = true → P (mapping es)) (n : Node) :
    Yields (readWith part n) P := by
  unfold readWith
  refine (Yields.trivial _).bind fun m _ => ?_
  cases m with
  | scalar tag style s =>
    dsimp only
    split
    · rename_i v hv
      exact Yields.pure (hscalar v ⟨tag, style, s, hv⟩)
    · exact Yields.failure
  | sequence tag items =>
    cases part with
    | none => exact Yields.failure
    | some f =>
      dsimp only
      split
      · exact Yields.failure
      · exact (hsequence f items rfl).bind fun vs hvs => Yields.pure hvs
  | mapping tag entries =>
    cases part with
    | none => exact Yields.failure
    | some f =>
      dsimp only
      split
      · exact (Yields.failure (P := fun _ => False)).bind fun _ h => h.elim
      · refine (hmapping f entries rfl).bind fun es hes => ?_
        split
        · rename_i hd
          exact Yields.pure (hes hd)
        · exact Yields.failure
  | _ => exact Yields.failure

/-- **What is read is readable.** -/
theorem read_yields (d : Nat) (n : Node) : Yields (read d n) (Readable d) := by
  induction d generalizing n with
  | zero =>
    exact readWith_yields (fun v hv => hv.readable 0) (fun f _ h => by cases h)
      (fun f _ h => by cases h) n
  | succ d ih =>
    refine readWith_yields (fun v hv => hv.readable _) ?_ ?_ n
    · rintro f items ⟨⟩
      exact Yields.mapM ih items
    · rintro f entries ⟨⟩
      refine (Yields.mapM (P := fun e => e.1.Readable d ∧ e.2.Readable d) (fun e => ?_) entries).mono
        fun es hes hd => ⟨hd, hes⟩
      exact (ih e.1).bind fun k hk => (ih e.2).bind fun v hv => Yields.pure ⟨hk, hv⟩

end Value

end DeployWatch.Yaml
