import Mathlib.Logic.Basic
import Mathlib.Data.List.Basic
import Mathlib.Data.Option.Basic

/-!
# Runs of a partial step function

A system is a partial function `step : σ → α → Option σ`: from a state, an action leads to one next
state or is not enabled.  The action carries every choice of the environment (which thread moves,
what a system call returns), so the runs over all action lists are all the interleavings.
-/

namespace Reasoning

variable {σ α : Type*} {step : σ → α → Option σ}

def run (step : σ → α → Option σ) : σ → List α → Option σ
  | s, [] => some s
  | s, a :: as => (step s a).bind fun t => run step t as

@[simp] theorem run_nil (s : σ) : run step s [] = some s := rfl

theorem run_cons (s : σ) (a : α) (as : List α) :
    run step s (a :: as) = (step s a).bind fun t => run step t as := rfl

theorem run_cons_eq_some {s t : σ} {a : α} {as : List α} :
    run step s (a :: as) = some t ↔ ∃ u, step s a = some u ∧ run step u as = some t := by
  rw [run_cons, Option.bind_eq_some_iff]

theorem run_append (s : σ) (as bs : List α) :
    run step s (as ++ bs) = (run step s as).bind fun t => run step t bs := by
  induction as generalizing s with
  | nil => rfl
  | cons a as ih =>
      rw [List.cons_append, run_cons, run_cons]
      cases step s a with
      | none => rfl
      | some t => exact ih t

/-- **Invariant rule.**  What every step keeps, every run keeps. -/
theorem run_invariant {inv : σ → Prop}
    (hstep : ∀ s a t, inv s → step s a = some t → inv t)
    {s t : σ} {as : List α} (hs : inv s) (hrun : run step s as = some t) : inv t := by
  induction as generalizing s with
  | nil => cases hrun; exact hs
  | cons a as ih =>
      rcases run_cons_eq_some.mp hrun with ⟨u, hu, hrest⟩
      exact ih (hstep s a u hs hu) hrest

-- Every step of the run meets `ok`, a condition on the state before the step and the action.
def Along (step : σ → α → Option σ) (ok : σ → α → Prop) : σ → List α → Prop
  | _, [] => True
  | s, a :: as => ok s a ∧ ∀ t, step s a = some t → Along step ok t as

theorem along_of_forall {ok : σ → α → Prop} {as : List α} (h : ∀ s, ∀ a ∈ as, ok s a) (s : σ) :
    Along step ok s as := by
  induction as generalizing s with
  | nil => trivial
  | cons a as ih =>
      exact ⟨h s a (by simp), fun t _ => ih (fun u b hb => h u b (by simp [hb])) t⟩

theorem forall_of_along {ok : α → Prop} {s t : σ} {as : List α} (hrun : run step s as = some t)
    (h : Along step (fun _ a => ok a) s as) : ∀ a ∈ as, ok a := by
  induction as generalizing s with
  | nil => simp
  | cons a as ih =>
      rcases run_cons_eq_some.mp hrun with ⟨u, hu, hrest⟩
      exact List.forall_mem_cons.mpr ⟨h.1, ih hrest (h.2 u hu)⟩

theorem along_cons {ok : σ → α → Prop} {s t : σ} {a : α} {as : List α} (h : ok s a)
    (hstep : step s a = some t) (hrest : Along step ok t as) : Along step ok s (a :: as) := by
  refine ⟨h, fun u hu => ?_⟩
  rw [hstep] at hu
  cases hu
  exact hrest

theorem along_append {ok : σ → α → Prop} {s : σ} {as bs : List α} (h : Along step ok s as)
    (hrest : ∀ t, run step s as = some t → Along step ok t bs) : Along step ok s (as ++ bs) := by
  induction as generalizing s with
  | nil => exact hrest s rfl
  | cons a as ih =>
      refine ⟨h.1, fun u hu => ih (h.2 u hu) fun t ht => hrest t ?_⟩
      exact run_cons_eq_some.mpr ⟨u, hu, ht⟩

/-- **Invariant rule for restricted runs.**  What every step that meets `ok` keeps, every run
    whose steps all meet `ok` keeps. -/
theorem along_invariant {ok : σ → α → Prop} {inv : σ → Prop}
    (hstep : ∀ s a t, inv s → ok s a → step s a = some t → inv t)
    {s t : σ} {as : List α} (hs : inv s) (hok : Along step ok s as)
    (hrun : run step s as = some t) : inv t := by
  induction as generalizing s with
  | nil => cases hrun; exact hs
  | cons a as ih =>
      rcases run_cons_eq_some.mp hrun with ⟨u, hu, hrest⟩
      exact ih (hstep s a u hs hok.1 hu) (hok.2 u hu) hrest

/-- **History rule.**  An invariant that also speaks of the actions taken so far. -/
theorem along_history {ok : σ → α → Prop} {inv : List α → σ → Prop}
    (hstep : ∀ as s a t, inv as s → ok s a → step s a = some t → inv (as ++ [a]) t)
    {done : List α} {s t : σ} {as : List α} (hs : inv done s) (hok : Along step ok s as)
    (hrun : run step s as = some t) : inv (done ++ as) t := by
  induction as generalizing done s with
  | nil => cases hrun; rwa [List.append_nil]
  | cons a as ih =>
      rcases run_cons_eq_some.mp hrun with ⟨u, hu, hrest⟩
      rw [List.append_cons]
      exact ih (hstep done s a u hs hok.1 hu) (hok.2 u hu) hrest

-- `good` holds of the first state of the run and after each of its steps.
def Throughout (step : σ → α → Option σ) (good : σ → Prop) : σ → List α → Prop
  | s, [] => good s
  | s, a :: as => good s ∧ ∀ t, step s a = some t → Throughout step good t as

theorem Throughout.head {good : σ → Prop} {s : σ} {as : List α} (h : Throughout step good s as) :
    good s := by
  cases as with
  | nil => exact h
  | cons a as => exact h.1

theorem throughout_iff_prefix {good : σ → Prop} {s : σ} {as : List α} :
    Throughout step good s as ↔ ∀ bs t, bs <+: as → run step s bs = some t → good t := by
  induction as generalizing s with
  | nil =>
      refine ⟨fun h bs t hpre hrun => ?_, fun h => h [] s (List.prefix_refl _) rfl⟩
      rw [List.prefix_nil.mp hpre] at hrun
      cases hrun
      exact h
  | cons a as ih =>
      constructor
      · intro h bs t hpre hrun
        cases bs with
        | nil => cases hrun; exact h.1
        | cons b bs =>
            rcases List.cons_prefix_cons.mp hpre with ⟨rfl, htail⟩
            rcases run_cons_eq_some.mp hrun with ⟨u, hu, hrest⟩
            exact ih.mp (h.2 u hu) bs t htail hrest
      · intro h
        refine ⟨h [] s (List.nil_prefix) rfl, fun u hu => ih.mpr fun bs t hpre hrun => ?_⟩
        exact h (a :: bs) t (List.cons_prefix_cons.mpr ⟨rfl, hpre⟩)
          (run_cons_eq_some.mpr ⟨u, hu, hrun⟩)

/-- **Exact condition rule.**  When `good` is kept by exactly the steps that meet `ok`, given an
    invariant of the restricted runs, a run keeps `good` throughout exactly when all its steps meet
    `ok`. -/
theorem throughout_iff_along {ok : σ → α → Prop} {inv good : σ → Prop}
    (hgood : ∀ s, inv s → good s)
    (hkeep : ∀ s a t, inv s → ok s a → step s a = some t → inv t)
    (hbreak : ∀ s a t, inv s → ¬ ok s a → step s a = some t → ¬ good t)
    {s t : σ} {as : List α} (hs : inv s) (hrun : run step s as = some t) :
    Throughout step good s as ↔ Along step ok s as := by
  induction as generalizing s with
  | nil => exact ⟨fun _ => trivial, fun _ => hgood s hs⟩
  | cons a as ih =>
      rcases run_cons_eq_some.mp hrun with ⟨u, hu, hrest⟩
      have honly : ∀ v, step s a = some v → v = u := fun v hv =>
        Option.some.inj (hv.symm.trans hu)
      constructor
      · intro h
        have hok : ok s a := by
          by_contra hno
          exact hbreak s a u hs hno hu (h.2 u hu).head
        refine ⟨hok, fun v hv => ?_⟩
        obtain rfl := honly v hv
        exact (ih (hkeep s a v hs hok hu) hrest).mp (h.2 v hu)
      · intro h
        refine ⟨hgood s hs, fun v hv => ?_⟩
        obtain rfl := honly v hv
        exact (ih (hkeep s a v hs h.1 hu) hrest).mpr (h.2 v hu)

/-- **Ranking rule.**  While `busy` holds, the steps that count lower the rank and the others do not
    raise it; so a run with as many of these as the rank ends `busy` on the way. -/
theorem exists_not_busy {inv busy : σ → Prop} {rank : σ → Nat} {counts : α → Bool}
    (hinv : ∀ s a t, inv s → step s a = some t → inv t)
    (hrank : ∀ s a t, inv s → busy s → step s a = some t →
      rank t + (if counts a then 1 else 0) ≤ rank s)
    (hpos : ∀ s, busy s → 0 < rank s) {s t : σ} {as : List α} (hs : inv s)
    (hrun : run step s as = some t) (hcount : rank s ≤ as.countP counts) :
    ∃ bs cs u, as = bs ++ cs ∧ run step s bs = some u ∧ ¬ busy u := by
  by_cases hbusy : busy s
  · induction as generalizing s with
    | nil => exact absurd hcount (Nat.not_le_of_lt (hpos s hbusy))
    | cons a as ih =>
        rcases run_cons_eq_some.mp hrun with ⟨u, hu, hrest⟩
        have hlower := hrank s a u hs hbusy hu
        rw [List.countP_cons] at hcount
        by_cases hu_busy : busy u
        · rcases ih (hinv s a u hs hu) hrest (by omega) hu_busy with ⟨bs, cs, v, rfl, hv, hfree⟩
          exact ⟨a :: bs, cs, v, rfl, run_cons_eq_some.mpr ⟨u, hu, hv⟩, hfree⟩
        · exact ⟨[a], as, u, rfl, run_cons_eq_some.mpr ⟨u, hu, rfl⟩, hu_busy⟩
  · exact ⟨[], as, s, rfl, rfl, hbusy⟩

end Reasoning
