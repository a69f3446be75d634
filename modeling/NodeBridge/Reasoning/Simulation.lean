import NodeBridge.Reasoning.Runs

/-!
# Forward simulations

A system with small steps follows one with larger steps when each of its steps is matched by some
steps of the other, most often by one or by none.  What the actions of a run amount to can then be
read off action by action.
-/

namespace Reasoning

variable {γ β σ α : Type*}

/-- Each step of the first system is matched by steps of the second that keep `rel`; `performs`
    says which actions an action may be matched by. -/
def Simulates (stepC : γ → β → Option γ) (stepA : σ → α → Option σ) (performs : β → List α → Prop)
    (rel : γ → σ → Prop) : Prop :=
  ∀ g s b g', rel g s → stepC g b = some g' →
    ∃ as s', performs b as ∧ run stepA s as = some s' ∧ rel g' s'

variable {stepC : γ → β → Option γ} {stepA : σ → α → Option σ} {performs : β → List α → Prop}
  {rel : γ → σ → Prop}

/-- **Simulation rule.**  A whole run is matched by the steps that match its own, in order. -/
theorem Simulates.run (hsim : Simulates stepC stepA performs rel) {g g' : γ} {s : σ} {bs : List β}
    (hrel : rel g s) (hrun : run stepC g bs = some g') :
    ∃ parts s', List.Forall₂ performs bs parts ∧ Reasoning.run stepA s parts.flatten = some s' ∧
      rel g' s' := by
  induction bs generalizing g s with
  | nil =>
      cases hrun
      exact ⟨[], s, .nil, rfl, hrel⟩
  | cons b bs ih =>
      rcases run_cons_eq_some.mp hrun with ⟨h, hstep, hrest⟩
      rcases hsim g s b h hrel hstep with ⟨as, t, hperforms, has, hh⟩
      rcases ih hh hrest with ⟨parts, s', hparts, hflat, hg'⟩
      refine ⟨as :: parts, s', .cons hperforms hparts, ?_, hg'⟩
      rw [List.flatten_cons, run_append, has]
      exact hflat

end Reasoning
