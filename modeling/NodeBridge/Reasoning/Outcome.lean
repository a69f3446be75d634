import Mathlib.Logic.Basic

/-!
# Correctness of computations that may fault

`Ends x post`: the computation `x` comes to an end without a fault, in a result that meets `post`.
`Always x post`: if it comes to an end, its result meets `post`.
-/

namespace Reasoning

universe u

variable {ε : Type*} {α β : Type u}

def Ends (x : Except ε α) (post : α → Prop) : Prop := ∃ a, x = .ok a ∧ post a

def Always (x : Except ε α) (post : α → Prop) : Prop := ∀ a, x = .ok a → post a

@[simp] theorem ends_ok {a : α} {post : α → Prop} :
    Ends (.ok a : Except ε α) post ↔ post a := by
  simp [Ends]

@[simp] theorem ends_pure {a : α} {post : α → Prop} :
    Ends (pure a : Except ε α) post ↔ post a := ends_ok

@[simp] theorem ends_error {e : ε} {post : α → Prop} :
    ¬ Ends (.error e : Except ε α) post := by
  simp [Ends]

@[simp] theorem ends_bind {x : Except ε α} {f : α → Except ε β} {post : β → Prop} :
    Ends (x >>= f) post ↔ Ends x fun a => Ends (f a) post := by
  cases x with
  | error e => simp [Ends, bind, Except.bind]
  | ok a => simp [Ends, bind, Except.bind]

@[simp] theorem always_ok {a : α} {post : α → Prop} :
    Always (.ok a : Except ε α) post ↔ post a := by
  simp [Always]

@[simp] theorem always_pure {a : α} {post : α → Prop} :
    Always (pure a : Except ε α) post ↔ post a := always_ok

@[simp] theorem always_error {e : ε} {post : α → Prop} :
    Always (.error e : Except ε α) post := by
  simp [Always]

@[simp] theorem always_bind {x : Except ε α} {f : α → Except ε β} {post : β → Prop} :
    Always (x >>= f) post ↔ Always x fun a => Always (f a) post := by
  cases x with
  | error e => simp [Always, bind, Except.bind]
  | ok a => simp [Always, bind, Except.bind]

/-- Of a conjunction only the part about the result depends on the computation. -/
theorem ends_and_right {x : Except ε α} {post : α → Prop} {p : Prop} :
    Ends x (fun a => post a ∧ p) ↔ Ends x post ∧ p := by
  unfold Ends
  rw [← exists_and_right]
  exact exists_congr fun a => and_assoc.symm

theorem ends_and_left {x : Except ε α} {post : α → Prop} {p : Prop} :
    Ends x (fun a => p ∧ post a) ↔ p ∧ Ends x post := by
  simp only [and_comm (a := p), ends_and_right]

theorem Ends.mono {x : Except ε α} {post post' : α → Prop} (h : Ends x post)
    (himp : ∀ a, post a → post' a) : Ends x post' :=
  h.imp fun a ha => ⟨ha.1, himp a ha.2⟩

-- A computation has one result, which meets every one of the conditions.
theorem ends_forall {ι : Type*} [Nonempty ι] {x : Except ε α} {post : ι → α → Prop} :
    Ends x (fun a => ∀ i, post i a) ↔ ∀ i, Ends x (post i) := by
  cases x with
  | error e => simp
  | ok a => simp

theorem Ends.bind {x : Except ε α} {f : α → Except ε β} {mid : α → Prop} {post : β → Prop}
    (hx : Ends x mid) (hf : ∀ a, mid a → Ends (f a) post) : Ends (x >>= f) post := by
  rcases hx with ⟨a, ha, hmid⟩
  rw [ends_bind, ha, ends_ok]
  exact hf a hmid

theorem Always.mono {x : Except ε α} {post post' : α → Prop} (h : Always x post)
    (himp : ∀ a, post a → post' a) : Always x post' :=
  fun a ha => himp a (h a ha)

theorem Always.ends_congr {x : Except ε α} {post post' : α → Prop}
    (h : Always x fun a => post a ↔ post' a) : Ends x post ↔ Ends x post' :=
  exists_congr fun a => and_congr_right fun ha => h a ha

end Reasoning
