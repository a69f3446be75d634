import Mathlib.Data.List.Basic
import Mathlib.Data.List.Flatten
import Mathlib.Data.List.Forall2

/-!
# Blocks on their way to a receiver

Blocks are published one after another; each goes to a staging buffer, straight to the receivers,
or is dropped, and from time to time the buffer as a whole is passed on.  `Whole` says that what a
receiver has, and what is staged, is made of whole published blocks in order.  It is kept by each of
these operations, whatever the order in which they happen.  `FeedStep` is any one of them as a
receiver sees it, so that a program whose steps are feed steps gets its invariants from here.
`admitted` says which blocks a staging buffer of bounded size takes.
-/

namespace Reasoning

variable {α : Type*}

def Whole (published : List (List α)) (staged received : List α) : Prop :=
  ∃ got waiting : List (List α), received = got.flatten ∧
    staged = waiting.flatten ∧ (got ++ waiting).Sublist published

namespace Whole

variable {published : List (List α)} {staged received : List α}

theorem empty : Whole ([] : List (List α)) [] [] := ⟨[], [], rfl, rfl, List.Sublist.refl _⟩

theorem published_append (h : Whole published staged received) (more : List (List α)) :
    Whole (published ++ more) staged received := by
  rcases h with ⟨got, waiting, hgot, hwaiting, hsub⟩
  exact ⟨got, waiting, hgot, hwaiting, hsub.trans (List.sublist_append_left _ _)⟩

theorem stage (h : Whole published staged received) (block : List α) :
    Whole (published ++ [block]) (staged ++ block) received := by
  rcases h with ⟨got, waiting, hgot, hwaiting, hsub⟩
  refine ⟨got, waiting ++ [block], hgot, ?_, ?_⟩
  · rw [hwaiting, List.flatten_append, List.flatten_singleton]
  · rw [← List.append_assoc]
    exact hsub.append (List.Sublist.refl _)

-- The staging buffer is bypassed, and must be empty.
theorem passThrough (h : Whole published [] received) (block : List α) :
    Whole (published ++ [block]) [] (received ++ block) := by
  rcases h with ⟨got, waiting, hgot, hwaiting, hsub⟩
  refine ⟨got ++ [block], [], ?_, rfl, ?_⟩
  · rw [hgot, List.flatten_append, List.flatten_singleton]
  · rw [List.append_nil]
    exact ((List.sublist_append_left got waiting).trans hsub).append (List.Sublist.refl _)

theorem deliver (h : Whole published staged received) :
    Whole published [] (received ++ staged) := by
  rcases h with ⟨got, waiting, hgot, hwaiting, hsub⟩
  refine ⟨got ++ waiting, [], ?_, rfl, ?_⟩
  · rw [hgot, hwaiting, List.flatten_append]
  · rwa [List.append_nil]

-- This receiver missed the delivery.
theorem miss (h : Whole published staged received) : Whole published [] received := by
  rcases h with ⟨got, waiting, hgot, hwaiting, hsub⟩
  refine ⟨got, [], hgot, rfl, ?_⟩
  rw [List.append_nil]
  exact (List.sublist_append_left got waiting).trans hsub

theorem received_sublist (h : Whole published staged received) :
    ∃ blocks : List (List α), received = blocks.flatten ∧ blocks.Sublist published := by
  rcases h with ⟨got, waiting, hgot, -, hsub⟩
  exact ⟨got, hgot, (List.sublist_append_left got waiting).trans hsub⟩

end Whole

/-- What has become of the blocks, as one receiver sees it. -/
structure Feed (α : Type*) where
  published : List (List α)
  staged : List α
  received : List α

/-- One operation.  Of a block that is passed on the receiver gets a part that `takes` allows;
    `drops` allows a block to be dropped when so much is staged. -/
inductive FeedStep (takes drops : List α → List α → Prop) : Feed α → Feed α → Prop where
  | idle (f : Feed α) : FeedStep takes drops f f
  | stage (f : Feed α) (block : List α) :
      FeedStep takes drops f ⟨f.published ++ [block], f.staged ++ block, f.received⟩
  | drop (f : Feed α) (block : List α) (h : drops f.staged block) :
      FeedStep takes drops f ⟨f.published ++ [block], f.staged, f.received⟩
  | pass (f : Feed α) (block part : List α) (hempty : f.staged = []) (h : takes block part) :
      FeedStep takes drops f ⟨f.published ++ [block], [], f.received ++ part⟩
  | flush (f : Feed α) (part : List α) (h : takes f.staged part) :
      FeedStep takes drops f ⟨f.published, [], f.received ++ part⟩

section

variable {takes drops takes' drops' : List α → List α → Prop} {f g : Feed α}

theorem FeedStep.mono (h : FeedStep takes drops f g)
    (htakes : ∀ block part, takes block part → takes' block part)
    (hdrops : ∀ staged block, drops staged block → drops' staged block) :
    FeedStep takes' drops' f g := by
  cases h with
  | idle => exact .idle f
  | stage block => exact .stage f block
  | drop block h => exact .drop f block (hdrops _ _ h)
  | pass block part hempty h => exact .pass f block part hempty (htakes _ _ h)
  | flush part h => exact .flush f part (htakes _ _ h)

-- Whole blocks stay whole if all of a block is taken or nothing of it.
theorem Whole.feedStep (hf : Whole f.published f.staged f.received)
    (h : FeedStep (fun block part => part = block ∨ part = []) drops f g) :
    Whole g.published g.staged g.received := by
  cases h with
  | idle => exact hf
  | stage block => exact hf.stage block
  | drop block _ => exact hf.published_append [block]
  | pass block part hempty h =>
      rw [hempty] at hf
      rcases h with rfl | rfl
      · exact hf.passThrough part
      · rw [List.append_nil]
        exact hf.published_append [block]
  | flush part h =>
      rcases h with rfl | rfl
      · exact hf.deliver
      · rw [List.append_nil]
        exact hf.miss

/-! ## Parts of blocks -/

/-- What was received is made of beginnings of successive groups of published blocks. -/
def Pieces (published : List (List α)) (staged received : List α) : Prop :=
  ∃ (parts : List (List α)) (groups : List (List (List α))) (waiting : List (List α)),
    received = parts.flatten ∧
      List.Forall₂ (fun part group => part <+: group.flatten) parts groups ∧
      staged = waiting.flatten ∧ (groups.flatten ++ waiting).Sublist published

theorem Pieces.empty : Pieces ([] : List (List α)) [] [] :=
  ⟨[], [], [], rfl, .nil, rfl, List.Sublist.refl _⟩

/-- Whatever part of a block is taken, if it is a beginning of it. -/
theorem Pieces.feedStep (hf : Pieces f.published f.staged f.received)
    (h : FeedStep (fun block part => part <+: block) drops f g) :
    Pieces g.published g.staged g.received := by
  rcases hf with ⟨parts, groups, waiting, hparts, hbegin, hwaiting, hsub⟩
  cases h with
  | idle => exact ⟨parts, groups, waiting, hparts, hbegin, hwaiting, hsub⟩
  | stage block =>
      refine ⟨parts, groups, waiting ++ [block], hparts, hbegin, ?_, ?_⟩
      · rw [hwaiting, List.flatten_append, List.flatten_singleton]
      · rw [← List.append_assoc]
        exact hsub.append (List.Sublist.refl _)
  | drop block _ =>
      exact ⟨parts, groups, waiting, hparts, hbegin, hwaiting,
        hsub.trans (List.sublist_append_left _ _)⟩
  | pass block part _ hpart =>
      refine ⟨parts ++ [part], groups ++ [[block]], [], ?_, ?_, rfl, ?_⟩
      · rw [hparts, List.flatten_append, List.flatten_singleton]
      · exact List.rel_append hbegin (.cons (by simpa using hpart) .nil)
      · rw [List.append_nil, List.flatten_append, List.flatten_singleton]
        exact ((List.sublist_append_left _ _).trans hsub).append (List.Sublist.refl _)
  | flush part hpart =>
      refine ⟨parts ++ [part], groups ++ [waiting], [], ?_, ?_, rfl, ?_⟩
      · rw [hparts, List.flatten_append, List.flatten_singleton]
      · exact List.rel_append hbegin (.cons (hwaiting ▸ hpart) .nil)
      · rwa [List.append_nil, List.flatten_append, List.flatten_singleton]

theorem flatten_sublist_of_prefixes {parts : List (List α)} {groups : List (List (List α))}
    (h : List.Forall₂ (fun part group => part <+: group.flatten) parts groups) :
    parts.flatten.Sublist groups.flatten.flatten := by
  induction h with
  | nil => exact List.Sublist.refl _
  | cons hpart _ ih =>
      rw [List.flatten_cons, List.flatten_cons, List.flatten_append]
      exact hpart.sublist.append ih

theorem Pieces.received_sublist {published : List (List α)} {staged received : List α}
    (h : Pieces published staged received) : received.Sublist published.flatten := by
  rcases h with ⟨parts, groups, waiting, rfl, hbegin, -, hsub⟩
  have hgroups := (List.sublist_append_left groups.flatten waiting).trans hsub
  exact (flatten_sublist_of_prefixes hbegin).trans hgroups.flatten

/-! ## From some point on -/

/-- Between `f` and `g` the receiver missed nothing. -/
def Since (f g : Feed α) : Prop :=
  ∃ more, g.published = f.published ++ more ∧
    g.received ++ g.staged = f.received ++ f.staged ++ more.flatten

theorem Since.refl (f : Feed α) : Since f f :=
  ⟨[], (List.append_nil _).symm, (List.append_nil _).symm⟩

theorem Since.feedStep {f₀ : Feed α} (hf : Since f₀ f)
    (h : FeedStep (fun block part => part = block) (fun _ _ => False) f g) : Since f₀ g := by
  rcases hf with ⟨more, hpub, hall⟩
  cases h with
  | idle => exact ⟨more, hpub, hall⟩
  | stage block =>
      refine ⟨more ++ [block], by rw [hpub, List.append_assoc], ?_⟩
      rw [← List.append_assoc, hall, List.flatten_append, List.flatten_singleton,
        List.append_assoc (f₀.received ++ f₀.staged)]
  | drop block h => exact h.elim
  | pass block part hempty h =>
      subst h
      rw [hempty, List.append_nil] at hall
      refine ⟨more ++ [part], by rw [hpub, List.append_assoc], ?_⟩
      rw [List.append_nil, hall, List.flatten_append, List.flatten_singleton,
        List.append_assoc (f₀.received ++ f₀.staged)]
  | flush part h =>
      subst h
      exact ⟨more, hpub, by rw [List.append_nil]; exact hall⟩

end

/-! ## A bounded staging buffer -/

/-- The blocks that are taken, each as a whole and when it fits, into `capacity` of which `used` is
    used already. -/
def admitted (capacity : Nat) : Nat → List (List α) → List (List α)
  | _, [] => []
  | used, block :: blocks =>
      if used + block.length ≤ capacity then
        block :: admitted capacity (used + block.length) blocks
      else admitted capacity used blocks

section

variable {capacity used : Nat}

theorem admitted_concat (capacity used : Nat) (blocks : List (List α)) (block : List α) :
    admitted capacity used (blocks ++ [block]) = admitted capacity used blocks ++
      if used + (admitted capacity used blocks).flatten.length + block.length ≤ capacity
      then [block] else [] := by
  induction blocks generalizing used with
  | nil => rfl
  | cons first blocks ih =>
      rw [List.cons_append, admitted, admitted]
      split
      · rw [ih, List.cons_append, List.flatten_cons, List.length_append]
        simp only [Nat.add_assoc]
      · exact ih used

end

end Reasoning
