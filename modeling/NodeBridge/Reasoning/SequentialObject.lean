import Mathlib.Data.List.Basic

/-!
# Sequential objects

What an object does when its operations run one after the other: `apply` gives the state after an
operation and its reply.  A concurrent object is compared with it along an order of its operations.
-/

namespace Reasoning

variable {σ ι β : Type*} (apply : σ → ι → σ × β)

-- The state after all operations.
def finalState (s : σ) : List ι → σ
  | [] => s
  | op :: ops => finalState (apply s op).1 ops

-- The replies, in order.
def replies (s : σ) : List ι → List β
  | [] => []
  | op :: ops => (apply s op).2 :: replies (apply s op).1 ops

variable {apply}

theorem finalState_concat (s : σ) (ops : List ι) (op : ι) :
    finalState apply s (ops ++ [op]) = (apply (finalState apply s ops) op).1 := by
  induction ops generalizing s with
  | nil => rfl
  | cons first ops ih => exact ih (apply s first).1

theorem replies_concat (s : σ) (ops : List ι) (op : ι) :
    replies apply s (ops ++ [op]) =
      replies apply s ops ++ [(apply (finalState apply s ops) op).2] := by
  induction ops generalizing s with
  | nil => rfl
  | cons first ops ih => exact congrArg _ (ih (apply s first).1)

end Reasoning
