import Mathlib.Data.List.Basic

/-!
# Checked updates

Code that fills arrays without looking at their ends, as functions on lists that give `none` where
an entry is written behind an end. `foldlM_build` is the rule for a loop of such code: where each
step adds one element to what is built and stops as soon as this is not `P` any more, the loop
gives what is built from all elements if that is `P`, and `none` otherwise.
-/

namespace Checked

variable {σ α : Type}

/-- An assignment to the entry behind the last one, which must be in the array. -/
def put (max : Nat) (x : σ) (l : List σ) : Option (List σ) :=
  if l.length < max then some (l ++ [x]) else none

/-- `f` applied to the first entry with `q`. -/
def updateM (q : σ → Bool) (f : σ → Option σ) : List σ → Option (List σ)
  | [] => some []
  | x :: xs => if q x then (f x).map (· :: xs) else (updateM q f xs).map (x :: ·)

/-- The first entry with `q` is the last one. -/
theorem updateM_append_singleton {q : σ → Bool} {f : σ → Option σ} {l : List σ}
    (hl : ∀ x ∈ l, q x = false) {y : σ} (hy : q y = true) :
    updateM q f (l ++ [y]) = (f y).map (l ++ [·]) := by
  induction l with
  | nil =>
    rw [List.nil_append, updateM, if_pos hy]
    rfl
  | cons x l ih =>
    obtain ⟨hx, hl⟩ := List.forall_mem_cons.mp hl
    rw [List.cons_append, updateM, if_neg (by simp [hx]), ih hl, Option.map_map]
    rfl

/-- A pass that leaves all entries but the last one. -/
theorem mapM_append_singleton {f : σ → Option σ} {l : List σ} (hl : ∀ x ∈ l, f x = some x)
    (y : σ) : (l ++ [y]).mapM f = (f y).map (l ++ [·]) := by
  induction l with
  | nil =>
    rw [List.nil_append, List.mapM_cons, List.mapM_nil]
    cases f y <;> rfl
  | cons x l ih =>
    obtain ⟨hx, hl⟩ := List.forall_mem_cons.mp hl
    rw [List.cons_append, List.mapM_cons, hx, ih hl]
    cases f y <;> rfl

/-- **A loop that builds.** `P` is a property of what has been added that no more elements can
restore, so that it is enough to look at all of them. -/
theorem foldlM_build {step : σ → α → Option σ} {f : List α → σ} {P : List α → Prop}
    [DecidablePred P] (hnil : P []) (hfront : ∀ before after, P (before ++ after) → P before)
    {l : List α}
    (h : ∀ before a after, l = before ++ a :: after → P before →
      step (f before) a = if P (before ++ [a]) then some (f (before ++ [a])) else none) :
    l.foldlM step (f []) = if P l then some (f l) else none := by
  have hloop : ∀ after before, l = before ++ after → P before →
      after.foldlM step (f before) = if P l then some (f l) else none := by
    intro after
    induction after with
    | nil =>
      intro before hl hbefore
      obtain rfl : l = before := by rw [hl, List.append_nil]
      rw [if_pos hbefore]
      rfl
    | cons a after ih =>
      intro before hl hbefore
      have hl' : l = (before ++ [a]) ++ after := by
        rw [hl, List.append_assoc, List.singleton_append]
      rw [List.foldlM_cons, h before a after hl hbefore]
      by_cases hstep : P (before ++ [a])
      · rw [if_pos hstep]
        exact ih (before ++ [a]) hl' hstep
      · rw [if_neg hstep, if_neg fun hall => hstep (hfront _ after (hl' ▸ hall))]
        rfl
  exact hloop l [] rfl hnil

end Checked
