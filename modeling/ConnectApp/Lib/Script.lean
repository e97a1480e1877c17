import Mathlib.Data.List.Basic

/-!
# Command scripts

Code that drives another program by commands sends them one after the other and looks
at some of the answers: the first checked command that is not answered well ends the
function with an error code. A `Script` is the list of such lines, `run` executes it on
a state. Which lines are executed depends on the answers only, so a run splits into a
control part (`passes`, `issued`) and a state part, and both compose over `++`.
-/

namespace Script

/-- One line of a script: an assignment, a command whose answer is ignored, or a
command that has to be answered well, with the error returned if it is not. -/
inductive Step (σ κ : Type)
  | assign (f : σ → σ)
  | send (c : κ)
  | check (c : κ) (err : Int)

/-- The driven program: the effect of a command, and whether it answers well. -/
structure Machine (σ κ : Type) where
  exec : κ → σ → σ
  ok : κ → Bool

variable {σ κ : Type} (m : Machine σ κ)

/-- What one line does to the state. -/
def Step.effect : Step σ κ → σ → σ
  | .assign f, s => f s
  | .send c, s => m.exec c s
  | .check c _, s => m.exec c s

/-- Runs a script; `some err` is the error of the check that ended it. -/
def run : List (Step σ κ) → σ → Option Int × σ
  | [], s => (none, s)
  | .assign f :: l, s => run l (f s)
  | .send c :: l, s => run l (m.exec c s)
  | .check c err :: l, s => if m.ok c then run l (m.exec c s) else (some err, m.exec c s)

/-- Every check of the script is answered well. -/
def passes : List (Step σ κ) → Bool
  | [] => true
  | .assign _ :: l => passes l
  | .send _ :: l => passes l
  | .check c _ :: l => m.ok c && passes l

/-- The commands a run sends. -/
def issued : List (Step σ κ) → List κ
  | [] => []
  | .assign _ :: l => issued l
  | .send c :: l => c :: issued l
  | .check c _ :: l => c :: if m.ok c then issued l else []

theorem run_append (l l' : List (Step σ κ)) (s : σ) :
    run m (l ++ l') s =
      match run m l s with
      | (none, t) => run m l' t
      | (some err, t) => (some err, t) := by
  induction l generalizing s with
  | nil => rfl
  | cons st l ih =>
    cases st with
    | assign f => exact ih (f s)
    | send c => exact ih (m.exec c s)
    | check c err =>
      rw [List.cons_append, run, run]
      split_ifs
      · exact ih (m.exec c s)
      · rfl

/-- A run comes to the end of its script exactly when all checks pass. -/
theorem run_eq_none_iff {l : List (Step σ κ)} {s : σ} :
    (run m l s).1 = none ↔ passes m l = true := by
  induction l generalizing s with
  | nil => exact iff_of_true rfl rfl
  | cons st l ih =>
    cases st with
    | assign f => exact ih
    | send c => exact ih
    | check c err =>
      rw [run, passes, Bool.and_eq_true]
      split_ifs with h
      · rw [ih]
        exact (and_iff_right h).symm
      · exact iff_of_false (by simp) fun hc => h hc.1

theorem run_append_of_passes {l : List (Step σ κ)} (h : passes m l = true)
    (l' : List (Step σ κ)) (s : σ) : run m (l ++ l') s = run m l' (run m l s).2 := by
  have hnone := (run_eq_none_iff m (s := s)).mpr h
  rw [run_append]
  cases hrun : run m l s with
  | mk r t =>
    rw [hrun] at hnone
    cases hnone
    rfl

/-- **Invariance.** What every line of the script preserves, a run preserves. -/
theorem run_induction {P : σ → Prop} {l : List (Step σ κ)}
    (hstep : ∀ st ∈ l, ∀ s, P s → P (st.effect m s)) {s : σ} (hs : P s) : P (run m l s).2 := by
  induction l generalizing s with
  | nil => exact hs
  | cons st l ih =>
    have hnext : P (st.effect m s) := hstep st (List.mem_cons_self ..) s hs
    have htail : ∀ st ∈ l, ∀ s, P s → P (st.effect m s) := fun st h =>
      hstep st (List.mem_cons_of_mem _ h)
    cases st with
    | assign f => exact ih htail hnext
    | send c => exact ih htail hnext
    | check c err =>
      rw [run]
      split_ifs
      · exact ih htail hnext
      · exact hnext

/-- A part of the state that no line touches stays as it is. -/
theorem run_frame {α : Type} {g : σ → α} {l : List (Step σ κ)}
    (hstep : ∀ st ∈ l, ∀ s, g (st.effect m s) = g s) (s : σ) : g (run m l s).2 = g s :=
  run_induction m (P := fun t => g t = g s) (fun st h t ht => (hstep st h t).trans ht) rfl

/-- A script that passes leaves the state as if nothing had been checked. -/
theorem run_of_passes {l : List (Step σ κ)} (h : passes m l = true) (s : σ) :
    run m l s = (none, l.foldl (fun s st => st.effect m s) s) := by
  induction l generalizing s with
  | nil => rfl
  | cons st l ih =>
    cases st with
    | assign f => exact ih h (f s)
    | send c => exact ih h (m.exec c s)
    | check c err =>
      obtain ⟨hc, hl⟩ := Bool.and_eq_true_iff.mp h
      rw [run, if_pos hc]
      exact ih hl (m.exec c s)

/-- The log of commands a run leaves behind. -/
theorem run_log {log : σ → List κ} {l : List (Step σ κ)}
    (hexec : ∀ c s, log (m.exec c s) = log s ++ [c])
    (hassign : ∀ f, Step.assign f ∈ l → ∀ s, log (f s) = log s) (s : σ) :
    log (run m l s).2 = log s ++ issued m l := by
  induction l generalizing s with
  | nil => exact (List.append_nil _).symm
  | cons st l ih =>
    have htail : ∀ f, Step.assign f ∈ l → ∀ s, log (f s) = log s := fun f h =>
      hassign f (List.mem_cons_of_mem _ h)
    cases st with
    | assign f =>
      rw [← hassign f (List.mem_cons_self ..) s]
      exact ih htail (f s)
    | send c =>
      have := ih htail (m.exec c s)
      rw [hexec, List.append_assoc] at this
      exact this
    | check c err =>
      rw [run, issued]
      split_ifs
      · have := ih htail (m.exec c s)
        rw [hexec, List.append_assoc] at this
        exact this
      · exact hexec c s

theorem issued_append (l l' : List (Step σ κ)) :
    issued m (l ++ l') = issued m l ++ if passes m l then issued m l' else [] := by
  induction l with
  | nil => rfl
  | cons st l ih =>
    cases st with
    | assign f => exact ih
    | send c => exact congrArg (c :: ·) ih
    | check c err =>
      show (c :: if m.ok c then issued m (l ++ l') else []) = c ::
        ((if m.ok c then issued m l else []) ++ if (m.ok c && passes m l) then issued m l' else [])
      by_cases hc : m.ok c = true
      · rw [if_pos hc, if_pos hc, hc, Bool.true_and, ih]
      · rw [if_neg hc, if_neg hc, Bool.eq_false_iff.mpr hc]
        rfl

/-- The commands of a script. -/
def commands : List (Step σ κ) → List κ
  | [] => []
  | .assign _ :: l => commands l
  | .send c :: l => c :: commands l
  | .check c _ :: l => c :: commands l

theorem commands_append (l l' : List (Step σ κ)) :
    commands (l ++ l') = commands l ++ commands l' := by
  induction l with
  | nil => rfl
  | cons st l ih =>
    cases st with
    | assign f => exact ih
    | send c => exact congrArg (c :: ·) ih
    | check c err => exact congrArg (c :: ·) ih

theorem issued_subset (l : List (Step σ κ)) : issued m l ⊆ commands l := by
  induction l with
  | nil => exact fun c hc => hc
  | cons st l ih =>
    cases st with
    | assign f => exact ih
    | send d => exact List.cons_subset_cons d ih
    | check d err =>
      refine List.cons_subset_cons d fun c hc => ?_
      split_ifs at hc
      · exact ih hc
      · cases hc

/-- A run that passes every check sends all of them. -/
theorem issued_of_passes {l : List (Step σ κ)} (h : passes m l = true) :
    issued m l = commands l := by
  induction l with
  | nil => rfl
  | cons st l ih =>
    cases st with
    | assign f => exact ih h
    | send d => exact congrArg (d :: ·) (ih h)
    | check d err =>
      obtain ⟨hd, hl⟩ := (Bool.and_eq_true _ _).mp h
      rw [issued, if_pos hd, ih hl]
      rfl

/-- A run sends commands of its script only. -/
theorem issued_line {l : List (Step σ κ)} {c : κ} (h : c ∈ issued m l) :
    .send c ∈ l ∨ ∃ err, .check c err ∈ l := by
  induction l with
  | nil => cases h
  | cons st l ih =>
    have htail : c ∈ issued m l → .send c ∈ st :: l ∨ ∃ err, .check c err ∈ st :: l := by
      intro hc
      rcases ih hc with hs | ⟨err, hs⟩
      · exact .inl (List.mem_cons_of_mem _ hs)
      · exact .inr ⟨err, List.mem_cons_of_mem _ hs⟩
    cases st with
    | assign f => exact htail h
    | send d =>
      rcases List.mem_cons.mp h with rfl | h
      · exact .inl (List.mem_cons_self ..)
      · exact htail h
    | check d err =>
      rcases List.mem_cons.mp h with rfl | h
      · exact .inr ⟨err, List.mem_cons_self ..⟩
      · split_ifs at h
        · exact htail h
        · cases h

end Script
