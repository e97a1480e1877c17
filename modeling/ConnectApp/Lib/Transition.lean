import Mathlib.Data.List.Basic

/-!
# Labelled transition systems

A system has initial states and steps with a label. `Reach ok` are the states of its runs
all of whose steps meet `ok`, a condition on the state before the step and on the label;
`ok = fun _ _ => True` gives all runs. `Reach.invariant` is the induction over runs, and
`forall_prefix_iff_along` tells the runs that stay in good states by their steps.
-/

namespace Transition

/-- Initial states, and steps with a label. -/
structure System (σ ι : Type) where
  init : σ → Prop
  step : σ → ι → σ → Prop

variable {σ ι : Type}

/-- The states of the runs whose steps meet `ok`. -/
inductive Reach (S : System σ ι) (ok : σ → ι → Prop) : σ → Prop
  | start {s : σ} : S.init s → Reach S ok s
  | next {s t : σ} {l : ι} : Reach S ok s → ok s l → S.step s l t → Reach S ok t

/-- **Run induction.** What holds at the start and is kept by every allowed step holds in
every state reached. -/
theorem Reach.invariant {S : System σ ι} {ok : σ → ι → Prop} {P : σ → Prop}
    (hstart : ∀ s, S.init s → P s)
    (hnext : ∀ s l t, P s → ok s l → S.step s l t → P t) {s : σ} (h : Reach S ok s) : P s := by
  induction h with
  | start hs => exact hstart _ hs
  | next _ hok hstep ih => exact hnext _ _ _ ih hok hstep

/-- A run that meets a condition meets a weaker one. -/
theorem Reach.mono {S : System σ ι} {ok ok' : σ → ι → Prop} (hok : ∀ s l, ok s l → ok' s l) {s : σ}
    (h : Reach S ok s) : Reach S ok' s := by
  induction h with
  | start hs => exact .start hs
  | next _ hl hstep ih => exact .next ih (hok _ _ hl) hstep

/-- A list of labels that can be executed one after the other leads to a reachable state. -/
theorem Reach.of_foldlM {S : System σ ι} {ok : σ → ι → Prop} {next : σ → ι → Option σ}
    (hnext : ∀ s l t, next s l = some t → ok s l ∧ S.step s l t) {ls : List ι} {s t : σ}
    (hs : Reach S ok s) (h : ls.foldlM next s = some t) : Reach S ok t := by
  induction ls generalizing s with
  | nil =>
    obtain rfl := Option.some.inj h
    exact hs
  | cons l ls ih =>
    rw [List.foldlM_cons] at h
    obtain ⟨u, hu, h⟩ := Option.bind_eq_some_iff.mp h
    obtain ⟨hok, hstep⟩ := hnext s l u hu
    exact ih (.next hs hok hstep) h

/-- The state an executed run ends in, with what `f` shows of it. -/
theorem Reach.of_run {S : System σ ι} {next : σ → ι → Option σ}
    (hnext : ∀ s l t, next s l = some t → S.step s l t) {s : σ} (hs : S.init s) {ls : List ι}
    {α : Type} {f : σ → α} {a : α} (h : (ls.foldlM next s).map f = some a) :
    ∃ t, Reach S (fun _ _ => True) t ∧ f t = a := by
  obtain ⟨t, ht, hval⟩ := Option.map_eq_some_iff.mp h
  exact ⟨t, Reach.of_foldlM (fun s l t h => ⟨trivial, hnext s l t h⟩) (.start hs) ht, hval⟩

/-- `next`, where `ok` allows it. -/
def guarded (next : σ → ι → Option σ) (ok : σ → ι → Prop) [∀ s l, Decidable (ok s l)] (s : σ)
    (l : ι) : Option σ :=
  if ok s l then next s l else none

/-- The same for a run all of whose steps meet `ok`. -/
theorem Reach.of_guarded_run {S : System σ ι} {next : σ → ι → Option σ} {ok : σ → ι → Prop}
    [∀ s l, Decidable (ok s l)] (hnext : ∀ s l t, next s l = some t → S.step s l t) {s : σ}
    (hs : S.init s) {ls : List ι} {α : Type} {f : σ → α} {a : α}
    (h : (ls.foldlM (guarded next ok) s).map f = some a) : ∃ t, Reach S ok t ∧ f t = a := by
  obtain ⟨t, ht, hval⟩ := Option.map_eq_some_iff.mp h
  refine ⟨t, Reach.of_foldlM (fun s l t hstep => ?_) (.start hs) ht, hval⟩
  rw [guarded, Option.ite_none_right_eq_some] at hstep
  exact ⟨hstep.1, hnext s l t hstep.2⟩

/-- Along the run with these labels every step meets `ok`. -/
def Along (next : σ → ι → Option σ) (ok : σ → ι → Prop) : σ → List ι → Prop
  | _, [] => True
  | s, l :: ls => ok s l ∧ ∀ t, next s l = some t → Along next ok t ls

/-- **Runs that stay good.** If a step from a good state ends in a good state exactly when it
meets `ok`, then all states of a run are good exactly when all its steps meet `ok`. -/
theorem forall_prefix_iff_along {f : σ → ι → σ} {P : σ → Prop} {ok : σ → ι → Prop}
    (hstep : ∀ s l, P s → (P (f s l) ↔ ok s l)) {s : σ} (hs : P s) (ls : List ι) :
    (∀ ms, ms <+: ls → P (ms.foldl f s)) ↔ Along (fun s l => some (f s l)) ok s ls := by
  induction ls generalizing s with
  | nil =>
    refine iff_of_true (fun ms hms => ?_) trivial
    rw [List.prefix_nil.mp hms]
    exact hs
  | cons l ls ih =>
    constructor
    · intro h
      have hl : P (f s l) := h [l] ⟨ls, rfl⟩
      refine ⟨(hstep s l hs).mp hl, fun t ht => ?_⟩
      obtain rfl := Option.some.inj ht
      exact (ih hl).mp fun ms hms => h (l :: ms) ((List.prefix_cons_inj l).mpr hms)
    · rintro ⟨hok, hrest⟩ ms hms
      have hl : P (f s l) := (hstep s l hs).mpr hok
      rcases List.prefix_cons_iff.mp hms with rfl | ⟨tail, rfl, htail⟩
      · exact hs
      · exact (ih hl).mpr (hrest _ rfl) tail htail

end Transition
