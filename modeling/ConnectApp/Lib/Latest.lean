import Mathlib.Data.List.DropRight

/-!
# The latest values in a sequence of events

A cell that events overwrite holds the value of the latest event that has one (`latest`).
A copy of the cell that is taken at some of the events holds what the cell held at the last
of these: what counts for it are the events up to there (`heard`).
-/

namespace Latest

variable {ι α : Type}

/-- The value of the last event that has one, `a` when there is none. -/
def latest (value : ι → Option α) (a : α) (es : List ι) : α := (es.filterMap value).getLastD a

theorem latest_concat (value : ι → Option α) (a : α) (es : List ι) (e : ι) :
    latest value a (es ++ [e]) = (value e).getD (latest value a es) := by
  rw [latest, List.filterMap_append]
  cases h : value e with
  | none => rw [List.filterMap_cons_none h, List.filterMap_nil, List.append_nil]; rfl
  | some b =>
    rw [List.filterMap_cons_some h, List.filterMap_nil, Option.getD_some]
    exact List.getLastD_concat ..

/-- The events up to the last one with `q`. -/
def heard (q : ι → Bool) (es : List ι) : List ι := es.rdropWhile fun e => !q e

theorem heard_concat_pos {q : ι → Bool} {e : ι} (h : q e = true) (es : List ι) :
    heard q (es ++ [e]) = es ++ [e] :=
  List.rdropWhile_concat_neg _ _ _ (by simp [h])

theorem heard_concat_neg {q : ι → Bool} {e : ι} (h : q e = false) (es : List ι) :
    heard q (es ++ [e]) = heard q es :=
  List.rdropWhile_concat_pos _ _ _ (by simp [h])

/-- Nothing is heard when no event has `q`. -/
theorem heard_eq_nil_iff {q : ι → Bool} {es : List ι} : heard q es = [] ↔ es.filter q = [] := by
  rw [heard, List.rdropWhile_eq_nil_iff, List.filter_eq_nil_iff]
  refine forall₂_congr fun e _ => ?_
  rw [Bool.not_eq_true']
  exact (Bool.not_eq_true _).symm.to_iff

end Latest
