import Mathlib.Data.List.Basic

/-!
# Use of a mutex along nested calls

A path through a function locks and unlocks a mutex and calls other functions on the way;
`Path.call` is such a call, with the path through the function called. There is one thread,
and the mutex is not recursive.

`clean` runs a path. It tells whether the mutex is never locked while it is held, never
unlocked by a function that has not locked it, and free when a function returns.
-/

namespace Mutex

/-- What a function does to the mutex, up to its return. -/
inductive Path
  | done
  | lock (rest : Path)
  | unlock (rest : Path)
  | call (body rest : Path)

/-- `held` is the state of the mutex, `mine` tells whether the running function has locked
it. -/
def clean : Bool → Bool → Path → Bool
  | held, _, .done => !held
  | held, _, .lock rest => !held && clean true true rest
  | _, mine, .unlock rest => mine && clean false false rest
  | held, mine, .call body rest => clean held false body && clean held mine rest

/-- Several calls, one after the other. -/
def calls (bodies : List Path) (rest : Path) : Path := bodies.foldr Path.call rest

/-- Under a held mutex no call is clean, whatever it does: at the latest it returns. -/
theorem clean_held (body : Path) : clean true false body = false := by
  induction body with
  | done => rfl
  | lock rest _ => rfl
  | unlock rest _ => rfl
  | call body rest ih _ => rw [clean, ih, Bool.false_and]

/-- Calls by a function that does not hold the mutex. -/
theorem clean_calls {bodies : List Path} {rest : Path} {mine : Bool} :
    clean false mine (calls bodies rest) = true ↔
      (∀ body ∈ bodies, clean false false body = true) ∧ clean false mine rest = true := by
  induction bodies with
  | nil => simp [calls]
  | cons body bodies ih =>
    show (clean false false body && clean false mine (calls bodies rest)) = true ↔ _
    rw [Bool.and_eq_true, ih, List.forall_mem_cons, and_assoc]

/-- Calls by a function that holds the mutex. -/
theorem clean_calls_held {bodies : List Path} {rest : Path} :
    clean true true (calls bodies rest) = true ↔
      bodies = [] ∧ clean true true rest = true := by
  cases bodies with
  | nil => simp [calls]
  | cons body bodies =>
    show (clean true false body && clean true true (calls bodies rest)) = true ↔ _
    rw [clean_held, Bool.false_and]
    exact iff_of_false Bool.false_ne_true fun h => List.cons_ne_nil _ _ h.1

end Mutex
