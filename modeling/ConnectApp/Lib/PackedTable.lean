import Mathlib

/-!
# Tables packed into one number

A long constant table of 16-bit words, kept as one natural number, so that the kernel reads an
entry with a shift and a remainder and does not walk a list.

* `pack` : the pieces of a table, as one number
* `entry` : the word at an index of a packed table
* `allFrom` : a check of `2 ^ k` indices, which halves the range and so nests only `k` deep
* `allFrom_sound` : what the check has shown, for every index of the range
-/

namespace PackedTable

/-- A piece of a table: words written one behind the other, or words that count up. -/
inductive Piece
  | lit (count digits : Nat)
  | run (first count : Nat)

/-- The words `first, first + 1, …` behind a table. -/
def appendRun (table first : Nat) : Nat → Nat
  | 0 => table
  | count + 1 => appendRun table first count <<< 16 ||| (first + count)

/-- A table with a piece behind it. -/
def Piece.append (table : Nat) : Piece → Nat
  | .lit count digits => table <<< (16 * count) ||| digits
  | .run first count => appendRun table first count

/-- The pieces, one behind the other. -/
def pack (pieces : List Piece) : Nat := pieces.foldl Piece.append 0

/-- The word at index `i` of a packed table of `n` words. -/
def entry (table n i : Nat) : Nat := (table >>> (16 * (n - 1 - i))) % 65536

theorem entry_lt (table n i : Nat) : entry table n i < 65536 := Nat.mod_lt _ (by decide)

/-- Whether `p` holds at every index of `lo, …, lo + 2 ^ k - 1`. -/
def allFrom (p : Nat → Bool) : Nat → Nat → Bool
  | 0, lo => p lo
  | k + 1, lo => allFrom p k lo && allFrom p k (lo + 2 ^ k)

/-- A check of a whole range, by halves. -/
theorem allFrom_sound {p : Nat → Bool} : ∀ {k lo : Nat}, allFrom p k lo = true →
    ∀ i, lo ≤ i → i < lo + 2 ^ k → p i = true
  | 0, lo, h, i, hlo, hi => by
    obtain rfl : i = lo := by
      rw [Nat.pow_zero] at hi
      omega
    exact h
  | k + 1, lo, h, i, hlo, hi => by
    obtain ⟨hleft, hright⟩ := Bool.and_eq_true_iff.mp h
    rw [Nat.pow_succ] at hi
    -- the index lies in the left half or in the right one
    by_cases hmid : i < lo + 2 ^ k
    · exact allFrom_sound hleft i hlo hmid
    · exact allFrom_sound hright i (by omega) (by omega)

end PackedTable
