import Mathlib.Data.List.Nodup
import Mathlib.Tactic.SplitIfs

/-!
# Memory and the stores into it

A memory gives a value for every index. A `Store` puts values into consecutive places; what
a piece of code does to the memory is the list of its stores.

- `Store.Inside lo hi`: the store touches only the places from `lo` up to `hi`.
- `run_of_outside`: code whose stores are inside leaves every other place as it was.
- `run_groups`: of stores into disjoint places, each place sees only its own.
- `Shows m pos t`: from `pos` on the memory reads `t`.
- `Shows.store_behind`: a store right behind a text makes it longer. This is the induction
  step of every loop that fills a buffer through a moving pointer; `Shows.run_consecutive` is
  such a loop as a whole.
- `Padded z m pos n t`: a field of fixed size holds `t` and `z` behind it; `Padded.ends_iff` says
  when a text with such an end can be read out of the field again.
-/

namespace Memory

variable {α : Type}

/-- Consecutive values, put into memory from `pos` on. -/
structure Store (α : Type) where
  pos : Nat
  bytes : List α
  deriving DecidableEq

namespace Store

/-- The memory after the store. -/
def apply (s : Store α) (m : Nat → α) : Nat → α := fun i =>
  if s.pos ≤ i then (s.bytes[i - s.pos]?).getD (m i) else m i

/-- Everything the store writes lies between `lo` and `hi`. -/
def Inside (lo hi : Nat) (s : Store α) : Prop :=
  s.bytes = [] ∨ lo ≤ s.pos ∧ s.pos + s.bytes.length ≤ hi

instance [DecidableEq α] (lo hi : Nat) (s : Store α) : Decidable (s.Inside lo hi) := by
  unfold Inside
  infer_instance

theorem Inside.mono {lo hi lo' hi' : Nat} {s : Store α} (h : s.Inside lo hi) (hlo : lo' ≤ lo)
    (hhi : hi ≤ hi') : s.Inside lo' hi' := by
  rcases h with hnil | ⟨hpos, hend⟩
  · exact .inl hnil
  · exact .inr ⟨Nat.le_trans hlo hpos, Nat.le_trans hend hhi⟩

theorem apply_inside {s : Store α} {i : Nat} (h : i < s.bytes.length) (m : Nat → α) :
    s.apply m (s.pos + i) = s.bytes[i] := by
  rw [apply, if_pos (Nat.le_add_right _ _), Nat.add_sub_cancel_left, List.getElem?_eq_getElem h]
  rfl

theorem apply_outside {s : Store α} {i : Nat} (h : i < s.pos ∨ s.pos + s.bytes.length ≤ i)
    (m : Nat → α) : s.apply m i = m i := by
  rw [apply]
  split_ifs with hpos
  · rw [List.getElem?_eq_none (by omega)]
    rfl
  · rfl

end Store

/-- The memory after the stores, in their order. -/
def run (ss : List (Store α)) (m : Nat → α) : Nat → α := ss.foldl (fun m s => s.apply m) m

@[simp] theorem run_nil (m : Nat → α) : run [] m = m := rfl

@[simp] theorem run_cons (s : Store α) (ss : List (Store α)) (m : Nat → α) :
    run (s :: ss) m = run ss (s.apply m) := rfl

theorem run_append (ss ts : List (Store α)) (m : Nat → α) :
    run (ss ++ ts) m = run ts (run ss m) :=
  List.foldl_append

/-- **Frame.** Stores inside leave every place outside as it was. -/
theorem run_of_outside {ss : List (Store α)} {lo hi i : Nat} (hss : ∀ s ∈ ss, s.Inside lo hi)
    (hi' : i < lo ∨ hi ≤ i) (m : Nat → α) : run ss m i = m i := by
  induction ss generalizing m with
  | nil => rfl
  | cons s ss ih =>
    rw [run_cons, ih fun t ht => hss t (List.mem_cons_of_mem _ ht)]
    rcases hss s List.mem_cons_self with hnil | ⟨hpos, hend⟩
    · refine Store.apply_outside ?_ m
      rw [hnil, List.length_nil]
      omega
    · exact Store.apply_outside (by omega) m

/-- What a place holds after the stores depends only on what it held before. -/
theorem run_congr (ss : List (Store α)) {m m' : Nat → α} {i : Nat} (h : m i = m' i) :
    run ss m i = run ss m' i := by
  induction ss generalizing m m' with
  | nil => exact h
  | cons s ss ih =>
    refine ih ?_
    show (if s.pos ≤ i then _ else m i) = if s.pos ≤ i then _ else m' i
    rw [h]

/-- **Disjoint groups.** If the stores of each group stay in the group's own range, then in one
of these ranges only its own stores matter. -/
theorem run_groups {ι : Type} {lo hi : ι → Nat} {g : ι → List (Store α)} {fs : List ι} {f : ι}
    {i : Nat} (hnodup : fs.Nodup) (hf : f ∈ fs)
    (hin : ∀ k ∈ fs, k ≠ f → ∀ s ∈ g k, s.Inside (lo k) (hi k))
    (hi' : ∀ k ∈ fs, k ≠ f → i < lo k ∨ hi k ≤ i) (m : Nat → α) :
    run (fs.flatMap g) m i = run (g f) m i := by
  -- a group without `f` does nothing at `i`
  have hother : ∀ (ks : List ι) (m : Nat → α), (∀ k ∈ ks, k ∈ fs ∧ k ≠ f) →
      run (ks.flatMap g) m i = m i := by
    intro ks
    induction ks with
    | nil => exact fun m _ => rfl
    | cons k ks ih =>
      intro m hks
      obtain ⟨hk, hne⟩ := hks k List.mem_cons_self
      rw [List.flatMap_cons, run_append, ih _ fun j hj => hks j (List.mem_cons_of_mem _ hj)]
      exact run_of_outside (hin k hk hne) (hi' k hk hne) m
  obtain ⟨before, after, rfl⟩ := List.append_of_mem hf
  rw [List.nodup_middle, List.nodup_cons, List.mem_append, not_or] at hnodup
  rw [List.flatMap_append, List.flatMap_cons, run_append, run_append]
  rw [hother after _ fun k hk => ⟨by simp [hk], fun h => hnodup.1.2 (h ▸ hk)⟩]
  exact run_congr (g f) (hother before m fun k hk => ⟨by simp [hk], fun h => hnodup.1.1 (h ▸ hk)⟩)

/-- From `pos` on the memory reads `t`. -/
def Shows (m : Nat → α) (pos : Nat) (t : List α) : Prop :=
  ∀ i (h : i < t.length), m (pos + i) = t[i]

theorem shows_nil (m : Nat → α) (pos : Nat) : Shows m pos [] := fun _ h => nomatch h

theorem shows_store (s : Store α) (m : Nat → α) : Shows (s.apply m) s.pos s.bytes :=
  fun _ h => Store.apply_inside h m

theorem Shows.shorten {m : Nat → α} {pos : Nat} {t u : List α} (h : Shows m pos u)
    (htu : t <+: u) : Shows m pos t := by
  obtain ⟨v, rfl⟩ := htu
  intro i hi
  rw [h i (by rw [List.length_append]; omega), List.getElem_append_left hi]

theorem shows_append_iff {m : Nat → α} {pos : Nat} {t u : List α} :
    Shows m pos (t ++ u) ↔ Shows m pos t ∧ Shows m (pos + t.length) u := by
  constructor
  · intro h
    refine ⟨h.shorten (List.prefix_append t u), fun i hi => ?_⟩
    have hget := h (t.length + i) (by rw [List.length_append]; omega)
    rw [List.getElem_append_right (Nat.le_add_right _ _)] at hget
    simpa [Nat.add_assoc] using hget
  · rintro ⟨ht, hu⟩ i hi
    rw [List.length_append] at hi
    by_cases hlt : i < t.length
    · rw [List.getElem_append_left hlt]
      exact ht i hlt
    · have hge : t.length ≤ i := Nat.not_lt.mp hlt
      rw [List.getElem_append_right hge, ← hu (i - t.length) (by omega)]
      congr 1
      omega

theorem shows_cons_iff {m : Nat → α} {pos : Nat} {b : α} {t : List α} :
    Shows m pos (b :: t) ↔ m pos = b ∧ Shows m (pos + 1) t := by
  have hone : Shows m pos [b] ↔ m pos = b :=
    ⟨fun h => h 0 Nat.one_pos, fun h i hi => by
      obtain rfl : i = 0 := by simpa using hi
      exact h⟩
  rw [← List.singleton_append, shows_append_iff, hone, List.length_singleton]

/-- Reading the places of a text gives the text. -/
theorem Shows.map_range {m : Nat → α} {t : List α} (h : Shows m 0 t) :
    (List.range t.length).map m = t := by
  refine List.ext_getElem (by simp) fun i _ hi => ?_
  rw [List.getElem_map, List.getElem_range, ← h i hi, Nat.zero_add]

/-- A store elsewhere does not change a text. -/
theorem Shows.store_elsewhere {m : Nat → α} {pos : Nat} {t : List α} {s : Store α}
    (h : Shows m pos t)
    (hs : pos + t.length ≤ s.pos ∨ s.pos + s.bytes.length ≤ pos) : Shows (s.apply m) pos t := by
  intro i hi
  rw [Store.apply_outside (by omega) m]
  exact h i hi

/-- **A moving pointer.** A store right behind a text makes it longer. -/
theorem Shows.store_behind {m : Nat → α} {pos : Nat} {t : List α} (h : Shows m pos t)
    (u : List α) : Shows ((Store.mk (pos + t.length) u).apply m) pos (t ++ u) :=
  shows_append_iff.mpr
    ⟨h.store_elsewhere (.inl (Nat.le_refl _)), shows_store ⟨pos + t.length, u⟩ m⟩

/-- Every store starts where the one before it ended, the first one at `pos`. -/
def Consecutive : Nat → List (Store α) → Prop
  | _, [] => True
  | pos, s :: ss => s.pos = pos ∧ Consecutive (pos + s.bytes.length) ss

/-- **Output.** Consecutive stores behind a text make it longer by all that they write. -/
theorem Shows.run_consecutive {ss : List (Store α)} {pos : Nat} {m : Nat → α} {t : List α}
    (h : Shows m pos t) (hss : Consecutive (pos + t.length) ss) :
    Shows (run ss m) pos (t ++ ss.flatMap Store.bytes) := by
  induction ss generalizing m t with
  | nil => simpa using h
  | cons s ss ih =>
    obtain ⟨spos, bytes⟩ := s
    obtain ⟨rfl : spos = pos + t.length, hss⟩ := hss
    rw [run_cons, List.flatMap_cons, ← List.append_assoc]
    refine ih ?_ (by rwa [List.length_append, ← Nat.add_assoc])
    exact h.store_behind bytes

/-- `memset(buf + pos, b, n)`. -/
def memset (pos : Nat) (b : α) (n : Nat) : Store α := ⟨pos, List.replicate n b⟩

theorem memset_inside (pos : Nat) (b : α) (n : Nat) : (memset pos b n).Inside pos (pos + n) :=
  .inr ⟨Nat.le_refl _, by simp [memset]⟩

theorem memset_apply {pos n i : Nat} (hi : i < n) (b : α) (m : Nat → α) :
    (memset pos b n).apply m (pos + i) = b := by
  have hlen : i < (memset pos b n).bytes.length := by rwa [memset, List.length_replicate]
  exact (Store.apply_inside hlen m).trans (List.getElem_replicate hlen)

/-- The field of `n` places from `pos` on holds the text `t`, and `z` behind it. -/
structure Padded (z : α) (m : Nat → α) (pos n : Nat) (t : List α) : Prop where
  length_le : t.length ≤ n
  text : Shows m pos t
  rest : ∀ i, t.length ≤ i → i < n → m (pos + i) = z

namespace Padded

variable {z : α} {m : Nat → α} {pos n : Nat} {t : List α}

theorem of_memset (z : α) (m : Nat → α) (pos n : Nat) :
    Padded z ((memset pos z n).apply m) pos n [] :=
  ⟨Nat.zero_le n, shows_nil _ _, fun _ _ hi => memset_apply hi z m⟩

theorem congr {m' : Nat → α} (h : Padded z m pos n t)
    (hm : ∀ i, i < n → m' (pos + i) = m (pos + i)) : Padded z m' pos n t := by
  refine ⟨h.length_le, fun i hi => ?_, fun i hti hi => ?_⟩
  · rw [hm i (Nat.lt_of_lt_of_le hi h.length_le)]
    exact h.text i hi
  · rw [hm i hi]
    exact h.rest i hti hi

/-- A store at the start of the field leaves what stands behind it. -/
theorem overwrite (h : Padded z m pos n t) {u : List α} (hu : u.length ≤ n) :
    Padded z ((Store.mk pos u).apply m) pos n (u ++ t.drop u.length) := by
  have hlen := h.length_le
  have hbehind : ∀ i, u.length ≤ i → (Store.mk pos u).apply m (pos + i) = m (pos + i) := by
    intro i hi
    exact Store.apply_outside (.inr (Nat.add_le_add_left hi pos)) m
  refine ⟨?_, shows_append_iff.mpr ⟨shows_store ⟨pos, u⟩ m, fun i hi => ?_⟩, fun i hti hi => ?_⟩
  · rw [List.length_append, List.length_drop]
    omega
  · rw [List.length_drop] at hi
    rw [Nat.add_assoc, hbehind _ (Nat.le_add_right _ _), List.getElem_drop]
    exact h.text _ (by omega)
  · rw [List.length_append, List.length_drop] at hti
    rw [hbehind i (by omega)]
    exact h.rest i (by omega) hi

/-- Padding at the end of the text is no text. -/
theorem trim {k : Nat} (h : Padded z m pos n (t ++ List.replicate k z)) : Padded z m pos n t := by
  have hlen := h.length_le
  rw [List.length_append, List.length_replicate] at hlen
  obtain ⟨htext, hpad⟩ := shows_append_iff.mp h.text
  refine ⟨by omega, htext, fun i hti hi => ?_⟩
  by_cases hik : i < t.length + k
  · have hget := hpad (i - t.length) (by rw [List.length_replicate]; omega)
    rw [List.getElem_replicate, show pos + t.length + (i - t.length) = pos + i by omega] at hget
    exact hget
  · exact h.rest i (by rw [List.length_append, List.length_replicate]; omega) hi

/-- **The end of the text.** A text without `z` ends inside the field if it is shorter than the
field, and only then. -/
theorem ends_iff (h : Padded z m pos n t) (hz : z ∉ t) :
    (∃ i, i < n ∧ m (pos + i) = z) ↔ t.length < n := by
  constructor
  · rintro ⟨i, hi, hend⟩
    by_contra hlt
    have hit : i < t.length := by omega
    rw [h.text i hit] at hend
    exact hz (hend ▸ List.getElem_mem hit)
  · intro hlt
    exact ⟨t.length, hlt, h.rest _ (Nat.le_refl _) hlt⟩

end Padded

/-- Consecutive places that are read or written. -/
structure Span where
  pos : Nat
  count : Nat
  deriving DecidableEq

/-- All places of the span lie below `n`. -/
def Span.Below (n : Nat) (s : Span) : Prop := s.pos + s.count ≤ n

instance (n : Nat) (s : Span) : Decidable (s.Below n) :=
  inferInstanceAs (Decidable (s.pos + s.count ≤ n))

theorem Span.Below.mono {n k : Nat} {s : Span} (h : s.Below n) (hnk : n ≤ k) : s.Below k :=
  Nat.le_trans h hnk

end Memory
