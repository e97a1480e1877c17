import Mathlib.Data.List.Nodup

/-!
# Lists searched for the first match

A loop over a linked list keeps the element it is at in a variable and leaves on the first
match. `update` changes the element found. `stop` is the position the variable is left at:
that of the first match, but that of the last element when nothing matches. With distinct keys
the order of the elements does not matter (`find?_key_perm`).
-/

namespace FirstMatch

variable {α β : Type}

/-- `f` applied to the first element with `q`. -/
def update (q : α → Bool) (f : α → α) : List α → List α
  | [] => []
  | x :: xs => if q x then f x :: xs else x :: update q f xs

theorem map_update {q : α → Bool} {f : α → α} {g : α → β} (h : ∀ x, q x = true → g (f x) = g x)
    (l : List α) : (update q f l).map g = l.map g := by
  induction l with
  | nil => rfl
  | cons x xs ih =>
    rw [update]
    split_ifs with hx
    · rw [List.map_cons, List.map_cons, h x hx]
    · rw [List.map_cons, List.map_cons, ih]

/-- With distinct keys only the element with key `b` is changed. -/
theorem mem_update {q : α → Bool} {f : α → α} {g : α → β} {b : β}
    (hq : ∀ x, q x = true ↔ g x = b) {l : List α} (hnodup : (l.map g).Nodup) {y : α}
    (h : y ∈ update q f l) : (∃ x ∈ l, g x = b ∧ y = f x) ∨ (y ∈ l ∧ g y ≠ b) := by
  induction l with
  | nil => cases h
  | cons x xs ih =>
    rw [List.map_cons, List.nodup_cons] at hnodup
    rw [update] at h
    split_ifs at h with hx
    · rcases List.mem_cons.mp h with rfl | h
      · exact .inl ⟨x, List.mem_cons_self, (hq x).mp hx, rfl⟩
      · -- the key `b` is used up by the first element
        refine .inr ⟨List.mem_cons_of_mem x h, fun hy => hnodup.1 ?_⟩
        rw [(hq x).mp hx, ← hy]
        exact List.mem_map_of_mem h
    · rcases List.mem_cons.mp h with rfl | h
      · exact .inr ⟨List.mem_cons_self, fun hy => hx ((hq y).mpr hy)⟩
      · rcases ih hnodup.2 h with ⟨z, hz, hgz, rfl⟩ | ⟨hy, hne⟩
        · exact .inl ⟨z, List.mem_cons_of_mem x hz, hgz, rfl⟩
        · exact .inr ⟨List.mem_cons_of_mem x hy, hne⟩

/-- With distinct keys there is nothing behind the element found that could be changed too. -/
theorem update_eq_map {q : α → Bool} {f : α → α} {g : α → β} {b : β} {l : List α}
    (hq : ∀ x ∈ l, q x = true ↔ g x = b) (hnodup : (l.map g).Nodup) :
    update q f l = l.map fun x => if q x then f x else x := by
  induction l with
  | nil => rfl
  | cons x xs ih =>
    obtain ⟨hx, hxs⟩ := List.forall_mem_cons.mp hq
    rw [List.map_cons, List.nodup_cons] at hnodup
    rw [update, List.map_cons]
    split_ifs with hqx
    · have hrest : ∀ y ∈ xs, (if q y then f y else y) = y := by
        intro y hy
        refine if_neg fun hqy => hnodup.1 ?_
        rw [hx.mp hqx, ← (hxs y hy).mp hqy]
        exact List.mem_map_of_mem hy
      rw [List.map_congr_left hrest, List.map_id']
    · rw [ih hxs hnodup.2]

theorem mem_update_of_exists {q : α → Bool} {l : List α} (h : ∃ x ∈ l, q x = true) (y : α) :
    y ∈ update q (fun _ => y) l := by
  induction l with
  | nil =>
    obtain ⟨x, hx, -⟩ := h
    cases hx
  | cons x xs ih =>
    rw [update]
    split_ifs with hx
    · exact List.mem_cons_self
    · obtain ⟨z, hz, hqz⟩ := h
      rcases List.mem_cons.mp hz with rfl | hz
      · exact absurd hqz hx
      · exact List.mem_cons_of_mem x (ih ⟨z, hz, hqz⟩)

/-- To store what was computed from the element found is to update it. -/
theorem update_find? {q : α → Bool} {l : List α} {x : α} (h : l.find? q = some x) (f : α → α) :
    update q (fun _ => f x) l = update q f l := by
  induction l with
  | nil => cases h
  | cons y ys ih =>
    rw [update, update]
    by_cases hy : q y = true
    · rw [List.find?_cons_of_pos hy] at h
      rw [if_pos hy, if_pos hy, Option.some.inj h]
    · rw [List.find?_cons_of_neg hy] at h
      rw [if_neg hy, if_neg hy, ih h]

theorem find?_update_self {q : α → Bool} {f : α → α} (h : ∀ x, q x = true → q (f x) = true)
    (l : List α) : (update q f l).find? q = (l.find? q).map f := by
  induction l with
  | nil => rfl
  | cons x xs ih =>
    rw [update]
    by_cases hx : q x = true
    · rw [if_pos hx, List.find?_cons_of_pos (h x hx), List.find?_cons_of_pos hx, Option.map_some]
    · rw [if_neg hx, List.find?_cons_of_neg hx, List.find?_cons_of_neg hx, ih]

theorem find?_update_of_ne {p q : α → Bool} {f : α → α}
    (h : ∀ x, q x = true → p x = false ∧ p (f x) = false) (l : List α) :
    (update q f l).find? p = l.find? p := by
  induction l with
  | nil => rfl
  | cons x xs ih =>
    rw [update]
    split_ifs with hx
    · rw [List.find?_cons, (h x hx).2, List.find?_cons, (h x hx).1]
    · rw [List.find?_cons, List.find?_cons, ih]

/-- Where the loop variable is left: `none` when the list is empty and the variable was never
set. -/
def stop (q : α → Bool) : List α → Option Nat
  | [] => none
  | x :: xs =>
    if q x then some 0
    else
      match stop q xs with
      | none => some 0
      | some i => some (i + 1)

theorem stop_eq_none_iff {q : α → Bool} {l : List α} : stop q l = none ↔ l = [] := by
  cases l with
  | nil => exact iff_of_true rfl rfl
  | cons x xs =>
    refine iff_of_false ?_ (List.cons_ne_nil x xs)
    rw [stop]
    by_cases hx : q x = true
    · rw [if_pos hx]
      exact Option.some_ne_none 0
    · rw [if_neg hx]
      split <;> exact Option.some_ne_none _

/-- When the test finds what `q'` says, erasing at `stop` erases the first element with
`q'`. -/
theorem eraseIdx_stop {q q' : α → Bool} {l : List α} (hq : ∀ x ∈ l, q x = q' x)
    (h : ∃ x ∈ l, q' x = true) : ∃ i, stop q l = some i ∧ l.eraseIdx i = l.eraseP q' := by
  induction l with
  | nil =>
    obtain ⟨x, hx, -⟩ := h
    cases hx
  | cons x xs ih =>
    have hqx := hq x List.mem_cons_self
    by_cases hx : q' x = true
    · exact ⟨0, by rw [stop, hqx, if_pos hx], by rw [List.eraseP_cons_of_pos hx]; rfl⟩
    · obtain ⟨y, hy, hqy⟩ := h
      have hy : y ∈ xs := by
        rcases List.mem_cons.mp hy with rfl | hy
        · exact absurd hqy hx
        · exact hy
      obtain ⟨i, hi, herase⟩ := ih (fun z hz => hq z (List.mem_cons_of_mem x hz)) ⟨y, hy, hqy⟩
      refine ⟨i + 1, by rw [stop, hqx, if_neg hx, hi], ?_⟩
      rw [List.eraseP_cons_of_neg hx, List.eraseIdx_cons_succ, herase]

/-! ## Distinct keys -/

section

variable [DecidableEq β] {g : α → β}

/-- With distinct keys the first element with a key is the one with that key. -/
theorem find?_key_iff {l : List α} (hnodup : (l.map g).Nodup) {b : β} {x : α} :
    l.find? (fun y => g y = b) = some x ↔ x ∈ l ∧ g x = b := by
  constructor
  · intro h
    exact ⟨List.mem_of_find?_eq_some h, by simpa using List.find?_some h⟩
  · rintro ⟨hx, rfl⟩
    cases h : l.find? (fun y => g y = g x) with
    | none =>
      rw [List.find?_eq_none] at h
      exact absurd (decide_eq_true rfl) (h x hx)
    | some y =>
      have hy : g y = g x := by simpa using List.find?_some h
      rw [List.inj_on_of_nodup_map hnodup (List.mem_of_find?_eq_some h) hx hy]

/-- So the order of the elements does not matter. -/
theorem find?_key_perm {l l' : List α} (hperm : l.Perm l') (hnodup : (l.map g).Nodup) (b : β) :
    l.find? (fun y => g y = b) = l'.find? (fun y => g y = b) := by
  have hnodup' : (l'.map g).Nodup := (hperm.map g).nodup_iff.mp hnodup
  refine Option.ext fun x => ?_
  rw [find?_key_iff hnodup, find?_key_iff hnodup', hperm.mem_iff]

theorem filter_key {l : List α} (hnodup : (l.map g).Nodup) {x : α} (hx : x ∈ l) :
    l.filter (fun y => g y = g x) = [x] := by
  induction l with
  | nil => exact absurd hx List.not_mem_nil
  | cons y l ih =>
    obtain ⟨hy, hl⟩ := List.nodup_cons.mp hnodup
    rcases List.mem_cons.mp hx with rfl | hx
    · have hrest : l.filter (fun z => g z = g x) = [] := by
        refine List.filter_eq_nil_iff.mpr fun z hz => ?_
        rw [decide_eq_true_iff]
        intro heq
        exact hy (heq ▸ List.mem_map_of_mem hz)
      rw [List.filter_cons_of_pos (by simp), hrest]
    · have hne : g y ≠ g x := fun heq => hy (heq ▸ List.mem_map_of_mem hx)
      rw [List.filter_cons_of_neg (by simpa using hne), ih hl hx]

/-- To take out the first element with a key is to take out all. -/
theorem eraseP_key {l : List α} (hnodup : (l.map g).Nodup) (b : β) :
    l.eraseP (fun x => g x = b) = l.filter fun x => g x ≠ b := by
  induction l with
  | nil => rfl
  | cons x l ih =>
    obtain ⟨hx, hl⟩ := List.nodup_cons.mp hnodup
    by_cases h : g x = b
    · rw [List.eraseP_cons_of_pos (by simpa using h), List.filter_cons_of_neg (by simpa using h)]
      refine (List.filter_eq_self.mpr fun y hy => ?_).symm
      rw [decide_eq_true_iff]
      intro heq
      rw [h, ← heq] at hx
      exact hx (List.mem_map_of_mem hy)
    · rw [List.eraseP_cons_of_neg (by simpa using h), List.filter_cons_of_pos (by simpa using h),
        ih hl]

end

end FirstMatch
