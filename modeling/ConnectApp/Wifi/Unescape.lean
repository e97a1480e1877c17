import ConnectApp.Lib.Memory
import ConnectApp.Wifi.Escape

/-!
# `remove_escape_character` in memory (Rk_wifi.c:222-241)

The loop reads its text through a pointer, looks at the character behind every backslash, and
writes what it keeps to `dst`. Here it runs on a memory, so that its reads can be counted and its
end is not taken for granted.

- `removeEscapeCall_spec`: on a text of `n` characters the call returns, leaves
  `removeEscapeCharacter` of the text in `dst`, and reads nothing behind the NUL
- `remove_escape_undoes`: a text in which backslashes and quotes have been escaped comes back
-/

namespace ConnectApp.Wifi

open CString Memory

/-- What a call did: the places of `buf` it read, and what it wrote to `dst`. -/
structure Unescape where
  reads : List Nat
  stores : List (Store UInt8)

/-- A round in front of the rest of the call. -/
def Unescape.after (reads : List Nat) (store : Store UInt8) (u : Unescape) : Unescape :=
  ⟨reads ++ u.reads, store :: u.stores⟩

section

variable (buf : Nat → UInt8)

/-- `strlen`, from `p` on and for so many rounds: the place of the NUL. -/
def strlenLoop : Nat → Nat → Option Nat
  | 0, _ => none
  | rounds + 1, p => if buf p = 0 then some p else strlenLoop rounds (p + 1)

/-- The `while` loop with `buf` at `p`; `none` if it has not ended after so many rounds. -/
def removeEscapeLoop : Nat → Nat → Nat → Option Unescape
  | 0, _, _ => none
  | rounds + 1, p, i =>
    if buf p = 0 then some ⟨[p], [⟨i, [0]⟩]⟩
    else if buf p = bslash then
      if buf (p + 1) = bslash ∨ buf (p + 1) = quote then
        (removeEscapeLoop rounds (p + 2) (i + 1)).map (.after [p, p + 1] ⟨i, [buf (p + 1)]⟩)
      else (removeEscapeLoop rounds (p + 1) (i + 1)).map (.after [p, p + 1] ⟨i, [buf p]⟩)
    else (removeEscapeLoop rounds (p + 1) (i + 1)).map (.after [p] ⟨i, [buf p]⟩)

/-- `remove_escape_character(buf, dst)`. The size of `buf_temp`, which is not used otherwise, is
computed first. -/
def removeEscapeCall (rounds : Nat) : Option Unescape :=
  (strlenLoop buf rounds 0).bind fun len =>
    (removeEscapeLoop buf rounds 0 0).map fun u =>
      { u with reads := List.range (len + 1) ++ u.reads }

/-- The call returns after a number of rounds, having done `u`. -/
def Unescapes (u : Unescape) : Prop :=
  ∃ enough, ∀ rounds, enough ≤ rounds → removeEscapeCall buf rounds = some u

end

section

variable {buf : Nat → UInt8} {p : Nat}

theorem strlenLoop_spec {t : List UInt8} (hnul : 0 ∉ t) (hbuf : Shows buf p (t ++ [0]))
    (rounds : Nat) : strlenLoop buf (t.length + 1 + rounds) p = some (p + t.length) := by
  induction t generalizing p with
  | nil =>
    obtain ⟨hend, -⟩ := shows_cons_iff.mp hbuf
    rw [List.length_nil, Nat.zero_add, Nat.add_comm, strlenLoop, if_pos hend, Nat.add_zero]
  | cons b t ih =>
    obtain ⟨hb, hrest⟩ := shows_cons_iff.mp hbuf
    rw [List.mem_cons, not_or] at hnul
    have hleft : (b :: t).length + 1 + rounds = t.length + 1 + rounds + 1 := by
      rw [List.length_cons]
      omega
    rw [hleft, strlenLoop, if_neg (hb ▸ Ne.symm hnul.1), ih hnul.2 hrest, List.length_cons,
      Nat.add_right_comm, Nat.add_assoc]

/-- A character that is copied. A backslash is one too, if what stands behind it is neither. -/
theorem removeEscapeLoop_plain (h0 : buf p ≠ 0)
    (hplain : buf p = bslash → buf (p + 1) ≠ bslash ∧ buf (p + 1) ≠ quote) :
    ∃ reads, (∀ r ∈ reads, r ≤ p + 1) ∧ ∀ rounds i,
      removeEscapeLoop buf (rounds + 1) p i =
        (removeEscapeLoop buf rounds (p + 1) (i + 1)).map (.after reads ⟨i, [buf p]⟩) := by
  by_cases hb : buf p = bslash
  · refine ⟨[p, p + 1], by simp, fun rounds i => ?_⟩
    rw [removeEscapeLoop, if_neg h0, if_pos hb, if_neg (not_or.mpr (hplain hb))]
  · refine ⟨[p], by simp, fun rounds i => ?_⟩
    rw [removeEscapeLoop, if_neg h0, if_neg hb]

/-- **The loop.** It ends at the NUL; what it has written is the text without its escapes. -/
theorem removeEscapeLoop_spec {t : List UInt8} (hnul : 0 ∉ t) (hbuf : Shows buf p (t ++ [0]))
    (i : Nat) :
    ∃ u, (∀ rounds, removeEscapeLoop buf (t.length + 1 + rounds) p i = some u) ∧
      Consecutive i u.stores ∧ u.stores.flatMap Store.bytes = removeEscapeCharacter t ++ [0] ∧
      ∀ r ∈ u.reads, r ≤ p + t.length := by
  have hsucc : ∀ n rounds, n + 1 + rounds = n + rounds + 1 := fun n rounds => by omega
  -- the recursion of `removeEscapeCharacter` takes the same steps as the pointer
  induction t using removeEscapeCharacter.induct generalizing p i with
  | case1 =>
    obtain ⟨hend, -⟩ := shows_cons_iff.mp hbuf
    refine ⟨⟨[p], [⟨i, [0]⟩]⟩, fun rounds => ?_, ⟨rfl, trivial⟩, rfl, by simp⟩
    rw [hsucc, removeEscapeLoop, if_pos hend]
  | case2 b =>
    obtain ⟨hb, hend⟩ := shows_cons_iff.mp hbuf
    obtain ⟨hend, -⟩ := shows_cons_iff.mp hend
    -- a backslash at the end has the NUL behind it
    obtain ⟨reads, hround, heq⟩ := removeEscapeLoop_plain
      (hb ▸ Ne.symm (List.ne_of_not_mem_cons hnul)) (fun _ => by rw [hend]; decide)
    refine ⟨.after reads ⟨i, [b]⟩ ⟨[p + 1], [⟨i + 1, [0]⟩]⟩, fun rounds => ?_, ⟨rfl, rfl, trivial⟩,
      rfl, fun r hr => ?_⟩
    · rw [hsucc, heq, List.length_singleton, Nat.add_comm 1 rounds, removeEscapeLoop, if_pos hend, hb]
      rfl
    · rcases List.mem_append.mp hr with hr | hr
      · exact hround r hr
      · exact Nat.le_of_eq (List.mem_singleton.mp hr)
  | case3 b c rest hesc ih =>
    obtain ⟨hb, hc⟩ := shows_cons_iff.mp hbuf
    obtain ⟨hc, hrest⟩ := shows_cons_iff.mp hc
    simp only [List.mem_cons, not_or] at hnul
    obtain ⟨u, hu, hstores, hout, hreads⟩ := ih hnul.2.2 hrest (i + 1)
    refine ⟨u.after [p, p + 1] ⟨i, [c]⟩, fun rounds => ?_, ⟨rfl, hstores⟩, ?_, fun r hr => ?_⟩
    · have hleft : (b :: c :: rest).length + rounds = rest.length + 1 + (rounds + 1) := by
        simp only [List.length_cons]
        omega
      rw [hsucc, removeEscapeLoop, if_neg (hb ▸ Ne.symm hnul.1), if_pos (hb.trans hesc.1),
        if_pos (hc ▸ hesc.2), hleft, hu, hc]
      rfl
    · rw [removeEscapeCharacter, if_pos hesc]
      exact congrArg (c :: ·) hout
    · simp only [List.length_cons]
      rcases List.mem_append.mp hr with hr | hr
      · simp only [List.mem_cons, List.not_mem_nil, or_false] at hr
        omega
      · have := hreads r hr
        omega
  | case4 b c rest hesc ih =>
    obtain ⟨hb, hrest⟩ := shows_cons_iff.mp hbuf
    obtain ⟨hc, -⟩ := shows_cons_iff.mp hrest
    rw [List.mem_cons, not_or] at hnul
    have hplain : buf p = bslash → buf (p + 1) ≠ bslash ∧ buf (p + 1) ≠ quote := by
      rw [hb, hc]
      exact fun hbs => not_or.mp fun hor => hesc ⟨hbs, hor⟩
    obtain ⟨reads, hround, heq⟩ := removeEscapeLoop_plain (hb ▸ Ne.symm hnul.1) hplain
    obtain ⟨u, hu, hstores, hout, hreads⟩ := ih hnul.2 hrest (i + 1)
    refine ⟨u.after reads ⟨i, [b]⟩, fun rounds => ?_, ⟨rfl, hstores⟩, ?_, fun r hr => ?_⟩
    · rw [hsucc, heq, List.length_cons, hu, hb]
      rfl
    · rw [removeEscapeCharacter, if_neg hesc]
      exact congrArg (b :: ·) hout
    · rw [List.length_cons]
      rcases List.mem_append.mp hr with hr | hr
      · have := hround r hr
        omega
      · have := hreads r hr
        omega

end

/-- **The call** returns, `dst` holds the text without its escapes, and no byte behind the NUL
has been read. -/
theorem removeEscapeCall_spec {buf : Nat → UInt8} {t : List UInt8} (hnul : 0 ∉ t)
    (hbuf : Shows buf 0 (t ++ [0])) :
    ∃ u, Unescapes buf u ∧ (∀ dst, Shows (run u.stores dst) 0 (removeEscapeCharacter t ++ [0])) ∧
      ∀ r ∈ u.reads, r ≤ t.length := by
  obtain ⟨u, hu, hstores, hout, hreads⟩ := removeEscapeLoop_spec hnul hbuf 0
  refine ⟨{ u with reads := List.range (t.length + 1) ++ u.reads }, ⟨t.length + 1, ?_⟩, ?_, ?_⟩
  · -- `strlen` needs one round more than the loop behind it
    intro rounds hrounds
    obtain ⟨more, rfl⟩ := Nat.exists_eq_add_of_le hrounds
    rw [removeEscapeCall, strlenLoop_spec hnul hbuf, hu, Nat.zero_add]
    rfl
  · intro dst
    have := (shows_nil dst 0).run_consecutive hstores
    rwa [List.nil_append, hout] at this
  · intro r hr
    rcases List.mem_append.mp hr with hr | hr
    · exact Nat.lt_succ_iff.mp (List.mem_range.mp hr)
    · rw [← Nat.zero_add t.length]
      exact hreads r hr

/-! ## Escaping and back -/

/-- The text with a backslash in front of every backslash and every double quote. -/
def withBackslashes (s : List UInt8) : List UInt8 :=
  s.flatMap fun b => if b = bslash ∨ b = quote then [bslash, b] else [b]

theorem removeEscape_withBackslashes (s : List UInt8) :
    removeEscapeCharacter (withBackslashes s) = s := by
  induction s with
  | nil => rfl
  | cons b s ih =>
    rw [withBackslashes, List.flatMap_cons]
    split_ifs with hb
    · exact (removeEscape_pair hb.symm _).trans (congrArg (b :: ·) ih)
    · exact (removeEscape_cons (not_or.mp hb).1 _).trans (congrArg (b :: ·) ih)

theorem zero_not_mem_withBackslashes {s : List UInt8} (h : 0 ∉ s) : 0 ∉ withBackslashes s := by
  intro h0
  obtain ⟨b, hb, hmem⟩ := List.mem_flatMap.mp h0
  have hne : (0 : UInt8) ≠ b := fun heq => h (heq ▸ hb)
  split_ifs at hmem
  · simp [hne] at hmem
    exact absurd hmem (by decide)
  · simp [hne] at hmem

/-- **Unescaping undoes escaping**, and on any text it returns one that is not longer, without a
read behind the NUL. -/
theorem remove_escape_undoes :
    (∀ s, 0 ∉ s → ∀ buf, Shows buf 0 (withBackslashes s ++ [0]) →
      ∃ u, Unescapes buf u ∧ ∀ dst, Shows (run u.stores dst) 0 (s ++ [0])) ∧
    ∀ t, 0 ∉ t → ∀ buf, Shows buf 0 (t ++ [0]) →
      ∃ u o, Unescapes buf u ∧ 0 ∉ o ∧ (∀ dst, Shows (run u.stores dst) 0 (o ++ [0])) ∧
        o.length ≤ t.length ∧ ∀ r ∈ u.reads, r ≤ t.length := by
  constructor
  · intro s hs buf hbuf
    obtain ⟨u, hu, hdst, -⟩ := removeEscapeCall_spec (zero_not_mem_withBackslashes hs) hbuf
    rw [removeEscape_withBackslashes] at hdst
    exact ⟨u, hu, hdst⟩
  · intro t ht buf hbuf
    obtain ⟨u, hu, hdst, hreads⟩ := removeEscapeCall_spec ht hbuf
    have hsub := removeEscape_sublist t
    exact ⟨u, removeEscapeCharacter t, hu, fun h0 => ht (hsub.subset h0), hdst, hsub.length_le,
      hreads⟩

end ConnectApp.Wifi
