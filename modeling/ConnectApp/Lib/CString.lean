import Mathlib

/-!
# C strings as byte lists

A C string is the list of the bytes before its terminating NUL; a buffer that is
read back as a string is cut at its first NUL (`cstr`). Plain `char` is taken
as unsigned, so a byte is a `UInt8`. Below are the library functions on such
texts: bounded printing (`snprintf`), lines (`fgets`), fields (`strtok`, awk),
decimal numbers (`atoi`, `%d`).
-/

namespace CString

/-- The bytes of an ASCII string literal. -/
def chars (s : String) : List UInt8 := s.toList.map Char.toUInt8

/-- What a string function sees of a buffer: everything before the first NUL. -/
def cstr (buf : List UInt8) : List UInt8 := buf.takeWhile (· ≠ 0)

theorem cstr_cons_of_ne {b : UInt8} (h : b ≠ 0) (t : List UInt8) :
    cstr (b :: t) = b :: cstr t := by
  simp [cstr, h]

@[simp] theorem cstr_cons_zero (t : List UInt8) : cstr (0 :: t) = [] := by
  simp [cstr]

theorem zero_not_mem_cstr (buf : List UInt8) : 0 ∉ cstr buf := by
  intro h
  have hne := List.mem_takeWhile_imp h
  simp at hne

/-- A buffer without NUL is read back whole. -/
theorem cstr_eq_self {t : List UInt8} (h : 0 ∉ t) : cstr t = t := by
  refine List.takeWhile_eq_self_iff.mpr fun b hb => ?_
  have hne : b ≠ 0 := fun h0 => h (h0 ▸ hb)
  simpa using hne

theorem cstr_sublist (t : List UInt8) : (cstr t).Sublist t :=
  List.takeWhile_sublist _

theorem cstr_cons_eq {b c : UInt8} {o s : List UInt8} (h : cstr (b :: o) = c :: s) :
    b = c ∧ cstr o = s := by
  by_cases hb : b = 0
  · rw [hb, cstr_cons_zero] at h
    cases h
  · rw [cstr_cons_of_ne hb] at h
    exact List.cons.inj h

/-- Text behind a NUL is not seen. -/
theorem cstr_append (o u : List UInt8) :
    cstr (o ++ u) = if 0 ∈ o then cstr o else o ++ cstr u := by
  induction o with
  | nil => rfl
  | cons b o ih =>
    by_cases hb : b = 0
    · subst hb
      rw [if_pos (List.mem_cons_self ..), List.cons_append, cstr_cons_zero, cstr_cons_zero]
    · have hmem : 0 ∈ b :: o ↔ 0 ∈ o := by
        rw [List.mem_cons]
        exact or_iff_right fun h => hb h.symm
      rw [List.cons_append, cstr_cons_of_ne hb, cstr_cons_of_ne hb, ih]
      simp only [hmem]
      split_ifs <;> rfl

/-- `snprintf` into a buffer of `size` bytes keeps the first `size - 1`. -/
def snprintf (size : Nat) (t : List UInt8) : List UInt8 := t.take (size - 1)

theorem snprintf_length_le (size : Nat) (t : List UInt8) : (snprintf size t).length ≤ t.length :=
  (List.take_sublist _ _).length_le

theorem snprintf_eq_self {size : Nat} {t : List UInt8} (h : t.length < size) :
    snprintf size t = t :=
  List.take_of_length_le (by omega)

/-- `strstr(t, w) != NULL`. -/
def contains (w t : List UInt8) : Bool := decide (w <:+: t)

/-- The offset of the first `w` in `t`: `strstr(t, w) - t`. -/
def strstr (w : List UInt8) : List UInt8 → Option Nat
  | [] => if w = [] then some 0 else none
  | b :: t => if w <+: b :: t then some 0 else (strstr w t).map (· + 1)

theorem strstr_eq_none_iff {w t : List UInt8} : strstr w t = none ↔ ¬ w <:+: t := by
  induction t with
  | nil =>
    rw [strstr, List.infix_nil]
    split_ifs with h <;> simp [h]
  | cons b t ih =>
    rw [strstr, List.infix_cons_iff]
    split_ifs with h
    · simp [h]
    · rw [Option.map_eq_none_iff, ih]
      simp [h]

/-- At the offset found the text goes on with `w`. -/
theorem strstr_eq_some {w t : List UInt8} {n : Nat} (h : strstr w t = some n) :
    n ≤ t.length ∧ w <+: t.drop n := by
  induction t generalizing n with
  | nil =>
    rw [strstr] at h
    split_ifs at h with hw
    obtain rfl := Option.some.inj h
    exact ⟨Nat.le_refl _, hw ▸ List.nil_prefix⟩
  | cons b t ih =>
    rw [strstr] at h
    split_ifs at h with hw
    · obtain rfl := Option.some.inj h
      exact ⟨Nat.zero_le _, hw⟩
    · obtain ⟨m, hm, rfl⟩ := Option.map_eq_some_iff.mp h
      obtain ⟨hle, hpre⟩ := ih hm
      exact ⟨Nat.succ_le_succ hle, hpre⟩

theorem strstr_append_self {w : List UInt8} (hw : w ≠ []) (t : List UInt8) :
    strstr w (w ++ t) = some 0 := by
  obtain ⟨b, w', rfl⟩ := List.exists_cons_of_ne_nil hw
  exact if_pos (List.prefix_append _ _)

/-- The part of a text in front of the first `w`. -/
def cutAt (w t : List UInt8) : List UInt8 :=
  match strstr w t with
  | some k => t.take k
  | none => t

theorem cutAt_front (w t : List UInt8) : cutAt w t <+: t := by
  rw [cutAt]
  split
  · exact List.take_prefix _ _
  · exact List.prefix_rfl

theorem cutAt_cons {w t : List UInt8} {b : UInt8} (h : ¬ w <+: b :: t) :
    cutAt w (b :: t) = b :: cutAt w t := by
  rw [cutAt, cutAt, strstr, if_neg h]
  cases strstr w t <;> rfl

/-- The text in front of the first `w`, and what stands behind it. -/
theorem cutAt_split {w t : List UInt8} (hw : w ≠ []) :
    ∃ z, t = cutAt w t ++ z ∧ (z = [] ↔ ¬ w <:+: t) ∧ ∀ b ∈ z.head?, b ∈ w := by
  rw [cutAt]
  cases h : strstr w t with
  | none => exact ⟨[], by simp, iff_of_true rfl (strstr_eq_none_iff.mp h), by simp⟩
  | some k =>
    obtain ⟨-, hpre⟩ := strstr_eq_some h
    have hin : w <:+: t := by
      by_contra hno
      rw [strstr_eq_none_iff.mpr hno] at h
      cases h
    refine ⟨t.drop k, (List.take_append_drop k t).symm, iff_of_false ?_ (not_not.mpr hin), ?_⟩
    · intro hnil
      rw [hnil] at hpre
      exact hw (List.prefix_nil.mp hpre)
    · intro b hb
      obtain ⟨c, w', rfl⟩ := List.exists_cons_of_ne_nil hw
      obtain ⟨u, hu⟩ := hpre
      rw [← hu] at hb
      obtain rfl := Option.some.inj hb
      exact List.mem_cons_self ..

/-- A text behind the first `w` does not matter. -/
theorem strstr_append_of_some {w u : List UInt8} {n : Nat} (h : strstr w u = some n)
    (t : List UInt8) : strstr w (u ++ t) = some n := by
  induction u generalizing n with
  | nil =>
    rw [strstr] at h
    split_ifs at h with hw
    cases t with
    | nil => exact (if_pos hw).trans h
    | cons b t => exact (if_pos (hw ▸ List.nil_prefix)).trans h
  | cons b u ih =>
    rw [strstr] at h
    split_ifs at h with hw
    · exact (if_pos (hw.trans (List.prefix_append _ t))).trans h
    · obtain ⟨m, hm, rfl⟩ := Option.map_eq_some_iff.mp h
      -- a match that reaches behind `u` is longer than the one found in it
      have hlen := (strstr_eq_some hm).2.length_le
      have hnot : ¬ w <+: b :: (u ++ t) := fun hpre =>
        hw (List.prefix_of_prefix_length_le hpre (List.prefix_append (b :: u) t)
          (by simp only [List.length_drop, List.length_cons] at hlen ⊢; omega))
      rw [List.cons_append, strstr, if_neg hnot, ih hm]
      rfl

/-- A byte that is not in `w` separates the places where `w` can be found. -/
theorem strstr_append {w : List UInt8} {s : UInt8} (hs : s ∉ w) (hw : w ≠ []) (u t : List UInt8) :
    strstr w (u ++ s :: t) =
      match strstr w u with
      | some n => some n
      | none => (strstr w t).map (· + (u.length + 1)) := by
  have hpre : ∀ u, w <+: u ++ s :: t ↔ w <+: u := by
    intro u
    constructor
    · intro h
      by_cases hlen : w.length ≤ u.length
      · exact List.prefix_of_prefix_length_le h (List.prefix_append _ _) hlen
      · exfalso
        obtain ⟨r, hr⟩ := h
        have hget := congrArg (fun l => l[u.length]?) hr
        simp only [List.getElem?_append_left (Nat.lt_of_not_le hlen)] at hget
        rw [List.getElem?_append_right (Nat.le_refl _)] at hget
        simp only [Nat.sub_self, List.getElem?_cons_zero] at hget
        exact hs (List.mem_of_getElem? hget)
    · exact fun h => h.trans (List.prefix_append _ _)
  induction u with
  | nil =>
    have hnil : ¬ w <+: s :: t := fun h => hw (List.prefix_nil.mp ((hpre []).mp h))
    have hstr : strstr w [] = none := if_neg hw
    rw [List.nil_append, hstr]
    exact if_neg hnil
  | cons b u ih =>
    have hcons := hpre (b :: u)
    rw [List.cons_append] at hcons
    rw [List.cons_append, strstr, strstr]
    by_cases h : w <+: b :: u
    · rw [if_pos h, if_pos (hcons.mpr h)]
    · rw [if_neg h, if_neg fun hc => h (hcons.mp hc), ih]
      cases strstr w u with
      | some n => rfl
      | none =>
        rw [Option.map_none]
        simp only [Option.map_map]
        congr 1

/-! ## Lines -/

/-- Up to `n` bytes of a stream, ending after the first newline; and the rest. -/
def takeLine : Nat → List UInt8 → List UInt8 × List UInt8
  | 0, s => ([], s)
  | _ + 1, [] => ([], [])
  | n + 1, b :: s =>
    if b = 10 then ([b], s) else (b :: (takeLine n s).1, (takeLine n s).2)

theorem takeLine_append (n : Nat) (s : List UInt8) :
    (takeLine n s).1 ++ (takeLine n s).2 = s := by
  induction n generalizing s with
  | zero => rfl
  | succ n ih =>
    cases s with
    | nil => rfl
    | cons b s =>
      rw [takeLine]
      split_ifs
      · rfl
      · show b :: (_ ++ _) = _
        rw [ih s]

theorem takeLine_length_le (n : Nat) (s : List UInt8) : (takeLine n s).1.length ≤ n := by
  induction n generalizing s with
  | zero => exact Nat.le_refl 0
  | succ n ih =>
    cases s with
    | nil => exact Nat.zero_le _
    | cons b s =>
      rw [takeLine]
      split_ifs
      · simp
      · simpa using ih s

/-- `fgets(line, size, fp)`: the line read and what is left of the stream;
`none` at end of file. -/
def fgets (size : Nat) (s : List UInt8) : Option (List UInt8 × List UInt8) :=
  if s = [] then none else some (takeLine (size - 1) s)

theorem fgets_length_lt {size : Nat} {s line rest : List UInt8} (hsize : 1 < size)
    (h : fgets size s = some (line, rest)) : rest.length < s.length := by
  cases s with
  | nil => cases h
  | cons b s =>
    have happ := congrArg List.length (takeLine_append (size - 1) (b :: s))
    obtain ⟨n, rfl⟩ := Nat.exists_eq_add_of_lt hsize
    have hline : 0 < (takeLine (1 + n + 1 - 1) (b :: s)).1.length := by
      rw [show 1 + n + 1 - 1 = n + 1 by omega, takeLine]
      split_ifs <;> simp
    simp only [fgets, List.cons_ne_nil, if_false, Option.some.injEq] at h
    rw [h] at happ hline
    simp only [List.length_append] at happ hline
    omega

/-- A newline can only be the last byte of a line. -/
theorem takeLine_newline {n : Nat} {s pre post : List UInt8}
    (h : (takeLine n s).1 = pre ++ 10 :: post) : post = [] := by
  induction n generalizing s pre with
  | zero => cases pre <;> cases h
  | succ n ih =>
    cases s with
    | nil => cases pre <;> cases h
    | cons b s =>
      rw [takeLine] at h
      split_ifs at h with hb
      · cases pre with
        | nil => exact (List.cons.inj h).2.symm
        | cons c pre => exact absurd (List.cons.inj h).2 (by simp)
      · cases pre with
        | nil => exact absurd (List.cons.inj h).1 hb
        | cons c pre => exact ih (List.cons.inj h).2

/-- A line that fits is read whole. -/
theorem takeLine_line {n : Nat} {l : List UInt8} (hl : (10 : UInt8) ∉ l) (hn : l.length < n)
    (rest : List UInt8) : takeLine n (l ++ 10 :: rest) = (l ++ [10], rest) := by
  induction l generalizing n with
  | nil =>
    obtain ⟨n, rfl⟩ : ∃ k, n = k + 1 := ⟨n - 1, by simp at hn; omega⟩
    rfl
  | cons b l ih =>
    obtain ⟨n, rfl⟩ : ∃ k, n = k + 1 := ⟨n - 1, by simp at hn; omega⟩
    rw [List.mem_cons, not_or] at hl
    rw [List.cons_append, takeLine, if_neg fun h => hl.1 h.symm,
      ih hl.2 (Nat.lt_of_succ_lt_succ hn)]
    rfl

/-- A line that fills the buffer is read without its newline. -/
theorem takeLine_full {l : List UInt8} (hl : (10 : UInt8) ∉ l) (rest : List UInt8) :
    takeLine l.length (l ++ rest) = (l, rest) := by
  induction l with
  | nil => rfl
  | cons b l ih =>
    rw [List.mem_cons, not_or] at hl
    rw [List.length_cons, List.cons_append, takeLine, if_neg fun h => hl.1 h.symm, ih hl.2]

/-- The lines a loop of `fgets(line, size, fp)` reads, `fuel` being at least the
length of the stream. -/
def readLines (size : Nat) : Nat → List UInt8 → List (List UInt8)
  | 0, _ => []
  | fuel + 1, s =>
    match fgets size s with
    | none => []
    | some (line, rest) => line :: readLines size fuel rest

theorem readLines_fuel {size : Nat} (hsize : 1 < size) {n m : Nat} {s : List UInt8}
    (hn : s.length ≤ n) (hm : s.length ≤ m) : readLines size n s = readLines size m s := by
  induction n generalizing m s with
  | zero =>
    obtain rfl := List.eq_nil_of_length_eq_zero (Nat.le_zero.mp hn)
    cases m <;> rfl
  | succ n ih =>
    cases m with
    | zero =>
      obtain rfl := List.eq_nil_of_length_eq_zero (Nat.le_zero.mp hm)
      rfl
    | succ m =>
      rw [readLines, readLines]
      cases h : fgets size s with
      | none => rfl
      | some p =>
        have hlt := fgets_length_lt hsize (show fgets size s = some (p.1, p.2) from h)
        show p.1 :: _ = p.1 :: _
        rw [ih (show p.2.length ≤ n by omega) (show p.2.length ≤ m by omega)]

theorem fgets_eq {size : Nat} {s line rest : List UInt8} (h : fgets size s = some (line, rest)) :
    takeLine (size - 1) s = (line, rest) := by
  unfold fgets at h
  split_ifs at h
  exact Option.some.inj h

theorem fgets_newline {size : Nat} {l : List UInt8} (hl : (10 : UInt8) ∉ l)
    (hsize : l.length < size - 1) (rest : List UInt8) :
    fgets size (l ++ 10 :: rest) = some (l ++ [10], rest) := by
  unfold fgets
  rw [if_neg (by simp), takeLine_line hl hsize]

/-- A loop reads a list of short lines back one by one. -/
theorem readLines_flatMap {size : Nat} {ls : List (List UInt8)}
    (hls : ∀ l ∈ ls, (10 : UInt8) ∉ l ∧ l.length < size - 1) {n : Nat}
    (hn : (ls.flatMap (· ++ [10])).length ≤ n) :
    readLines size n (ls.flatMap (· ++ [10])) = ls.map (· ++ [10]) := by
  induction ls generalizing n with
  | nil => cases n <;> rfl
  | cons l ls ih =>
    obtain ⟨⟨hl, hshort⟩, hls⟩ := List.forall_mem_cons.mp hls
    rw [List.flatMap_cons, List.length_append, List.length_append, List.length_singleton] at hn
    obtain ⟨n, rfl⟩ : ∃ k, n = k + 1 := ⟨n - 1, by omega⟩
    have hrest : (ls.flatMap (· ++ [10])).length ≤ n := by omega
    rw [List.flatMap_cons, List.append_assoc, List.singleton_append, readLines,
      fgets_newline hl hshort, List.map_cons, ← ih hls hrest]

/-- What a loop reads are lines of the stream: its own bytes, at most `size - 1`
of them, and a newline only at the end. -/
theorem mem_readLines {size n : Nat} {s line : List UInt8} (h : line ∈ readLines size n s) :
    line <:+: s ∧ line.length ≤ size - 1 ∧
      ∀ pre post, line = pre ++ 10 :: post → post = [] := by
  induction n generalizing s with
  | zero => cases h
  | succ n ih =>
    rw [readLines] at h
    cases hf : fgets size s with
    | none =>
      rw [hf] at h
      cases h
    | some p =>
      have ht := fgets_eq (show fgets size s = some (p.1, p.2) from hf)
      have happ := takeLine_append (size - 1) s
      have hlen := takeLine_length_le (size - 1) s
      rw [ht] at happ hlen
      rw [hf] at h
      rcases List.mem_cons.mp h with rfl | h
      · refine ⟨⟨[], p.2, happ⟩, hlen, fun pre post hp => ?_⟩
        have hline : (takeLine (size - 1) s).1 = p.1 := by rw [ht]
        exact takeLine_newline (hline.trans hp)
      · obtain ⟨hin, hrest⟩ := ih h
        exact ⟨hin.trans ⟨p.1, [], by rw [List.append_nil]; exact happ⟩, hrest⟩

/-! ## Fields -/

/-- The pieces of a text between separators, empty ones included. -/
def pieces (sep : UInt8 → Bool) : List UInt8 → List (List UInt8)
  | [] => [[]]
  | b :: t =>
    if sep b then [] :: pieces sep t
    else
      match pieces sep t with
      | [] => [[b]]
      | f :: fs => (b :: f) :: fs

/-- The fields of a text: maximal runs without separators. `strtok` returns them
one by one, awk numbers them from 1. -/
def fields (sep : UInt8 → Bool) (t : List UInt8) : List (List UInt8) :=
  (pieces sep t).filter (· ≠ [])

theorem flatten_pieces_sublist (sep : UInt8 → Bool) (t : List UInt8) :
    (pieces sep t).flatten.Sublist t := by
  induction t with
  | nil => exact List.Sublist.refl _
  | cons b t ih =>
    rw [pieces]
    split_ifs with h
    · exact ih.cons b
    · cases hp : pieces sep t with
      | nil => simp
      | cons f fs =>
        rw [hp] at ih
        exact ih.cons_cons b

theorem flatten_fields_sublist (sep : UInt8 → Bool) (t : List UInt8) :
    (fields sep t).flatten.Sublist t :=
  List.Sublist.trans (List.Sublist.flatten List.filter_sublist) (flatten_pieces_sublist sep t)

theorem prefix_of_pieces {sep : UInt8 → Bool} {t f : List UInt8} {fs : List (List UInt8)}
    (h : pieces sep t = f :: fs) : f <+: t := by
  induction t generalizing f fs with
  | nil =>
    obtain ⟨rfl, -⟩ := List.cons.inj h
    exact List.nil_prefix
  | cons b t ih =>
    rw [pieces] at h
    split_ifs at h with hb
    · obtain ⟨rfl, -⟩ := List.cons.inj h
      exact List.nil_prefix
    · cases hp : pieces sep t with
      | nil =>
        rw [hp] at h
        obtain ⟨rfl, -⟩ := List.cons.inj h
        exact ⟨t, rfl⟩
      | cons g gs =>
        rw [hp] at h
        obtain ⟨rfl, -⟩ := List.cons.inj h
        exact (List.prefix_cons_inj b).mpr (ih hp)

/-- A piece is a stretch of the text without separators. -/
theorem mem_pieces {sep : UInt8 → Bool} {t p : List UInt8} (h : p ∈ pieces sep t) :
    p <:+: t ∧ ∀ b ∈ p, sep b = false := by
  induction t generalizing p with
  | nil =>
    obtain rfl := List.mem_singleton.mp h
    exact ⟨List.infix_rfl, by simp⟩
  | cons b t ih =>
    have hcons : ∀ {q}, q <:+: t → q <:+: b :: t := fun hq => List.infix_cons hq
    rw [pieces] at h
    split_ifs at h with hb
    · rcases List.mem_cons.mp h with rfl | h
      · exact ⟨List.nil_infix, by simp⟩
      · exact ⟨hcons (ih h).1, (ih h).2⟩
    · cases hp : pieces sep t with
      | nil =>
        rw [hp] at h
        obtain rfl := List.mem_singleton.mp h
        exact ⟨⟨[], t, rfl⟩, by simpa using hb⟩
      | cons g gs =>
        rw [hp] at h ih
        rcases List.mem_cons.mp h with rfl | h
        · have hg := ih (List.mem_cons_self ..)
          refine ⟨((List.prefix_cons_inj b).mpr (prefix_of_pieces hp)).isInfix, ?_⟩
          rw [List.forall_mem_cons]
          exact ⟨by simpa using hb, hg.2⟩
        · have hq := ih (List.mem_cons_of_mem _ h)
          exact ⟨hcons hq.1, hq.2⟩

theorem mem_fields {sep : UInt8 → Bool} {t f : List UInt8} (h : f ∈ fields sep t) :
    f <:+: t ∧ (∀ b ∈ f, sep b = false) ∧ f ≠ [] := by
  obtain ⟨hp, hne⟩ := List.mem_filter.mp h
  exact ⟨(mem_pieces hp).1, (mem_pieces hp).2, by simpa using hne⟩

theorem pieces_of_none {sep : UInt8 → Bool} {f : List UInt8} (hf : ∀ b ∈ f, sep b = false) :
    pieces sep f = [f] := by
  induction f with
  | nil => rfl
  | cons b f ih =>
    have hb : ¬ sep b = true := by simp [hf b (List.mem_cons_self ..)]
    rw [pieces, if_neg hb, ih fun c hc => hf c (List.mem_cons_of_mem _ hc)]

theorem pieces_ne_nil (sep : UInt8 → Bool) (t : List UInt8) : pieces sep t ≠ [] := by
  cases t with
  | nil => simp [pieces]
  | cons b t =>
    rw [pieces]
    split_ifs
    · simp
    · split <;> simp

theorem pieces_append {sep : UInt8 → Bool} {s : UInt8} (hs : sep s = true) (u t : List UInt8) :
    pieces sep (u ++ s :: t) = pieces sep u ++ pieces sep t := by
  induction u with
  | nil => exact if_pos hs
  | cons b u ih =>
    rw [List.cons_append, pieces, pieces, ih]
    split_ifs
    · rfl
    · obtain ⟨f, fs, hf⟩ := List.exists_cons_of_ne_nil (pieces_ne_nil sep u)
      rw [hf]
      rfl

/-- A text without separators is one field. -/
theorem fields_of_none {sep : UInt8 → Bool} {f : List UInt8} (hf : ∀ b ∈ f, sep b = false)
    (hne : f ≠ []) : fields sep f = [f] := by
  unfold fields
  rw [pieces_of_none hf]
  simp [hne]

/-- A separator ends a field. -/
theorem fields_append {sep : UInt8 → Bool} {s : UInt8} (hs : sep s = true) (u t : List UInt8) :
    fields sep (u ++ s :: t) = fields sep u ++ fields sep t := by
  unfold fields
  rw [pieces_append hs, List.filter_append]

theorem fields_cons_sep {sep : UInt8 → Bool} {s : UInt8} (hs : sep s = true) (t : List UInt8) :
    fields sep (s :: t) = fields sep t := by
  have h := fields_append hs [] t
  rwa [List.nil_append] at h

theorem length_fields_le (sep : UInt8 → Bool) (t : List UInt8) :
    (fields sep t).length ≤ t.length := by
  have hsum : (fields sep t).length ≤ (fields sep t).flatten.length := by
    rw [List.length_flatten, ← List.length_map List.length]
    refine List.length_le_sum_of_one_le _ fun n hn => ?_
    obtain ⟨f, hf, rfl⟩ := List.mem_map.mp hn
    exact List.length_pos_iff.mpr (mem_fields hf).2.2
  exact hsum.trans (flatten_fields_sublist sep t).length_le

theorem fields_eq_nil {sep : UInt8 → Bool} {t : List UInt8} (h : fields sep t = []) :
    ∀ b ∈ t, sep b = true := by
  induction t with
  | nil => simp
  | cons b t ih =>
    by_cases hb : sep b = true
    · rw [fields_cons_sep hb] at h
      exact List.forall_mem_cons.mpr ⟨hb, ih h⟩
    · exfalso
      obtain ⟨f, fs, hf⟩ := List.exists_cons_of_ne_nil (pieces_ne_nil sep t)
      unfold fields at h
      rw [pieces, if_neg hb, hf] at h
      simp at h

/-- The first field ends at the end of the text or at a separator. -/
theorem fields_cons_split {sep : UInt8 → Bool} {t w : List UInt8} {ws : List (List UInt8)}
    (h : fields sep t = w :: ws) :
    ∃ a r, t = a ++ w ++ r ∧ (∀ b ∈ a, sep b = true) ∧ fields sep r = ws ∧
      (∀ b ∈ r.head?, sep b = true) := by
  induction t with
  | nil => cases h
  | cons b t ih =>
    by_cases hb : sep b = true
    · rw [fields_cons_sep hb] at h
      obtain ⟨a, r, rfl, ha, hr, hhead⟩ := ih h
      exact ⟨b :: a, r, rfl, List.forall_mem_cons.mpr ⟨hb, ha⟩, hr, hhead⟩
    · obtain ⟨u, r, hu, hsplit, hsep, hr⟩ : ∃ u r, u ≠ [] ∧ b :: t = u ++ r ∧
          (∀ c ∈ u, sep c = false) ∧ ∀ c ∈ r.head?, sep c = true := by
        refine ⟨(b :: t).takeWhile fun c => !sep c, (b :: t).dropWhile fun c => !sep c, ?_,
          List.takeWhile_append_dropWhile.symm, fun c hc => ?_, fun c hc => ?_⟩
        · simp [hb]
        · simpa using List.mem_takeWhile_imp hc
        · have := List.head?_dropWhile_not (fun c => !sep c) (b :: t)
          rw [Option.mem_def.mp hc] at this
          simpa using this
      rw [hsplit] at h ⊢
      cases r with
      | nil =>
        rw [List.append_nil, fields_of_none hsep hu] at h
        obtain ⟨rfl, rfl⟩ := List.cons.inj h
        exact ⟨[], [], by simp, by simp, rfl, by simp⟩
      | cons s r =>
        have hs : sep s = true := hr s rfl
        rw [fields_append hs, fields_of_none hsep hu] at h
        obtain ⟨rfl, rfl⟩ := List.cons.inj h
        exact ⟨[], s :: r, rfl, by simp, fields_cons_sep hs r, hr⟩

/-! ## The last byte -/

/-- `if (t[strlen(t) - 1] == c) t[strlen(t) - 1] = '\0'`. -/
def dropTrailing (c : UInt8) (t : List UInt8) : List UInt8 :=
  if t.getLast? = some c then t.dropLast else t

theorem dropTrailing_sublist (c : UInt8) (t : List UInt8) : (dropTrailing c t).Sublist t := by
  unfold dropTrailing
  split_ifs
  · exact List.dropLast_sublist t
  · exact List.Sublist.refl t

theorem dropTrailing_concat (c : UInt8) (t : List UInt8) : dropTrailing c (t ++ [c]) = t := by
  simp [dropTrailing]

theorem dropTrailing_of_not_mem {c : UInt8} {t : List UInt8} (h : c ∉ t) :
    dropTrailing c t = t := by
  refine if_neg fun hl => h ?_
  exact List.mem_of_getLast? hl

/-! ## Blanks around a text -/

/-- `isspace`. -/
def isSpace (b : UInt8) : Bool := b = 32 || (9 ≤ b && b ≤ 13)

/-- The text without the spaces at its end. -/
def rtrim (t : List UInt8) : List UInt8 := (t.reverse.dropWhile isSpace).reverse

/-- The text without the spaces at its front. -/
def ltrim (t : List UInt8) : List UInt8 := t.dropWhile isSpace

theorem ltrim_append {a t : List UInt8} (ha : ∀ b ∈ a, isSpace b = true) :
    ltrim (a ++ t) = ltrim t := by
  unfold ltrim
  rw [List.dropWhile_append]
  have hnil : a.dropWhile isSpace = [] := List.dropWhile_eq_nil_iff.mpr ha
  rw [hnil]
  rfl

/-- What `rtrim` cuts off are spaces, and nothing is left to cut off. -/
theorem rtrim_split (t : List UInt8) : ∃ r, t = rtrim t ++ r ∧ (∀ b ∈ r, isSpace b = true) ∧
    ∀ b ∈ (rtrim t).getLast?, isSpace b = false := by
  refine ⟨(t.reverse.takeWhile isSpace).reverse, ?_, fun b hb => ?_, fun b hb => ?_⟩
  · unfold rtrim
    rw [← List.reverse_append, List.takeWhile_append_dropWhile, List.reverse_reverse]
  · exact List.mem_takeWhile_imp (List.mem_reverse.mp hb)
  · unfold rtrim at hb
    rw [List.getLast?_reverse] at hb
    have := List.head?_dropWhile_not isSpace t.reverse
    rw [Option.mem_def.mp hb] at this
    simpa using this

theorem rtrim_append {t r : List UInt8} (hr : ∀ b ∈ r, isSpace b = true) :
    rtrim (t ++ r) = rtrim t := by
  have hnil : r.reverse.dropWhile isSpace = [] :=
    List.dropWhile_eq_nil_iff.mpr fun b hb => hr b (List.mem_reverse.mp hb)
  unfold rtrim
  rw [List.reverse_append, List.dropWhile_append, hnil]
  rfl

theorem trim_cons {b : UInt8} (hb : isSpace b = true) (t : List UInt8) :
    ltrim (rtrim (b :: t)) = ltrim (rtrim t) := by
  unfold rtrim
  rw [List.reverse_cons, List.dropWhile_append]
  cases h : t.reverse.dropWhile isSpace with
  | nil =>
    show ltrim (List.dropWhile isSpace [b]).reverse = _
    rw [List.dropWhile_cons_of_pos hb]
    rfl
  | cons d u =>
    rw [if_neg (by simp), List.reverse_append]
    exact ltrim_append (by simpa using hb)

/-- Trimming both ends: only spaces go, and none is left at either end. -/
theorem trim_split (t : List UInt8) : ∃ a r, t = a ++ ltrim (rtrim t) ++ r ∧
    (∀ b ∈ a, isSpace b = true) ∧ (∀ b ∈ r, isSpace b = true) ∧
    (∀ b ∈ (ltrim (rtrim t)).head?, isSpace b = false) ∧
    (∀ b ∈ (ltrim (rtrim t)).getLast?, isSpace b = false) ∧
    (ltrim (rtrim t) = [] → r = []) := by
  obtain ⟨r, hr, hspace, hlast⟩ := rtrim_split t
  have hsplit : rtrim t = (rtrim t).takeWhile isSpace ++ ltrim (rtrim t) :=
    List.takeWhile_append_dropWhile.symm
  by_cases hnil : ltrim (rtrim t) = []
  · have hall : ∀ b ∈ t, isSpace b = true := by
      intro b hb
      rw [hr, hsplit, hnil, List.append_nil] at hb
      rcases List.mem_append.mp hb with hb | hb
      · exact List.mem_takeWhile_imp hb
      · exact hspace b hb
    refine ⟨t, [], ?_, hall, ?_, ?_, ?_, fun _ => rfl⟩
    all_goals simp [hnil]
  · refine ⟨(rtrim t).takeWhile isSpace, r, ?_, fun b hb => List.mem_takeWhile_imp hb, hspace,
      fun b hb => ?_, fun b hb => ?_, fun h => absurd h hnil⟩
    · rw [← hsplit]
      exact hr
    · have := List.head?_dropWhile_not isSpace (rtrim t)
      rw [Option.mem_def.mp (show b ∈ ((rtrim t).dropWhile isSpace).head? from hb)] at this
      simpa using this
    · refine hlast b ?_
      rw [hsplit]
      exact List.mem_getLast?_append_of_mem_getLast? hb

/-! ## Decimal numbers -/

/-- `isdigit`. -/
def isDigit (b : UInt8) : Bool := 48 ≤ b && b ≤ 57

/-- The digits at the front of a text, read on top of `acc`. -/
def digitsValue : Nat → List UInt8 → Nat
  | acc, [] => acc
  | acc, b :: t => if isDigit b then digitsValue (acc * 10 + (b.toNat - 48)) t else acc

/-- The conversions of `strtol` to a 64-bit `long` and of that to `int`. -/
def toInt (z : Int) : Int := Int.bmod (max (-2 ^ 63) (min z (2 ^ 63 - 1))) (2 ^ 32)

/-- `atoi`. -/
def atoi (t : List UInt8) : Int :=
  match t.dropWhile isSpace with
  | [] => 0
  | b :: rest =>
    if b = 45 then toInt (-(digitsValue 0 rest))
    else if b = 43 then toInt (digitsValue 0 rest)
    else toInt (digitsValue 0 (b :: rest))

/-- The decimal digits of `n` in front of `acc`. -/
def decLoop : Nat → Nat → List UInt8 → List UInt8
  | 0, _, acc => acc
  | fuel + 1, n, acc =>
    if n < 10 then UInt8.ofNat (48 + n) :: acc
    else decLoop fuel (n / 10) (UInt8.ofNat (48 + n % 10) :: acc)

/-- The decimal digits of a number. -/
def natDec (n : Nat) : List UInt8 := decLoop (n + 1) n []

/-- `%d`. -/
def decimal (z : Int) : List UInt8 :=
  if z < 0 then 45 :: natDec z.natAbs else natDec z.natAbs

theorem isDigit_ofNat : ∀ d, d < 10 → isDigit (UInt8.ofNat (48 + d)) = true ∧
    (UInt8.ofNat (48 + d)).toNat - 48 = d ∧ (UInt8.ofNat (48 + d) = 48 → d = 0) := by
  decide

/-- The digits of a number: all of them digits, no leading zero, and they read back
as the number. -/
structure Digits (n : Nat) (ds : List UInt8) : Prop where
  digits : ∀ b ∈ ds, isDigit b = true
  head : ∃ d rest, ds = d :: rest ∧ (d = 48 → rest = [] ∧ n = 0)
  value : ∀ k rest, digitsValue k (ds ++ rest) = digitsValue (k * 10 ^ ds.length + n) rest

theorem decLoop_digits {fuel n : Nat} (h : n < fuel) :
    ∃ ds, Digits n ds ∧ ∀ acc, decLoop fuel n acc = ds ++ acc := by
  induction fuel generalizing n with
  | zero => omega
  | succ fuel ih =>
    by_cases hn : n < 10
    · obtain ⟨hdig, hval, hzero⟩ := isDigit_ofNat n hn
      refine ⟨[UInt8.ofNat (48 + n)], ⟨?_, ?_, ?_⟩, fun acc => ?_⟩
      · simpa using hdig
      · exact ⟨_, [], rfl, fun h48 => ⟨rfl, hzero h48⟩⟩
      · intro k rest
        rw [List.singleton_append, digitsValue, if_pos hdig, hval]
        simp
      · rw [decLoop, if_pos hn]
        rfl
    · obtain ⟨ds, hds, hloop⟩ := ih (show n / 10 < fuel by omega)
      obtain ⟨hdig, hval, -⟩ := isDigit_ofNat (n % 10) (by omega)
      obtain ⟨d, rest, rfl, hhead⟩ := hds.head
      refine ⟨d :: rest ++ [UInt8.ofNat (48 + n % 10)], ⟨?_, ?_, ?_⟩, fun acc => ?_⟩
      · intro b hb
        rcases List.mem_append.mp hb with hb | hb
        · exact hds.digits b hb
        · rwa [List.mem_singleton.mp hb]
      · refine ⟨d, rest ++ [UInt8.ofNat (48 + n % 10)], rfl, fun h48 => ?_⟩
        have := (hhead h48).2
        omega
      · intro k tail
        rw [List.append_assoc, hds.value, List.singleton_append, digitsValue, if_pos hdig, hval,
          List.length_append, List.length_singleton, pow_succ]
        congr 1
        have hdm : n / 10 * 10 + n % 10 = n := Nat.div_add_mod' n 10
        rw [Nat.add_mul, Nat.mul_assoc, Nat.add_assoc, hdm]
      · rw [decLoop, if_neg hn, hloop]
        simp

theorem natDec_digits (n : Nat) : Digits n (natDec n) := by
  obtain ⟨ds, hds, hloop⟩ := decLoop_digits (Nat.lt_succ_self n)
  unfold natDec
  rw [hloop [], List.append_nil]
  exact hds

theorem digitsValue_natDec_append (n : Nat) {t : List UInt8}
    (ht : ∀ b ∈ t.head?, isDigit b = false) : digitsValue 0 (natDec n ++ t) = n := by
  have h := (natDec_digits n).value 0 t
  rw [Nat.zero_mul, Nat.zero_add] at h
  rw [h]
  cases t with
  | nil => rfl
  | cons b t =>
    rw [digitsValue, if_neg]
    simp [ht b rfl]

/-- What stands behind a number shows where it ends. -/
theorem natDec_append_inj {n m : Nat} {t u : List UInt8} (ht : ∀ b ∈ t.head?, isDigit b = false)
    (hu : ∀ b ∈ u.head?, isDigit b = false) (h : natDec n ++ t = natDec m ++ u) :
    n = m ∧ t = u := by
  have hval := congrArg (digitsValue 0) h
  rw [digitsValue_natDec_append n ht, digitsValue_natDec_append m hu] at hval
  subst hval
  exact ⟨rfl, List.append_cancel_left h⟩

theorem natDec_injective : Function.Injective natDec := by
  intro n m h
  have hval (k : Nat) : digitsValue 0 (natDec k ++ []) = k :=
    digitsValue_natDec_append k (by simp)
  rw [← hval n, ← hval m, h]

/-- A character that is no digit ends the number in front of it. -/
theorem head_not_digit {c : UInt8} (hc : isDigit c = false) (t : List UInt8) :
    ∀ b ∈ (c :: t).head?, isDigit b = false := by
  intro b hb
  rwa [← Option.some.inj hb]

theorem toInt_eq_self {z : Int} (h : -2 ^ 31 ≤ z ∧ z < 2 ^ 31) : toInt z = z := by
  unfold toInt
  rw [show min z (2 ^ 63 - 1) = z by omega, show max (-2 ^ 63) z = z by omega]
  exact Int.bmod_eq_of_le (by omega) (by omega)

theorem atoi_cons_digit {d : UInt8} (hd : isDigit d = true) (t : List UInt8) :
    atoi (d :: t) = toInt (digitsValue 0 (d :: t)) := by
  have hne : isSpace d = false ∧ d ≠ 45 ∧ d ≠ 43 := by
    simp [isDigit, isSpace, UInt8.le_iff_toNat_le, ← UInt8.toNat_inj] at hd ⊢
    omega
  rw [atoi, List.dropWhile_cons_of_neg (by simp [hne.1])]
  simp only [if_neg hne.2.1, if_neg hne.2.2]

/-- `atoi` reads back what `%d` printed before a text that starts with no digit. -/
theorem atoi_decimal_append {z : Int} (h : -2 ^ 31 ≤ z ∧ z < 2 ^ 31) {t : List UInt8}
    (ht : ∀ b ∈ t.head?, isDigit b = false) : atoi (decimal z ++ t) = z := by
  have hval := digitsValue_natDec_append z.natAbs ht
  by_cases hz : z < 0
  · unfold atoi decimal
    rw [if_pos hz, List.cons_append, List.dropWhile_cons_of_neg (by decide)]
    simp only [if_true, hval]
    rw [show -((z.natAbs : Nat) : Int) = z by omega]
    exact toInt_eq_self h
  · obtain ⟨d, rest, hds, -⟩ := (natDec_digits z.natAbs).head
    have hd := (natDec_digits z.natAbs).digits d (by rw [hds]; exact List.mem_cons_self ..)
    rw [decimal, if_neg hz, hds, List.cons_append, atoi_cons_digit hd, ← List.cons_append, ← hds,
      hval, show ((z.natAbs : Nat) : Int) = z by omega]
    exact toInt_eq_self h

theorem atoi_decimal {z : Int} (h : -2 ^ 31 ≤ z ∧ z < 2 ^ 31) : atoi (decimal z) = z := by
  have := atoi_decimal_append (t := []) h (by simp)
  rwa [List.append_nil] at this

theorem decLoop_length_le {fuel n k : Nat} (acc : List UInt8) (hn : n < 10 ^ (k + 1)) :
    (decLoop fuel n acc).length ≤ acc.length + (k + 1) := by
  induction fuel generalizing n k acc with
  | zero =>
    rw [decLoop]
    omega
  | succ fuel ih =>
    rw [decLoop]
    split_ifs with h
    · simp
    · cases k with
      | zero => omega
      | succ k =>
        have hdiv : n / 10 < 10 ^ (k + 1) := by
          rw [Nat.div_lt_iff_lt_mul (by omega), ← pow_succ]
          exact hn
        have hlen := ih (UInt8.ofNat (48 + n % 10) :: acc) hdiv
        simp only [List.length_cons] at hlen
        omega

theorem toInt_range (z : Int) : -2 ^ 31 ≤ toInt z ∧ toInt z < 2 ^ 31 := by
  unfold toInt
  constructor
  · exact Int.le_bmod (by decide)
  · exact Int.bmod_lt (by decide)

theorem natDec_length_le {n k : Nat} (h : n < 10 ^ (k + 1)) : (natDec n).length ≤ k + 1 := by
  have hlen := @decLoop_length_le (n + 1) n k [] h
  rwa [List.length_nil, Nat.zero_add] at hlen

/-- Only a number with few digits can be read from few characters. -/
theorem digitsValue_lt (acc : Nat) (t : List UInt8) :
    digitsValue acc t < (acc + 1) * 10 ^ t.length := by
  induction t generalizing acc with
  | nil => simp [digitsValue]
  | cons b t ih =>
    have hgrow : (acc + 1) * 10 ^ t.length ≤ (acc + 1) * 10 ^ (t.length + 1) :=
      Nat.mul_le_mul_left _ (Nat.pow_le_pow_right (by omega) (Nat.le_succ _))
    rw [digitsValue, List.length_cons]
    split_ifs with hb
    · have hdigit : b.toNat - 48 < 10 := by
        simp only [isDigit, Bool.and_eq_true, decide_eq_true_eq, UInt8.le_iff_toNat_le] at hb
        have hle : b.toNat ≤ 57 := hb.2
        omega
      calc digitsValue (acc * 10 + (b.toNat - 48)) t
          < (acc * 10 + (b.toNat - 48) + 1) * 10 ^ t.length := ih _
        _ ≤ ((acc + 1) * 10) * 10 ^ t.length := Nat.mul_le_mul_right _ (by omega)
        _ = (acc + 1) * 10 ^ (t.length + 1) := by rw [pow_succ]; ring
    · have hpos : 0 < 10 ^ (t.length + 1) := Nat.pow_pos (by omega)
      calc acc < acc + 1 := Nat.lt_succ_self _
        _ ≤ (acc + 1) * 10 ^ (t.length + 1) := Nat.le_mul_of_pos_right _ hpos

/-- The first `k` digits of a number are the number exactly if it has no more. -/
theorem atoi_take_natDec {k : Nat} (hk : k < 9) (n : Nat) :
    atoi ((natDec n).take (k + 1)) = n ↔ n < 10 ^ (k + 1) := by
  have hbound : 10 ^ (k + 1) ≤ 10 ^ 9 := Nat.pow_le_pow_right (by omega) (by omega)
  constructor
  · intro h
    obtain ⟨d, rest, hds, -⟩ := (natDec_digits n).head
    have hd := (natDec_digits n).digits d (by rw [hds]; exact List.mem_cons_self ..)
    rw [hds, List.take_succ_cons, atoi_cons_digit hd] at h
    have hval := digitsValue_lt 0 (d :: rest.take k)
    have hlen : (d :: rest.take k).length ≤ k + 1 := by
      rw [List.length_cons, List.length_take]
      omega
    have hpow : 10 ^ (d :: rest.take k).length ≤ 10 ^ (k + 1) :=
      Nat.pow_le_pow_right (by omega) hlen
    rw [toInt_eq_self (by omega)] at h
    omega
  · intro h
    have hdec := atoi_decimal (z := n) (by omega)
    rw [decimal, if_neg (by omega), Int.natAbs_natCast] at hdec
    rw [List.take_of_length_le (natDec_length_le h), hdec]

/-- The bytes of a number: digits and the sign. -/
theorem decimal_byte (z : Int) : ∀ b ∈ decimal z, isDigit b = true ∨ b = 45 := by
  intro b hb
  have hds := (natDec_digits z.natAbs).digits
  rw [decimal] at hb
  split_ifs at hb
  · rcases List.mem_cons.mp hb with rfl | hb
    · exact .inr rfl
    · exact .inl (hds b hb)
  · exact .inl (hds b hb)

theorem decimal_ne_nil (z : Int) : decimal z ≠ [] := by
  obtain ⟨d, rest, hds, -⟩ := (natDec_digits z.natAbs).head
  rw [decimal]
  split_ifs
  · simp
  · rw [hds]
    simp

theorem decimal_length_le {z : Int} (h : -2 ^ 31 ≤ z ∧ z < 2 ^ 31) : (decimal z).length ≤ 11 := by
  have habs : z.natAbs < 10 ^ (9 + 1) := by omega
  have hlen := natDec_length_le habs
  rw [decimal]
  split_ifs
  · rw [List.length_cons]
    omega
  · omega

theorem atoi_range (t : List UInt8) : -2 ^ 31 ≤ atoi t ∧ atoi t < 2 ^ 31 := by
  unfold atoi
  split
  · decide
  · split_ifs
    · exact toInt_range _
    · exact toInt_range _
    · exact toInt_range _

end CString
