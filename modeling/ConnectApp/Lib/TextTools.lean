import ConnectApp.Lib.CString

/-!
# awk, sed and wc on texts

What POSIX says about the few uses of `awk '{print ...}'`, `sed -n Np` and `wc -l`
that programs make of them: awk splits a line into fields at runs of blanks and tabs
and prints one line for each line, `sed -n Np` prints line `N`, `wc -l` counts
newlines. `sedLine_awkPrint` composes them.
-/

namespace TextTools

open CString

/-- The end of a line. -/
def isNewline (b : UInt8) : Bool := b = 10

/-- The lines of a text; a last line without newline counts. -/
def lines (t : List UInt8) : List (List UInt8) :=
  if (pieces isNewline t).getLast? = some [] then (pieces isNewline t).dropLast
  else pieces isNewline t

/-- `sed -n Np` with `N = n + 1`. -/
def sedLine (n : Nat) (t : List UInt8) : List UInt8 :=
  match (lines t)[n]? with
  | some l => l ++ [10]
  | none => []

/-- awk's blanks. -/
def isBlank (b : UInt8) : Bool := b = 32 || b = 9

/-- awk's `$i`. -/
def awkField : Nat → List UInt8 → List UInt8
  | 0, l => l
  | i + 1, l => (fields isBlank l).getD i []

/-- awk's `NF`, as printed. -/
def awkNF (l : List UInt8) : List UInt8 := decimal (fields isBlank l).length

/-- `awk '{print ...}'`. -/
def awkPrint (f : List UInt8 → List UInt8) (t : List UInt8) : List UInt8 :=
  (lines t).flatMap fun l => f l ++ [10]

/-- `wc -l`. -/
def wcLines (t : List UInt8) : List UInt8 := decimal (t.count 10) ++ [10]

/-- Lines written one after the other, each with its newline. -/
def unlines (ls : List (List UInt8)) : List UInt8 := ls.flatMap fun l => l ++ [10]

theorem pieces_unlines {ls : List (List UInt8)} (h : ∀ l ∈ ls, (10 : UInt8) ∉ l) :
    pieces isNewline (unlines ls) = ls ++ [[]] := by
  induction ls with
  | nil => rfl
  | cons l ls ih =>
    have hl : ∀ b ∈ l, isNewline b = false := by
      intro b hb
      have hne : b ≠ 10 := fun h10 => h l (List.mem_cons_self ..) (h10 ▸ hb)
      simpa [isNewline] using hne
    have hnl : isNewline 10 = true := rfl
    show pieces isNewline (l ++ [10] ++ unlines ls) = _
    rw [List.append_assoc, List.singleton_append, pieces_append hnl, pieces_of_none hl,
      ih fun l hl => h l (List.mem_cons_of_mem _ hl)]
    rfl

theorem lines_unlines {ls : List (List UInt8)} (h : ∀ l ∈ ls, (10 : UInt8) ∉ l) :
    lines (unlines ls) = ls := by
  unfold lines
  rw [pieces_unlines h]
  simp

theorem sedLine_unlines {ls : List (List UInt8)} (h : ∀ l ∈ ls, (10 : UInt8) ∉ l) {n : Nat}
    {l : List UInt8} (hn : ls[n]? = some l) : sedLine n (unlines ls) = l ++ [10] := by
  unfold sedLine
  rw [lines_unlines h, hn]

/-- Line `n` of what awk prints is printed from line `n`. -/
theorem sedLine_awkPrint {f : List UInt8 → List UInt8} {ls : List (List UInt8)}
    (h : ∀ l ∈ ls, (10 : UInt8) ∉ l) (hf : ∀ l ∈ ls, (10 : UInt8) ∉ f l) {n : Nat}
    {l : List UInt8} (hn : ls[n]? = some l) : sedLine n (awkPrint f (unlines ls)) = f l ++ [10] := by
  have hprint : awkPrint f (unlines ls) = unlines (ls.map f) := by
    unfold awkPrint
    rw [lines_unlines h]
    unfold unlines
    rw [List.flatMap_map]
  rw [hprint]
  refine sedLine_unlines (fun l hl => ?_) (by rw [List.getElem?_map, hn]; rfl)
  obtain ⟨l', hl', rfl⟩ := List.mem_map.mp hl
  exact hf l' hl'

/-! ## Where the printed bytes come from -/

theorem mem_of_mem_lines {t l : List UInt8} (hl : l ∈ lines t) {b : UInt8} (hb : b ∈ l) : b ∈ t := by
  have hpiece : l ∈ pieces isNewline t := by
    unfold lines at hl
    split_ifs at hl
    · exact List.mem_of_mem_dropLast hl
    · exact hl
  exact (mem_pieces hpiece).1.subset hb

theorem mem_of_mem_sedLine {n : Nat} {t : List UInt8} {b : UInt8} (h : b ∈ sedLine n t) :
    b = 10 ∨ b ∈ t := by
  unfold sedLine at h
  split at h
  · next l hl =>
    rcases List.mem_append.mp h with h | h
    · exact .inr (mem_of_mem_lines (List.mem_of_getElem? hl) h)
    · exact .inl (List.mem_singleton.mp h)
  · cases h

theorem mem_of_mem_awkField {i : Nat} {l : List UInt8} {b : UInt8} (h : b ∈ awkField i l) :
    b ∈ l := by
  cases i with
  | zero => exact h
  | succ i =>
    rw [awkField, List.getD_eq_getElem?_getD] at h
    cases hi : (fields isBlank l)[i]? with
    | none =>
      rw [hi] at h
      cases h
    | some f =>
      rw [hi] at h
      exact (mem_fields (List.mem_of_getElem? hi)).1.subset h

theorem mem_of_mem_awkPrint {i : Nat} {t : List UInt8} {b : UInt8}
    (h : b ∈ awkPrint (awkField i) t) : b = 10 ∨ b ∈ t := by
  obtain ⟨l, hl, hb⟩ := List.mem_flatMap.mp h
  rcases List.mem_append.mp hb with hb | hb
  · exact .inr (mem_of_mem_lines hl (mem_of_mem_awkField hb))
  · exact .inl (List.mem_singleton.mp hb)

theorem newline_not_mem_awkField (i : Nat) {l : List UInt8} (h : (10 : UInt8) ∉ l) :
    (10 : UInt8) ∉ awkField i l :=
  fun h10 => h (mem_of_mem_awkField h10)

theorem newline_not_mem_decimal (z : Int) : (10 : UInt8) ∉ decimal z := by
  intro h10
  rcases decimal_byte z 10 h10 with h | h
  · cases h
  · cases h

theorem count_unlines {ls : List (List UInt8)} (h : ∀ l ∈ ls, (10 : UInt8) ∉ l) :
    (unlines ls).count 10 = ls.length := by
  induction ls with
  | nil => rfl
  | cons l ls ih =>
    show (l ++ [10] ++ unlines ls).count 10 = _
    rw [List.count_append, List.count_append, ih fun l hl => h l (List.mem_cons_of_mem _ hl),
      List.count_eq_zero.mpr (h l (List.mem_cons_self ..)), List.length_cons]
    simp
    omega

end TextTools
