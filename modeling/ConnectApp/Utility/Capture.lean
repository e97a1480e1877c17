import ConnectApp.Lib.Memory
import ConnectApp.Utility.Exec

/-!
# The capture loops in memory (utility.c:95-119, gatt_config.c:609-629)

`exec_command` and its private copy `execute` (there is one more in test/softap) fill the
caller's buffer with `fgets` through a moving pointer. Here both are the list of their stores
into memory, so that a store behind the end of the buffer shows.

The two loops differ in the order of two statements. `exec_command` takes the length of the
line it has just read off `len` and then moves the pointer; `execute` moves the pointer first
and then measures the text behind the line, which is empty. Its `len` never shrinks:

- `exec_command_captures`: the buffer holds the first `len - 1` bytes of the output.
- `execute_agrees_iff`: `execute` does the same exactly if all of the output fits.

An output is a list of bytes without NUL; `fgets` splits it into lines.
-/

namespace ConnectApp.Utility

open CString Memory

/-! ## The loops -/

/-- `while (fgets(tmp_buff, len, stream))`: `pos` is where the pointer stands, `shrink` how
much of `len` is used up by the text `fgets` has stored. `none` when the fuel runs out. -/
def captureLoop (shrink : List UInt8 → Nat) : Nat → Nat → Nat → List UInt8 →
    Option (List (Store UInt8))
  | 0, _, _, _ => none
  | fuel + 1, pos, len, stream =>
    match fgets len stream with
    | none => some []
    | some (line, rest) =>
      let stored := line ++ [0]
      let len' := len - shrink stored
      if len' ≤ 1 then some [⟨pos, stored⟩]
      else (captureLoop shrink fuel (pos + (cstr stored).length) len' rest).map (⟨pos, stored⟩ :: ·)

/-- `strlen(tmp_buff)` in front of `tmp_buff += strlen(tmp_buff)`. -/
def execShrink (stored : List UInt8) : Nat := (cstr stored).length

/-- `strlen(tmp_buff)` behind `tmp_buff += strlen(tmp_buff)`. -/
def executeShrink (stored : List UInt8) : Nat := (cstr (stored.drop (cstr stored).length)).length

/-- The stores of `exec_command(cmd, recv_buff, len)` (utility.c:95-119) for a command that
prints `output`. -/
def execCommandStores (fuel : Nat) (output : List UInt8) (len : Nat) :
    Option (List (Store UInt8)) :=
  (captureLoop execShrink fuel 0 len output).map (memset 0 0 len :: ·)

/-- The stores of `execute(cmd, recv_buff, len)` (gatt_config.c:609-629). -/
def executeStores (fuel : Nat) (output : List UInt8) (len : Nat) :
    Option (List (Store UInt8)) :=
  (captureLoop executeShrink fuel 0 len output).map (memset 0 0 len :: ·)

/-! ## One line -/

theorem cstr_stored {line : List UInt8} (h : 0 ∉ line) : cstr (line ++ [0]) = line := by
  rw [cstr_append, if_neg h, cstr_cons_zero, List.append_nil]

theorem execShrink_stored {line : List UInt8} (h : 0 ∉ line) :
    execShrink (line ++ [0]) = line.length := by
  rw [execShrink, cstr_stored h]

/-- Behind the line there is only its terminator. -/
theorem executeShrink_stored {line : List UInt8} (h : 0 ∉ line) :
    executeShrink (line ++ [0]) = 0 := by
  rw [executeShrink, cstr_stored h, List.drop_left, cstr_cons_zero]
  rfl

/-- What a call of `fgets` with room for a byte reads. -/
structure ReadsLine (len : Nat) (stream line rest : List UInt8) : Prop where
  split : stream = line ++ rest
  short : line.length ≤ len - 1
  advances : 1 < len → rest.length < stream.length
  noNul : 0 ∉ stream → 0 ∉ line ∧ 0 ∉ rest

theorem readsLine_of_fgets {len : Nat} {stream line rest : List UInt8}
    (h : fgets len stream = some (line, rest)) : ReadsLine len stream line rest := by
  have happ := takeLine_append (len - 1) stream
  have hle := takeLine_length_le (len - 1) stream
  rw [fgets_eq h] at happ hle
  refine ⟨happ.symm, hle, fun hlen => fgets_length_lt hlen h, fun hnul => ?_⟩
  rw [← happ, List.mem_append, not_or] at hnul
  exact hnul

theorem fgets_eq_none_iff {len : Nat} {stream : List UInt8} :
    fgets len stream = none ↔ stream = [] := by
  rw [fgets]
  split_ifs with h <;> simp [h]

/-! ## The shared loop -/

/-- The stores of a run of `exec_command`'s loop: they end, they stay in the `len` bytes from
`pos` on, and a text in front of `pos` grows by what fits of the stream. -/
structure Captured (pos len : Nat) (stream : List UInt8) (stores : List (Store UInt8)) : Prop where
  inside : ∀ s ∈ stores, s.Inside pos (pos + len)
  shows : ∀ (m : Nat → UInt8) (t : List UInt8), t.length = pos → Shows m 0 (t ++ [0]) →
    Shows (run stores m) 0 (t ++ stream.take (len - 1) ++ [0])

theorem captured_nil (pos len : Nat) : Captured pos len [] [] := by
  refine ⟨List.forall_mem_nil _, fun m t _ ht => ?_⟩
  rw [List.take_nil, List.append_nil]
  exact ht

/-- One line is stored at the pointer, with its terminator. -/
theorem shows_line {pos : Nat} {m : Nat → UInt8} {t : List UInt8} (hpos : t.length = pos)
    (ht : Shows m 0 (t ++ [0])) (line : List UInt8) :
    Shows ((Store.mk pos (line ++ [0])).apply m) 0 (t ++ line ++ [0]) := by
  have hbehind := (ht.shorten (List.prefix_append t [0])).store_behind (line ++ [0])
  rwa [Nat.zero_add, hpos, ← List.append_assoc] at hbehind

/-- The induction is on the fuel; what is left of the buffer shrinks with the line, so the
rest of the loop works on the rest of the buffer. -/
theorem execLoop_captured {fuel pos len : Nat} {stream : List UInt8} (hnul : 0 ∉ stream)
    (hlen : 1 ≤ len) (hfuel : stream.length < fuel) :
    ∃ stores, captureLoop execShrink fuel pos len stream = some stores ∧
      Captured pos len stream stores := by
  induction fuel generalizing pos len stream with
  | zero => omega
  | succ fuel ih =>
    rw [captureLoop]
    cases hf : fgets len stream with
    | none =>
      obtain rfl := fgets_eq_none_iff.mp hf
      exact ⟨[], rfl, captured_nil pos len⟩
    | some p =>
      obtain ⟨line, rest⟩ := p
      obtain ⟨rfl, hshort, hadv, hparts⟩ := readsLine_of_fgets hf
      obtain ⟨hline, hrest⟩ := hparts hnul
      simp only [execShrink_stored hline, cstr_stored hline]
      have hstore : (Store.mk pos (line ++ [0])).Inside pos (pos + len) := by
        refine .inr ⟨Nat.le_refl _, ?_⟩
        rw [List.length_append, List.length_singleton]
        show pos + (line.length + 1) ≤ pos + len
        omega
      split_ifs with hfull
      · -- the buffer is full: the line is all that fits
        refine ⟨_, rfl, List.forall_mem_singleton.mpr hstore, fun m t hpos ht => ?_⟩
        rw [List.take_left' (by omega)]
        exact shows_line hpos ht line
      · have hshrinks := hadv (by omega)
        obtain ⟨stores, hloop, hcap⟩ := @ih (pos + line.length) (len - line.length) rest hrest
          (by omega) (by omega)
        rw [hloop]
        refine ⟨_, rfl, List.forall_mem_cons.mpr ⟨hstore, fun s hs => ?_⟩, fun m t hpos ht => ?_⟩
        · exact (hcap.inside s hs).mono (by omega) (by omega)
        · have htake : (line ++ rest).take (len - 1) = line ++ rest.take (len - line.length - 1) := by
            rw [List.take_append, List.take_of_length_le hshort, Nat.sub_right_comm]
          have hgrow := hcap.shows _ (t ++ line) (by rw [List.length_append, hpos])
            (shows_line hpos ht line)
          rw [htake, ← List.append_assoc]
          exact hgrow

/-- The cleared buffer reads as the empty text. -/
theorem shows_cleared {len : Nat} (hlen : 1 ≤ len) (m : Nat → UInt8) :
    Shows ((memset 0 0 len).apply m) 0 ([] ++ [0]) := by
  intro i hi
  obtain rfl : i = 0 := by simpa using hi
  exact memset_apply hlen 0 m

/-- The code ends with these stores: any fuel that is enough gives them. -/
def Returns (code : Nat → Option (List (Store UInt8))) (stores : List (Store UInt8)) : Prop :=
  ∃ enough, ∀ fuel, enough ≤ fuel → code fuel = some stores

theorem Returns.unique {code : Nat → Option (List (Store UInt8))} {ss ts : List (Store UInt8)}
    (hs : Returns code ss) (ht : Returns code ts) : ss = ts := by
  obtain ⟨n, hn⟩ := hs
  obtain ⟨k, hk⟩ := ht
  have hboth := (hn (max n k) (Nat.le_max_left n k)).symm.trans (hk (max n k) (Nat.le_max_right n k))
  exact Option.some.inj hboth

theorem captureLoop_succ {shrink : List UInt8 → Nat} {fuel pos len : Nat} {stream : List UInt8}
    {stores : List (Store UInt8)} (h : captureLoop shrink fuel pos len stream = some stores) :
    captureLoop shrink (fuel + 1) pos len stream = some stores := by
  induction fuel generalizing pos len stream stores with
  | zero => cases h
  | succ fuel ih =>
    rw [captureLoop] at h ⊢
    cases hf : fgets len stream with
    | none =>
      rw [hf] at h
      exact h
    | some p =>
      obtain ⟨line, rest⟩ := p
      rw [hf] at h
      simp only at h ⊢
      split_ifs at h ⊢
      · exact h
      · obtain ⟨later, hlater, hstores⟩ := Option.map_eq_some_iff.mp h
        rw [ih hlater]
        exact congrArg some hstores

/-- More fuel changes nothing. -/
theorem returns_capture {shrink : List UInt8 → Nat} {fuel len : Nat} {output : List UInt8}
    {stores : List (Store UInt8)} (h : captureLoop shrink fuel 0 len output = some stores) :
    Returns (fun fuel => (captureLoop shrink fuel 0 len output).map (memset 0 0 len :: ·))
      (memset 0 0 len :: stores) := by
  refine ⟨fuel, fun n hn => ?_⟩
  have hmore : captureLoop shrink n 0 len output = some stores := by
    induction n, hn using Nat.le_induction with
    | base => exact h
    | succ n _ ih => exact captureLoop_succ ih
  simp only [hmore, Option.map_some]

/-- The buffer shows the text that `execCommand` says the caller gets. -/
theorem execCommand_returns {output : List UInt8} (hnul : 0 ∉ output) {len : Nat}
    (hlen : 1 ≤ len) :
    ∃ stores, Returns (execCommandStores · output len) stores ∧
      (∀ m, Shows (run stores m) 0 (execCommand output len ++ [0])) ∧
      ∀ s ∈ stores, s.Inside 0 len := by
  obtain ⟨stores, hloop, hcap⟩ :=
    @execLoop_captured (output.length + 1) 0 len output hnul hlen (Nat.lt_succ_self _)
  refine ⟨_, returns_capture hloop, fun m => ?_, List.forall_mem_cons.mpr ⟨?_, fun s hs => ?_⟩⟩
  · rw [execCommand_eq]
    exact hcap.shows _ [] rfl (shows_cleared hlen m)
  · simpa using memset_inside 0 (0 : UInt8) len
  · simpa using hcap.inside s hs

/-- **Bounded capture.** For every output without NUL and every buffer of at least one byte
`exec_command` returns; the buffer then holds the first `len - 1` bytes of the output and a
NUL, and nothing at `len` or behind it has been written. -/
theorem exec_command_captures {output : List UInt8} (hnul : 0 ∉ output) {len : Nat}
    (hlen : 1 ≤ len) :
    ∃ stores, Returns (execCommandStores · output len) stores ∧
      (∀ m, Shows (run stores m) 0 (output.take (len - 1) ++ [0])) ∧
      ∀ s ∈ stores, s.Inside 0 len := by
  rw [← execCommand_eq]
  exact execCommand_returns hnul hlen

/-- Three lines into seven bytes: the second is cut, the third is never read. -/
theorem exec_command_captures_lines :
    (0 : UInt8) ∉ chars "OK\nWPA2\nend" ∧
    ∃ stores, Returns (execCommandStores · (chars "OK\nWPA2\nend") 7) stores ∧
      (∀ m, Shows (run stores m) 0 (chars "OK\nWPA" ++ [0])) ∧ ∀ s ∈ stores, s.Inside 0 7 :=
  ⟨by decide, @exec_command_captures (chars "OK\nWPA2\nend") (by decide) 7 (by decide)⟩

/-! ## The private copy -/

/-- `execute` leaves in the `len` bytes of the buffer what `exec_command` leaves there, and
writes nowhere else. -/
def ExecuteAgrees (output : List UInt8) (len : Nat) : Prop :=
  ∃ ours theirs, Returns (executeStores · output len) ours ∧
    Returns (execCommandStores · output len) theirs ∧
    (∀ m i, i < len → run ours m i = run theirs m i) ∧ ∀ s ∈ ours, s.Inside 0 len

theorem takeLine_of_length_le {n k : Nat} {s : List UInt8} (hn : s.length ≤ n) (hk : s.length ≤ k) :
    takeLine n s = takeLine k s := by
  induction s generalizing n k with
  | nil => cases n <;> cases k <;> rfl
  | cons b s ih =>
    rw [List.length_cons] at hn hk
    obtain ⟨n, rfl⟩ : ∃ j, n = j + 1 := ⟨n - 1, by omega⟩
    obtain ⟨k, rfl⟩ : ∃ j, k = j + 1 := ⟨k - 1, by omega⟩
    rw [takeLine, takeLine, @ih n k (by omega) (by omega)]

/-- As long as everything fits, the length that does not shrink makes no difference. -/
theorem executeLoop_eq {fuel pos len size : Nat} {stream : List UInt8} (hnul : 0 ∉ stream)
    (hfit : stream.length < len) (hsize : len ≤ size) (hfuel : stream.length < fuel) :
    captureLoop executeShrink fuel pos size stream = captureLoop execShrink fuel pos len stream := by
  induction fuel generalizing pos len stream with
  | zero => omega
  | succ fuel ih =>
    have hsame : fgets size stream = fgets len stream := by
      rw [fgets, fgets, takeLine_of_length_le (k := len - 1) (by omega) (by omega)]
    rw [captureLoop, captureLoop, hsame]
    cases hf : fgets len stream with
    | none => rfl
    | some p =>
      obtain ⟨line, rest⟩ := p
      obtain ⟨rfl, hshort, hadv, hparts⟩ := readsLine_of_fgets hf
      obtain ⟨hline, hrest⟩ := hparts hnul
      rw [List.length_append] at hfit hfuel hadv
      have hne : line ++ rest ≠ [] := fun hnil => by
        rw [fgets_eq_none_iff.mpr hnil] at hf
        cases hf
      have hpos : 0 < (line ++ rest).length := List.length_pos_iff.mpr hne
      rw [List.length_append] at hpos
      have hmoves := hadv (by omega)
      simp only [executeShrink_stored hline, execShrink_stored hline, cstr_stored hline, Nat.sub_zero]
      rw [if_neg (by omega)]
      split_ifs with hfull
      · -- `exec_command` stops here; `execute` finds nothing more to read
        obtain rfl : rest = [] := List.eq_nil_of_length_eq_zero (by omega)
        obtain ⟨fuel, rfl⟩ : ∃ k, fuel = k + 1 := ⟨fuel - 1, by omega⟩
        rw [captureLoop, fgets_eq_none_iff.mpr rfl]
        rfl
      · rw [@ih (pos + line.length) (len - line.length) rest hrest (by omega) (by omega) (by omega)]

/-- With room for a byte `execute` stores all of the stream, however long it is. -/
theorem executeLoop_stores {fuel pos len : Nat} {stream : List UInt8} (hnul : 0 ∉ stream)
    (hlen : 2 ≤ len) (hfuel : stream.length < fuel) :
    ∃ stores, captureLoop executeShrink fuel pos len stream = some stores ∧
      (stream ≠ [] → ∃ s ∈ stores, s.bytes ≠ [] ∧
        s.pos + s.bytes.length = pos + stream.length + 1) := by
  induction fuel generalizing pos stream with
  | zero => omega
  | succ fuel ih =>
    rw [captureLoop]
    cases hf : fgets len stream with
    | none => exact ⟨[], rfl, fun hne => absurd (fgets_eq_none_iff.mp hf) hne⟩
    | some p =>
      obtain ⟨line, rest⟩ := p
      obtain ⟨rfl, hshort, hadv, hparts⟩ := readsLine_of_fgets hf
      obtain ⟨hline, hrest⟩ := hparts hnul
      have hmoves := hadv (by omega)
      rw [List.length_append] at hmoves hfuel
      simp only [executeShrink_stored hline, cstr_stored hline, Nat.sub_zero]
      rw [if_neg (by omega)]
      obtain ⟨stores, hloop, hlast⟩ := @ih (pos + line.length) rest hrest (by omega)
      rw [hloop]
      refine ⟨_, rfl, fun _ => ?_⟩
      by_cases hnil : rest = []
      · refine ⟨_, List.mem_cons_self, by simp, ?_⟩
        simp [hnil, Nat.add_assoc]
      · obtain ⟨s, hs, hbytes, hend⟩ := hlast hnil
        refine ⟨s, List.mem_cons_of_mem _ hs, hbytes, ?_⟩
        rw [hend, List.length_append]
        omega

theorem executeLoop_one {fuel : Nat} {output : List UInt8} :
    captureLoop executeShrink (fuel + 1) 0 1 output = captureLoop execShrink (fuel + 1) 0 1 output := by
  rw [captureLoop, captureLoop]
  cases hf : fgets 1 output with
  | none => rfl
  | some p => simp only [Nat.sub_le, if_true]

/-- **When the copies agree.** `execute` does what `exec_command` does exactly if all of the
output fits into the buffer, or there is only room for the terminator. -/
theorem execute_agrees_iff {output : List UInt8} (hnul : 0 ∉ output) {len : Nat} (hlen : 1 ≤ len) :
    ExecuteAgrees output len ↔ output.length < len ∨ len = 1 := by
  constructor
  · rintro ⟨ours, -, hours, -, -, hinside⟩
    by_contra hlong
    obtain ⟨hfit, hone⟩ := not_or.mp hlong
    obtain ⟨stores, hloop, hlast⟩ :=
      @executeLoop_stores (output.length + 1) 0 len output hnul (by omega) (Nat.lt_succ_self _)
    obtain rfl := hours.unique (returns_capture hloop)
    have hne : output ≠ [] := by
      rintro rfl
      exact hfit hlen
    obtain ⟨s, hs, hbytes, hend⟩ := hlast hne
    rcases hinside s (List.mem_cons_of_mem _ hs) with hnil | ⟨-, hle⟩
    · exact hbytes hnil
    · omega
  · intro h
    obtain ⟨stores, hloop, hcap⟩ :=
      @execLoop_captured (output.length + 1) 0 len output hnul hlen (Nat.lt_succ_self _)
    have hsame : captureLoop executeShrink (output.length + 1) 0 len output =
        captureLoop execShrink (output.length + 1) 0 len output := by
      rcases h with hfit | rfl
      · exact executeLoop_eq hnul hfit (Nat.le_refl len) (Nat.lt_succ_self _)
      · exact executeLoop_one
    refine ⟨_, _, returns_capture (hsame.trans hloop), returns_capture hloop, fun m i hi => rfl,
      List.forall_mem_cons.mpr ⟨?_, fun s hs => ?_⟩⟩
    · simpa using memset_inside 0 (0 : UInt8) len
    · simpa using hcap.inside s hs

/-- Two lines that fit. -/
theorem execute_agrees_lines :
    (0 : UInt8) ∉ chars "up\nOK\n" ∧ ExecuteAgrees (chars "up\nOK\n") 8 :=
  ⟨by decide, (execute_agrees_iff (by decide) (by decide)).mpr (.inl (by decide))⟩

/-- Two lines of two bytes into a buffer of four: the second terminator is stored behind it. -/
theorem execute_overruns :
    ∃ output : List UInt8, 0 ∉ output ∧ output.length = 4 ∧ ¬ ExecuteAgrees output 4 := by
  refine ⟨chars "a\nb\n", by decide, by decide, fun h => ?_⟩
  obtain ⟨ours, -, hours, -, -, hinside⟩ := h
  have hloop : captureLoop executeShrink 5 0 4 (chars "a\nb\n") =
      some [⟨0, chars "a\n" ++ [0]⟩, ⟨2, chars "b\n" ++ [0]⟩] := by
    decide
  obtain rfl := hours.unique (returns_capture hloop)
  have hlast := hinside ⟨2, chars "b\n" ++ [0]⟩ (by simp)
  exact absurd hlast (by decide)

end ConnectApp.Utility
