import ConnectApp.Lib.CString

/-!
# Capturing a command's output (utility.c:95-119)

`exec_command` reads the pipe of a command with `fgets` until its buffer is full or
the output ends. For outputs without NUL bytes `execCommand_eq` says what the caller
sees: the first `len - 1` bytes.
-/

namespace ConnectApp.Utility

open CString

/-- The loop of `exec_command`, with `len` bytes of the buffer left. -/
def execLoop : Nat → Nat → List UInt8 → List UInt8
  | 0, _, _ => []
  | fuel + 1, len, stream =>
    match fgets len stream with
    | none => []
    | some (line, rest) =>
      if len - line.length ≤ 1 then line else line ++ execLoop fuel (len - line.length) rest

/-- `exec_command(cmd, buf, len)` for a command that prints `output`. -/
def execCommand (output : List UInt8) (len : Nat) : List UInt8 :=
  execLoop (output.length + 1) len output

theorem execLoop_eq {fuel len : Nat} {stream : List UInt8} (h : stream.length < fuel) :
    execLoop fuel len stream = stream.take (len - 1) := by
  induction fuel generalizing len stream with
  | zero => omega
  | succ fuel ih =>
    rw [execLoop]
    cases hf : fgets len stream with
    | none =>
      unfold fgets at hf
      split_ifs at hf with hnil
      rw [hnil]
      simp
    | some p =>
      obtain ⟨line, rest⟩ := p
      have htake := fgets_eq hf
      have happ := takeLine_append (len - 1) stream
      have hle := takeLine_length_le (len - 1) stream
      rw [htake] at happ hle
      simp only at happ hle ⊢
      subst happ
      split_ifs with hfull
      · rw [List.take_left' (by omega)]
      · have hlt := fgets_length_lt (by omega) hf
        have hline : line.take (len - 1) = line := List.take_of_length_le hle
        rw [ih (by omega), List.take_append, hline, Nat.sub_right_comm]

/-- **Bounded capture.** -/
theorem execCommand_eq (output : List UInt8) (len : Nat) :
    execCommand output len = output.take (len - 1) :=
  execLoop_eq (Nat.lt_succ_self _)

theorem execCommand_short {output : List UInt8} {len : Nat} (h : output.length < len) :
    execCommand output len = output := by
  rw [execCommand_eq]
  exact List.take_of_length_le (by omega)

end ConnectApp.Utility
