import ConnectApp.Lib.CBuffer

/-!
# Buffers with their size

A `Buffer n` has `n` bytes. Code that copies into it without a look at the size of what it copies
goes over its end (`write` is `none`).

A buffer that was zero, and into which texts are copied without their NULs, holds a text and NULs
behind it (`Holds`). It need not be the text that was copied last: if that is shorter than the one
before it, the end of the other one still stands there (`Text.onto`).
-/

namespace CString

/-! ## Texts -/

namespace Text

theorem zero_not_mem_nil : (0 : UInt8) ∉ ([] : List UInt8) := List.not_mem_nil

/-- The empty text. -/
def empty : Text := ⟨[], zero_not_mem_nil⟩

/-- What stands there after the first text has been copied over the second. -/
def onto (s t : Text) : Text :=
  ⟨memcpy s.1 t.1, fun h =>
    (List.mem_append.mp h).elim s.2 fun hdrop => t.2 (List.mem_of_mem_drop hdrop)⟩

theorem onto_val (s t : Text) : (s.onto t).1 = s.1 ++ t.1.drop s.1.length := rfl

theorem length_onto (s t : Text) : (s.onto t).1.length = max s.1.length t.1.length := by
  rw [onto_val, List.length_append, List.length_drop]
  omega

/-- A shorter text disappears. -/
theorem onto_of_le {s t : Text} (h : t.1.length ≤ s.1.length) : s.onto t = s := by
  refine Subtype.ext ?_
  rw [onto_val, List.drop_of_length_le h, List.append_nil]

theorem onto_empty (s : Text) : s.onto empty = s := onto_of_le (Nat.zero_le _)

/-- The text of a number. -/
def ofInt (z : Int) : Text :=
  ⟨decimal z, fun h => by
    rcases decimal_byte z 0 h with h | h
    · cases h
    · cases h⟩

end Text

/-! ## Buffers -/

/-- A buffer of `n` bytes. -/
abbrev Buffer (n : Nat) := {b : List UInt8 // b.length = n}

namespace Buffer

variable {n : Nat}

/-- A buffer after `memset`. -/
def zero (n : Nat) : Buffer n := ⟨List.replicate n 0, List.length_replicate⟩

theorem length_memcpy {src : List UInt8} (h : src.length ≤ n) (b : Buffer n) :
    (memcpy src b.1).length = n := by
  rw [memcpy, List.length_append, List.length_drop, b.2]
  omega

/-- `memcpy` of these bytes to the start of the buffer, if they end inside. -/
def write (src : List UInt8) (b : Buffer n) : Option (Buffer n) :=
  if h : src.length ≤ n then some ⟨memcpy src b.1, length_memcpy h b⟩ else none

theorem write_of_lt {src : List UInt8} (h : n < src.length) (b : Buffer n) : write src b = none :=
  dif_neg (Nat.not_le.mpr h)

theorem write_of_le {src : List UInt8} (h : src.length ≤ n) (b : Buffer n) :
    ∃ b' : Buffer n, write src b = some b' ∧ b'.1 = memcpy src b.1 :=
  ⟨_, dif_pos h, rfl⟩

/-- A number that is printed into the buffer can be read there. -/
theorem write_text {t : Text} (h : t.1.length < n) (b : Buffer n) :
    ∃ b' : Buffer n, write (t.1 ++ [0]) b = some b' ∧ text? b'.1 = some t.1 := by
  have hlen : (t.1 ++ [0]).length ≤ n := by
    rw [List.length_append, List.length_singleton]
    exact h
  obtain ⟨b', hb', hval⟩ := write_of_le hlen b
  refine ⟨b', hb', ?_⟩
  rw [hval]
  exact text?_strcpy t.2 b.1

/-- The buffer holds a text and NULs up to its end. A text may fill it. -/
def Holds (b : Buffer n) (t : Text) : Prop := b.1 = t.1 ++ List.replicate (n - t.1.length) 0

theorem holds_zero : (zero n).Holds .empty := rfl

namespace Holds

variable {b : Buffer n} {t : Text} (h : b.Holds t)

include h

theorem length_le : t.1.length ≤ n := by
  have hlen := congrArg List.length h
  rw [b.2, List.length_append, List.length_replicate] at hlen
  omega

theorem cstr_eq : cstr b.1 = t.1 := by
  have hzeros : cstr (List.replicate (n - t.1.length) 0) = [] := by
    cases n - t.1.length with
    | zero => rfl
    | succ k => rw [List.replicate_succ, cstr_cons_zero]
  rw [h, cstr_append, if_neg t.2, hzeros, List.append_nil]

/-- There is a NUL exactly if the text does not fill the buffer. -/
theorem zero_mem_iff : 0 ∈ b.1 ↔ t.1.length < n := by
  have hle := h.length_le
  rw [h, List.mem_append, or_iff_right t.2, List.mem_replicate]
  exact ⟨fun hmem => by omega, fun hlt => ⟨by omega, rfl⟩⟩

theorem text?_eq (hlt : t.1.length < n) : text? b.1 = some t.1 := by
  rw [text?, if_pos (h.zero_mem_iff.mpr hlt), h.cstr_eq]

/-- A text is copied over the one that stands there. -/
theorem write {s : Text} (hs : s.1.length ≤ n) :
    ∃ b', write s.1 b = some b' ∧ b'.Holds (s.onto t) := by
  obtain ⟨b', hb', hval⟩ := write_of_le hs b
  refine ⟨b', hb', ?_⟩
  have hle := h.length_le
  rw [Holds, hval, memcpy, h, Text.length_onto, Text.onto_val, List.drop_append,
    List.drop_replicate, List.append_assoc]
  congr 3
  omega

end Holds

end Buffer

end CString
