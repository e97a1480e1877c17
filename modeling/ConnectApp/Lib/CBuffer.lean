import ConnectApp.Lib.CString

/-!
# Texts in buffers of a fixed size

A buffer is the list of its bytes. `strncpy`, `strcpy` and `memcpy` fill it from the front;
`text?` is what a reader of strings finds in it, if there is a NUL to stop at, and
`readText` what it finds in any case. Comparisons of texts (`strncmp`, `strcasecmp`) come
first.
-/

namespace CString

/-- `strncmp(a, b, n) == 0`. -/
def eqFirst (n : Nat) (a b : List UInt8) : Bool := decide (a.take n = b.take n)

theorem eqFirst_iff {n : Nat} {a b : List UInt8} (ha : a.length ≤ n) (hb : b.length ≤ n) :
    eqFirst n a b = true ↔ a = b := by
  rw [eqFirst, List.take_of_length_le ha, List.take_of_length_le hb, decide_eq_true_iff]

/-- `tolower` in the C locale. -/
def lower (b : UInt8) : UInt8 := if 65 ≤ b ∧ b ≤ 90 then b + 32 else b

/-- `strcasecmp(a, b) == 0`. -/
def eqIgnoringCase (a b : List UInt8) : Bool := decide (a.map lower = b.map lower)

/-- `memcpy(buf, src, n)` with the `n` bytes `src`. -/
def memcpy (src buf : List UInt8) : List UInt8 := src ++ buf.drop src.length

@[simp] theorem take_memcpy (src buf : List UInt8) : (memcpy src buf).take src.length = src :=
  List.take_left

/-- `strcpy(buf, s)`. -/
def strcpy (s buf : List UInt8) : List UInt8 := memcpy (s ++ [0]) buf

/-- `strncpy(buf, s, n)` of a buffer of `n` bytes: the text is cut to `n` bytes, and a
shorter one is filled up with NULs. -/
def strncpy (n : Nat) (s : List UInt8) : List UInt8 := s.take n ++ List.replicate (n - s.length) 0

/-- The text of a buffer; without a NUL in the buffer a reader runs off its end. -/
def text? (buf : List UInt8) : Option (List UInt8) := if 0 ∈ buf then some (cstr buf) else none

theorem text?_append_zero {s : List UInt8} (hs : 0 ∉ s) (rest : List UInt8) :
    text? (s ++ 0 :: rest) = some s := by
  rw [text?, if_pos (List.mem_append_right s List.mem_cons_self), cstr_append, if_neg hs,
    cstr_cons_zero, List.append_nil]

theorem text?_strcpy {s : List UInt8} (hs : 0 ∉ s) (buf : List UInt8) :
    text? (strcpy s buf) = some s := by
  rw [strcpy, memcpy, List.append_assoc]
  exact text?_append_zero hs _

/-- `strncpy` leaves a terminated text when there is room for the NUL. -/
theorem text?_strncpy {n : Nat} {s : List UInt8} (hs : 0 ∉ s) (hn : s.length < n) :
    text? (strncpy n s) = some s := by
  obtain ⟨k, hk⟩ : ∃ k, n - s.length = k + 1 := ⟨n - s.length - 1, by omega⟩
  rw [strncpy, List.take_of_length_le hn.le, hk, List.replicate_succ]
  exact text?_append_zero hs _

/-- A C string. -/
abbrev Text := {t : List UInt8 // 0 ∉ t}

/-- The text a reader finds when `beyond` stands behind the buffer. -/
def readText (beyond : Text) (buf : List UInt8) : Text :=
  if h : 0 ∈ buf then ⟨cstr buf, zero_not_mem_cstr buf⟩
  else ⟨buf ++ beyond, fun hmem => (List.mem_append.mp hmem).elim h beyond.2⟩

theorem readText_eq {buf : List UInt8} {t : Text} (h : text? buf = some t.1) (beyond : Text) :
    readText beyond buf = t := by
  rw [text?] at h
  split_ifs at h with hmem
  rw [readText, dif_pos hmem]
  exact Subtype.ext (Option.some.inj h)

end CString
