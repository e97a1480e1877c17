import ConnectApp.Wifi.Escape

/-!
# Where `spec_char_convers` reads and writes (Rk_wifi.c:243-266)

`specCharAccesses` logs the loop's accesses to its input and to `buf_temp`,
whose size is `strlen(buf) + 1`. The log ends at the first test of `*buf` that
finds the terminator or lies past it.

* `accesses_inBounds_iff` : all accesses are in bounds exactly when the loop stops
  at the terminator (`specCharConvers`)
* `escapesFit` : the condition on the text, or on the SSID it shows: read from the
  left, every backslash followed by `x` has two more characters behind it
* `specCharZeroed` : what the loop writes when it steps over the terminator and
  finds zeros there. `accesses_zeroed_iff` says when this is all it does wrong.
-/

namespace ConnectApp.Wifi

open CString

/-- An access of `spec_char_convers`: a read of `buf[i]` or a write of
`buf_temp[i]`. -/
inductive Access
  | readBuf (i : Nat)
  | writeTemp (i : Nat)
  deriving DecidableEq

/-- Inside the first `size` bytes of the input; inside `buf_temp[n + 1]`. -/
def Access.InBounds (size n : Nat) : Access → Prop
  | .readBuf i => i < size
  | .writeTemp i => i < n + 1

instance (size n : Nat) (a : Access) : Decidable (a.InBounds size n) :=
  match a with
  | .readBuf i => inferInstanceAs (Decidable (i < size))
  | .writeTemp i => inferInstanceAs (Decidable (i < n + 1))

/-- `strcpy(buf_temp, buf)` from offset `p` with `k` characters left. -/
def strcpyAccesses (p k : Nat) : List Access :=
  (List.range (k + 1)).flatMap fun i => [.readBuf (p + i), .writeTemp i]

/-- The accesses of the loop from offset `p`, with `t` left before the
terminator. -/
def specCharAccesses : Nat → List UInt8 → List Access
  | p, [] => [.readBuf p]
  | p, b :: rest =>
    .readBuf p ::
      if b = bslash then
        .readBuf (p + 1) ::
          if rest.head? = some lowerX then
            strcpyAccesses p (rest.length + 1) ++ [.writeTemp 0, .writeTemp 4] ++
              match rest with
              | _ :: _ :: _ :: rest' => specCharAccesses (p + 4) rest'
              | _ => [.readBuf (p + 4)]
          else specCharAccesses (p + 1) rest
      else specCharAccesses (p + 1) rest

section

variable {p n size : Nat} {b : UInt8} {t : List UInt8}

/-- `strcpy` stops at the terminator. -/
theorem strcpy_inBounds {k : Nat} (h : p + k = n) (hsize : n < size) :
    ∀ a ∈ strcpyAccesses p k, a.InBounds size n := by
  intro a ha
  obtain ⟨i, hi, ha⟩ := List.mem_flatMap.mp ha
  rw [List.mem_range] at hi
  simp only [List.mem_cons, List.not_mem_nil, or_false] at ha
  rcases ha with rfl | rfl
  · show p + i < size
    omega
  · show i < n + 1
    omega

theorem accesses_cons (p : Nat) (h : ¬ (b = bslash ∧ t.head? = some lowerX)) :
    specCharAccesses p (b :: t) =
      .readBuf p :: (if b = bslash then [.readBuf (p + 1)] else []) ++
        specCharAccesses (p + 1) t := by
  rw [specCharAccesses.eq_def]
  by_cases hb : b = bslash
  · have hx : ¬ t.head? = some lowerX := fun hx => h ⟨hb, hx⟩
    simp only [if_pos hb, if_neg hx]
    rfl
  · simp only [if_neg hb]
    rfl

/-- A character that starts no escape is read and copied. -/
theorem inBounds_cons_iff (h : ¬ (b = bslash ∧ t.head? = some lowerX))
    (hn : p + (t.length + 1) = n) (hsize : n < size) :
    (∀ a ∈ specCharAccesses p (b :: t), a.InBounds size n) ↔
      ∀ a ∈ specCharAccesses (p + 1) t, a.InBounds size n := by
  rw [accesses_cons p h]
  constructor
  · intro h a ha
    exact h a (List.mem_append_right _ ha)
  · intro h a ha
    rcases List.mem_append.mp ha with ha | ha
    · rcases List.mem_cons.mp ha with rfl | ha
      · show p < size
        omega
      · split_ifs at ha
        · rw [List.mem_singleton.mp ha]
          show p + 1 < size
          omega
        · cases ha
    · exact h a ha

/-- The accesses of an escape: what is copied ends at the terminator, and `buf_temp[4]` and the
rest of the loop decide. -/
theorem inBounds_escape_iff {next : List Access}
    (hdef : specCharAccesses p (bslash :: lowerX :: t) = .readBuf p :: .readBuf (p + 1) ::
      (strcpyAccesses p (t.length + 2) ++ [.writeTemp 0, .writeTemp 4] ++ next))
    (hn : p + (t.length + 2) = n) (hsize : n < size) :
    (∀ a ∈ specCharAccesses p (bslash :: lowerX :: t), a.InBounds size n) ↔
      4 ≤ n ∧ ∀ a ∈ next, a.InBounds size n := by
  rw [hdef]
  constructor
  · intro h
    refine ⟨?_, fun a ha => h a (by simp [ha])⟩
    have htemp : 4 < n + 1 := h (.writeTemp 4) (by simp)
    omega
  · rintro ⟨hlen, h⟩ a ha
    simp only [List.mem_cons, List.mem_append, List.not_mem_nil, or_false] at ha
    rcases ha with rfl | rfl | (ha | rfl | rfl) | ha
    · show p < size
      omega
    · show p + 1 < size
      omega
    · exact strcpy_inBounds hn hsize a ha
    · show 0 < n + 1
      omega
    · show 4 < n + 1
      omega
    · exact h a ha

/-- A complete hex escape reads and writes in bounds and moves on by four. -/
theorem inBounds_hex_iff {h l : UInt8} (hn : p + (t.length + 4) = n) (hsize : n < size) :
    (∀ a ∈ specCharAccesses p (bslash :: lowerX :: h :: l :: t), a.InBounds size n) ↔
      ∀ a ∈ specCharAccesses (p + 4) t, a.InBounds size n :=
  (inBounds_escape_iff rfl hn hsize).trans (and_iff_right (by omega))

/-- An unfinished hex escape makes the loop test `*buf` past the terminator. -/
theorem inBounds_short_iff (ht : t.length < 2) (hn : p + (t.length + 2) = n) (hsize : n < size) :
    (∀ a ∈ specCharAccesses p (bslash :: lowerX :: t), a.InBounds size n) ↔
      4 ≤ n ∧ p + 4 < size := by
  have hdef : specCharAccesses p (bslash :: lowerX :: t) = .readBuf p :: .readBuf (p + 1) ::
      (strcpyAccesses p (t.length + 2) ++ [.writeTemp 0, .writeTemp 4] ++ [.readBuf (p + 4)]) := by
    match t, ht with
    | [], _ => rfl
    | [_], _ => rfl
  rw [inBounds_escape_iff hdef hn hsize, List.forall_mem_singleton]
  rfl

end

/-- The accesses of a run are in bounds exactly when the run stops at the
terminator. -/
theorem accesses_inBounds_iff {p n : Nat} {t : List UInt8} (hn : p + t.length = n) :
    (∀ a ∈ specCharAccesses p t, a.InBounds (n + 1) n) ↔ (specCharConvers t).isSome := by
  have hsize : n < n + 1 := Nat.lt_succ_self n
  induction t using specCharConvers.induct generalizing p with
  | case1 =>
    refine iff_of_true (fun a ha => ?_) rfl
    rw [List.mem_singleton.mp ha]
    exact hn.trans_lt hsize
  | case2 b =>
    refine iff_of_true ((inBounds_cons_iff (by simp) hn hsize).mpr fun a ha => ?_) rfl
    rw [List.mem_singleton.mp ha]
    exact hn.trans_lt hsize
  | case3 b c hbc h l rest ih =>
    -- a complete escape: the text behind it decides
    rw [hbc.1, hbc.2, inBounds_hex_iff hn hsize, specChar_hex, Option.isSome_map]
    refine ih ?_
    simp only [List.length_cons] at hn
    omega
  | case4 b c rest hbc hrest =>
    -- an unfinished one: `buf += 4` steps over the terminator
    have hshort := length_lt_two hrest
    have hend : p + (rest.length + 2) = n := hn
    rw [hbc.1, hbc.2, specChar_short hshort, inBounds_short_iff hshort hn hsize]
    exact iff_of_false (by omega) (by simp)
  | case5 b c rest hbc ih =>
    have hplain : ¬ (b = bslash ∧ (c :: rest).head? = some lowerX) := by simpa using hbc
    rw [inBounds_cons_iff hplain hn hsize, specChar_cons hplain, Option.isSome_map]
    refine ih ?_
    simp only [List.length_cons] at hn ⊢
    omega

/-- One call of `spec_char_convers` on the text `t`: every access is in bounds
and the loop stops. -/
structure ConversSafe (t : List UInt8) : Prop where
  inBounds : ∀ a ∈ specCharAccesses 0 t, a.InBounds (t.length + 1) t.length
  stops : (specCharConvers t).isSome

theorem conversSafe_iff (t : List UInt8) : ConversSafe t ↔ (specCharConvers t).isSome :=
  ⟨fun h => h.stops, fun h => ⟨(accesses_inBounds_iff (Nat.zero_add _)).mpr h, h⟩⟩

/-! ## A text in a zeroed buffer -/

/-- `spec_char_convers` on a text with zeros behind it, where `buf += 4` finds a zero if it steps
over the NUL: the bytes in front of the NUL of `dst`. -/
def specCharZeroed : List UInt8 → List UInt8
  | [] => []
  | [b] => [b]
  | b :: c :: rest =>
    if b = bslash ∧ c = lowerX then
      match rest with
      | h :: l :: rest' => strtoul16 h l :: specCharZeroed rest'
      | [h] => [strtoul16 h 0]
      | [] => [strtoul16 0 0]
    else b :: specCharZeroed (c :: rest)

/-- Every access of a call on a text in a zeroed buffer of 256 bytes is inside the buffer or
inside `buf_temp`. -/
def ConversDefined (t : List UInt8) : Prop :=
  ∀ a ∈ specCharAccesses 0 t, a.InBounds 256 t.length

instance (t : List UInt8) : Decidable (ConversDefined t) := inferInstanceAs (Decidable (∀ a ∈ _, _))

theorem specCharZeroed_cons {b : UInt8} {t : List UInt8}
    (h : ¬ (b = bslash ∧ t.head? = some lowerX)) :
    specCharZeroed (b :: t) = b :: specCharZeroed t := by
  cases t with
  | nil => rfl
  | cons c t =>
    conv_lhs => rw [specCharZeroed.eq_def]
    exact if_neg (by simpa using h)

/-- The byte of an escape whose digits are the first two characters of a text, zeros behind the
end of the text included. -/
def hexAt (t : List UInt8) : UInt8 := strtoul16 (t.getD 0 0) (t.getD 1 0)

theorem specCharZeroed_escape (t : List UInt8) :
    specCharZeroed (bslash :: lowerX :: t) = hexAt t :: specCharZeroed (t.drop 2) := by
  rw [specCharZeroed.eq_def]
  match t with
  | [] => rfl
  | [_] => rfl
  | _ :: _ :: _ => rfl

/-- Where the loop stops at the terminator, the zeros make no difference. -/
theorem specCharZeroed_eq {t o : List UInt8} (h : specCharConvers t = some o) :
    specCharZeroed t = o := by
  induction t using specCharConvers.induct generalizing o with
  | case1 => exact Option.some.inj h
  | case2 b => exact Option.some.inj h
  | case3 b c hbc x l rest ih =>
    rw [hbc.1, hbc.2, specChar_hex] at h
    obtain ⟨o', ho', rfl⟩ := Option.map_eq_some_iff.mp h
    rw [hbc.1, hbc.2, specCharZeroed_escape]
    exact congrArg _ (ih ho')
  | case4 b c rest hbc hrest =>
    rw [hbc.1, hbc.2, specChar_short (length_lt_two hrest)] at h
    cases h
  | case5 b c rest hbc ih =>
    have hplain : ¬ (b = bslash ∧ (c :: rest).head? = some lowerX) := by simpa using hbc
    rw [specChar_cons hplain] at h
    obtain ⟨o', ho', rfl⟩ := Option.map_eq_some_iff.mp h
    rw [specCharZeroed_cons hplain, ih ho']

theorem specCharZeroed_length_le (t : List UInt8) : (specCharZeroed t).length ≤ t.length := by
  induction t using specCharConvers.induct with
  | case1 => exact Nat.le_refl _
  | case2 b => exact Nat.le_refl _
  | case3 b c hbc x l rest ih =>
    rw [hbc.1, hbc.2, specCharZeroed_escape]
    simp only [List.drop_succ_cons, List.drop_zero, List.length_cons]
    omega
  | case4 b c rest hbc hrest =>
    rw [hbc.1, hbc.2, specCharZeroed_escape, List.drop_eq_nil_of_le (length_lt_two hrest).le]
    simp [specCharZeroed]
  | case5 b c rest hbc ih =>
    rw [specCharZeroed_cons (by simpa using hbc)]
    exact Nat.succ_le_succ ih

/-- The one access that the zeros do not help: `buf_temp[4]`, if the text has less than four
characters and one escape. -/
def TempFits (t : List UInt8) : Prop := 4 ≤ t.length ∨ ¬ [bslash, lowerX] <:+: t

instance (t : List UInt8) : Decidable (TempFits t) := inferInstanceAs (Decidable (_ ∨ _))

theorem accesses_zeroed_iff {p n size : Nat} {t : List UInt8} (hn : p + t.length = n)
    (hsize : n + 2 < size) : (∀ a ∈ specCharAccesses p t, a.InBounds size n) ↔
      4 ≤ n ∨ ¬ [bslash, lowerX] <:+: t := by
  have hend : n < size := by omega
  induction t using specCharConvers.induct generalizing p with
  | case1 =>
    refine iff_of_true (fun a ha => ?_) (.inr (by simp))
    rw [List.mem_singleton.mp ha]
    exact hn.trans_lt hend
  | case2 b =>
    refine iff_of_true ((inBounds_cons_iff (by simp) hn hend).mpr fun a ha => ?_)
      (.inr fun h => absurd h.length_le (by simp))
    rw [List.mem_singleton.mp ha]
    exact hn.trans_lt hend
  | case3 b c hbc h l rest ih =>
    simp only [List.length_cons] at hn
    rw [hbc.1, hbc.2]
    refine (inBounds_hex_iff (by omega) hend).trans ((ih (p := p + 4) (by omega)).trans ?_)
    exact iff_of_true (.inl (by omega)) (.inl (by omega))
  | case4 b c rest hbc hrest =>
    have hlen : p + (rest.length + 2) = n := hn
    rw [hbc.1, hbc.2, inBounds_short_iff (length_lt_two hrest) hn hend]
    have hinfix : [bslash, lowerX] <:+: bslash :: lowerX :: rest := ⟨[], rest, rfl⟩
    constructor
    · exact fun h => .inl h.1
    · exact fun h => ⟨h.resolve_right (not_not.mpr hinfix), by omega⟩
  | case5 b c rest hbc ih =>
    have hplain : ¬ (b = bslash ∧ (c :: rest).head? = some lowerX) := by simpa using hbc
    rw [inBounds_cons_iff hplain hn hend, List.infix_cons_iff, pair_prefix_iff,
      or_iff_right hplain]
    refine ih ?_
    simp only [List.length_cons] at hn ⊢
    omega

/-- **Zeroed buffers.** A call on a text that leaves two bytes of the buffer behind its NUL is
defined exactly if `buf_temp` is long enough. -/
theorem conversDefined_iff {t : List UInt8} (h : t.length < 254) :
    ConversDefined t ↔ TempFits t :=
  accesses_zeroed_iff (Nat.zero_add _) (by omega)

/-! ## The condition on the SSID -/

/-- Reads an SSID from the left, `text b` being the characters its byte `b`
appears as: behind each backslash followed by `x` there are two more characters,
from one byte with a longer text or from two bytes. The scan goes on behind
them, except that a backslash text that was cut in half still counts. -/
def escapesFit (text : UInt8 → List UInt8) : List UInt8 → Bool
  | [] => true
  | b :: rest =>
    if b = bslash ∧ rest.head? = some lowerX then
      match rest with
      | _ :: c :: d :: rest' =>
        if 1 < (text c).length ∨ (text d).tail = [bslash] then escapesFit text (d :: rest')
        else escapesFit text rest'
      | [_, c] => 1 < (text c).length
      | _ => false
    else escapesFit text rest

/-- The texts a byte can have in front of `spec_char_convers`. -/
inductive TextView (b : UInt8) : List UInt8 → Prop
  | self : TextView b [b]
  | escape (c : UInt8) : b ≠ lowerX → c ≠ lowerX → (c = bslash ↔ b = bslash) →
      TextView b [bslash, c]
  | hex (h l : UInt8) : b ≠ lowerX → b ≠ bslash → h ≠ bslash → l ≠ bslash →
      TextView b [bslash, lowerX, h, l]

theorem encByte_textView (b : UInt8) : TextView b (encByte b) := by
  have hv := encByte_view b
  generalize encByte b = e at hv
  cases hv with
  | quoted hb =>
    have hbx : b ≠ lowerX := by
      rintro rfl
      revert hb
      decide
    exact .escape b hbx hbx Iff.rfl
  | letter c hb hc =>
    obtain ⟨h1, -, h2, -⟩ := letter_ne c hc
    refine .escape c ?_ h2 (iff_of_false h1 ?_)
    · rintro rfl
      cases hb
    · rintro rfl
      cases hb
  | plain => exact .self
  | hex h l hb _ _ hh hl =>
    refine .hex h l ?_ ?_ (hexValue_ne_bslash hh) (hexValue_ne_bslash hl)
    · rintro rfl
      cases hb
    · rintro rfl
      cases hb

/-- Characters that are no backslash are copied and cannot run out. -/
theorem isSome_append {d : List UInt8} (hd : bslash ∉ d) (t : List UInt8) :
    (specCharConvers (d ++ t)).isSome = (specCharConvers t).isSome := by
  induction d with
  | nil => rfl
  | cons b d ih =>
    rw [List.mem_cons, not_or] at hd
    rw [List.cons_append, specChar_cons fun hc => hd.1 hc.1.symm, Option.isSome_map, ih hd.2]

section

variable {text : UInt8 → List UInt8} (htext : ∀ b, TextView b (text b))

include htext

theorem text_head (b : UInt8) : ∃ c r, text b = c :: r ∧ (c = lowerX ↔ b = lowerX) := by
  have hv := htext b
  have hbx : ¬ bslash = lowerX := by decide
  generalize text b = e at hv
  cases hv with
  | self => exact ⟨b, [], rfl, Iff.rfl⟩
  | escape c hb => exact ⟨bslash, [c], rfl, iff_of_false hbx hb⟩
  | hex h l hb => exact ⟨bslash, [lowerX, h, l], rfl, iff_of_false hbx hb⟩

/-- The text of a backslash copies down to one backslash. -/
theorem isSome_bslash (t : List UInt8) :
    (specCharConvers (text bslash ++ t)).isSome = (specCharConvers (bslash :: t)).isSome := by
  have hv := htext bslash
  generalize text bslash = e at hv
  cases hv with
  | self => rfl
  | escape c hb hc hcb =>
    rw [hcb.mpr rfl]
    show (specCharConvers (bslash :: bslash :: t)).isSome = _
    rw [specChar_cons (by simpa using hb), Option.isSome_map]
  | hex h l hb hb' => exact absurd rfl hb'

/-- A byte that starts no hex escape cannot make the expansion run out. -/
theorem isSome_text_append {b : UInt8} {s : List UInt8}
    (h : ¬ (b = bslash ∧ s.head? = some lowerX)) :
    (specCharConvers (text b ++ s.flatMap text)).isSome
      = (specCharConvers (s.flatMap text)).isSome := by
  have hhead := head_flatMap (text_head htext) s
  have hself : (specCharConvers (b :: s.flatMap text)).isSome
      = (specCharConvers (s.flatMap text)).isSome := by
    rw [specChar_cons (by rwa [hhead]), Option.isSome_map]
  by_cases hb : b = bslash
  · subst hb
    rw [isSome_bslash htext, hself]
  · have hv := htext b
    generalize text b = e at hv
    cases hv with
    | self => exact hself
    | escape c hbx hc hcb =>
      show (specCharConvers (bslash :: c :: s.flatMap text)).isSome = _
      rw [specChar_cons (by simpa using hc), Option.isSome_map,
        specChar_cons fun hcc => hb (hcb.mp hcc.1), Option.isSome_map]
    | hex a l =>
      show (specCharConvers (bslash :: lowerX :: a :: l :: s.flatMap text)).isSome = _
      rw [specChar_hex, Option.isSome_map]

theorem isSome_hexStart (t : List UInt8) :
    (specCharConvers (text bslash ++ (text lowerX ++ t))).isSome
      = (specCharConvers (bslash :: lowerX :: t)).isSome := by
  rw [isSome_bslash htext]
  have hv := htext lowerX
  generalize text lowerX = e at hv
  cases hv with
  | self => rfl
  | escape c hb => exact absurd rfl hb
  | hex h l hb => exact absurd rfl hb

/-- A byte with a longer text feeds the hex escape alone. -/
theorem isSome_hex_wide {c : UInt8} (hc : 1 < (text c).length) (t : List UInt8) :
    (specCharConvers (bslash :: lowerX :: (text c ++ t))).isSome
      = (specCharConvers t).isSome := by
  have hv := htext c
  generalize text c = e at hv hc
  cases hv with
  | self => exact absurd hc (by simp)
  | escape c' =>
    show (specCharConvers (bslash :: lowerX :: bslash :: c' :: t)).isSome = _
    rw [specChar_hex, Option.isSome_map]
  | hex h l _ _ hh hl =>
    show (specCharConvers (bslash :: lowerX :: bslash :: lowerX :: ([h, l] ++ t))).isSome = _
    rw [specChar_hex, Option.isSome_map, isSome_append (by simp [hh.symm, hl.symm])]

theorem text_narrow {c : UInt8} (hc : ¬ 1 < (text c).length) : text c = [c] := by
  have hv := htext c
  generalize text c = e at hv hc
  cases hv with
  | self => rfl
  | escape c' => exact absurd (by simp) hc
  | hex h l => exact absurd (by simp) hc

/-- Otherwise it takes the first character of the next byte's text as well. -/
theorem isSome_hex_narrow {c d : UInt8} (hc : ¬ 1 < (text c).length) (t : List UInt8) :
    (specCharConvers (bslash :: lowerX :: (text c ++ (text d ++ t)))).isSome
      = (specCharConvers ((text d).tail ++ t)).isSome := by
  obtain ⟨a, r, hd, -⟩ := text_head htext d
  rw [text_narrow htext hc, hd]
  show (specCharConvers (bslash :: lowerX :: c :: a :: (r ++ t))).isSome = _
  rw [specChar_hex, Option.isSome_map]
  rfl

theorem text_tail_bslash {d : UInt8} (hd : (text d).tail = [bslash]) : d = bslash := by
  have hv := htext d
  generalize text d = e at hv hd
  cases hv with
  | self => cases hd
  | escape c _ _ hcb => exact hcb.mp (List.cons.inj hd).1
  | hex h l => cases hd

theorem text_tail_plain {d : UInt8} (hd : (text d).tail ≠ [bslash]) : bslash ∉ (text d).tail := by
  have hv := htext d
  have hbx : ¬ bslash = lowerX := by decide
  generalize text d = e at hv hd
  cases hv with
  | self => simp
  | escape c => simpa [eq_comm] using hd
  | hex h l _ _ hh hl => simp [hbx, hh.symm, hl.symm]

/-- The text of an SSID is expanded to its end exactly when its escapes fit. -/
theorem isSome_flatMap_iff (s : List UInt8) :
    (specCharConvers (s.flatMap text)).isSome ↔ escapesFit text s = true := by
  induction s using escapesFit.induct text with
  | case1 => simp [escapesFit, specCharConvers]
  | case2 b x c d rest hwide hbx ih =>
    obtain ⟨rfl, hx⟩ := hbx
    obtain rfl := Option.some.inj hx
    rw [escapesFit, if_pos ⟨rfl, rfl⟩, if_pos hwide, ← ih]
    simp only [List.flatMap_cons]
    rw [isSome_hexStart htext]
    by_cases hc : 1 < (text c).length
    · rw [isSome_hex_wide htext hc]
    · -- the second digit is the first half of a doubled backslash, the other half stays
      have hd := hwide.resolve_left hc
      rw [isSome_hex_narrow htext hc, hd, text_tail_bslash htext hd, isSome_bslash htext]
      rfl
  | case3 b x c d rest hnarrow hbx ih =>
    obtain ⟨rfl, hx⟩ := hbx
    obtain rfl := Option.some.inj hx
    obtain ⟨hc, hd⟩ := not_or.mp hnarrow
    rw [escapesFit, if_pos ⟨rfl, rfl⟩, if_neg hnarrow, ← ih]
    simp only [List.flatMap_cons]
    rw [isSome_hexStart htext, isSome_hex_narrow htext hc,
      isSome_append (text_tail_plain htext hd)]
  | case4 b x c hbx =>
    obtain ⟨rfl, hx⟩ := hbx
    obtain rfl := Option.some.inj hx
    rw [escapesFit, if_pos ⟨rfl, rfl⟩, decide_eq_true_iff]
    simp only [List.flatMap_cons]
    rw [isSome_hexStart htext]
    by_cases hc : 1 < (text c).length
    · rw [isSome_hex_wide htext hc]
      simpa [specCharConvers] using hc
    · rw [text_narrow htext hc]
      simp [specCharConvers]
  | case5 b rest hbx h3 h2 =>
    obtain ⟨rfl, hx⟩ := hbx
    obtain ⟨r, rfl⟩ := List.head?_eq_some_iff.mp hx
    cases r with
    | nil =>
      simp only [List.flatMap_cons]
      rw [isSome_hexStart htext]
      simp [escapesFit, specCharConvers]
    | cons c r =>
      cases r with
      | nil => exact absurd rfl (h2 lowerX c)
      | cons d r => exact absurd rfl (h3 lowerX c d r)
  | case6 b rest hbx ih =>
    rw [escapesFit.eq_def]
    show _ ↔ (if b = bslash ∧ rest.head? = some lowerX then _ else escapesFit text rest) = true
    rw [if_neg hbx, ← ih, List.flatMap_cons, isSome_text_append htext hbx]

end

/-- On the characters of a text itself. -/
theorem conversSafe_iff_escapesFit (t : List UInt8) :
    ConversSafe t ↔ escapesFit (fun b => [b]) t = true := by
  have hview : ∀ b : UInt8, TextView b [b] := fun _ => .self
  have h := isSome_flatMap_iff hview t
  rwa [List.flatMap_singleton', ← conversSafe_iff] at h

/-- On the SSID that a text shows. -/
theorem conversSafe_printfEncode_iff (s : List UInt8) :
    ConversSafe (printfEncode s) ↔ escapesFit encByte s = true :=
  (conversSafe_iff _).trans (isSome_flatMap_iff encByte_textView s)

end ConnectApp.Wifi
