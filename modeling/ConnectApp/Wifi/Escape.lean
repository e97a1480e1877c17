import ConnectApp.Lib.CString

/-!
# SSID text: `printf_encode` and the two unescapers (Rk_wifi.c:222-266)

`wpa_cli` prints an SSID through wpa_supplicant's `printf_encode`. The module
undoes that in two hand-written passes, composed in both orders:

- `savedName`: `spec_char_convers` after `remove_escape_character`
  (`get_ssid_from_list_network`, Rk_wifi.c:470-518);
- `statusName`: `remove_escape_character` after `spec_char_convers`
  (status, scan and WRONG_KEY-event paths).

Neither pass knows the letter escapes `\e`, `\n`, `\r`, `\t`, and
`spec_char_convers` takes an escaped backslash followed by `x` for a hex escape.
`names_eq_iff` says that these are the only SSIDs the pipelines get wrong;
`convers_safe_iff` says for which SSIDs `spec_char_convers` stays inside its text.
-/

namespace ConnectApp.Wifi

open CString

abbrev bslash : UInt8 := 92
abbrev quote : UInt8 := 34
abbrev lowerX : UInt8 := 120

/-- `remove_escape_character` (Rk_wifi.c:222-241). -/
def removeEscapeCharacter : List UInt8 → List UInt8
  | [] => []
  | [b] => [b]
  | b :: c :: rest =>
    if b = bslash ∧ (c = bslash ∨ c = quote) then c :: removeEscapeCharacter rest
    else b :: removeEscapeCharacter (c :: rest)

/-- The value of a hexadecimal digit, as `strtoul` reads it. -/
def hexValue (c : UInt8) : Option UInt8 :=
  if 48 ≤ c ∧ c ≤ 57 then some (c - 48)
  else if 97 ≤ c ∧ c ≤ 102 then some (c - 87)
  else if 65 ≤ c ∧ c ≤ 70 then some (c - 55)
  else none

/-- `strtoul(buf_temp, NULL, 16)` on the text `0x` `h` `l`, stored in a `char`. -/
def strtoul16 (h l : UInt8) : UInt8 :=
  match hexValue h, hexValue l with
  | some a, some b => 16 * a + b
  | some a, none => a
  | none, _ => 0

/-- `spec_char_convers` (Rk_wifi.c:243-266): the bytes stored in `dst` before its
final NUL. `none` when `buf += 4` jumps over the terminator of `buf`. -/
def specCharConvers : List UInt8 → Option (List UInt8)
  | [] => some []
  | [b] => some [b]
  | b :: c :: rest =>
    if b = bslash ∧ c = lowerX then
      match rest with
      | h :: l :: rest' => (specCharConvers rest').map (strtoul16 h l :: ·)
      | _ => none
    else (specCharConvers (c :: rest)).map (b :: ·)

/-! ## wpa_supplicant's `printf_encode` -/

/-- The four control bytes `printf_encode` writes as a letter escape. -/
def letterEscaped (b : UInt8) : Bool := b = 0x1b || b = 0x0a || b = 0x0d || b = 0x09

/-- The digit of a half byte. -/
def hexDigit (d : UInt8) : UInt8 := if d < 10 then 48 + d else 87 + d

/-- One byte under `printf_encode`. -/
def encByte (b : UInt8) : List UInt8 :=
  if b = quote then [bslash, quote]
  else if b = bslash then [bslash, bslash]
  else if b = 0x1b then [bslash, 101]
  else if b = 0x0a then [bslash, 110]
  else if b = 0x0d then [bslash, 114]
  else if b = 0x09 then [bslash, 116]
  else if 32 ≤ b ∧ b ≤ 126 then [b]
  else [bslash, lowerX, hexDigit (b / 16), hexDigit (b % 16)]

/-- `printf_encode` of wpa_supplicant. -/
def printfEncode (s : List UInt8) : List UInt8 := s.flatMap encByte

/-- The saved-list pipeline: unescape, then expand the hex escapes. -/
def savedName (t : List UInt8) : Option (List UInt8) :=
  (specCharConvers (removeEscapeCharacter t)).map cstr

/-- The status, scan and event pipeline: expand the hex escapes, then unescape. -/
def statusName (t : List UInt8) : Option (List UInt8) :=
  (specCharConvers t).map fun dst => removeEscapeCharacter (cstr dst)

/-! ## Each pass on a cons cell -/

theorem removeEscape_cons {b : UInt8} (h : b ≠ bslash) (t : List UInt8) :
    removeEscapeCharacter (b :: t) = b :: removeEscapeCharacter t := by
  cases t with
  | nil => rfl
  | cons c t => rw [removeEscapeCharacter, if_neg fun hc => h hc.1]

theorem removeEscape_bslash {c : UInt8} (h1 : c ≠ bslash) (h2 : c ≠ quote)
    (t : List UInt8) :
    removeEscapeCharacter (bslash :: c :: t) = bslash :: c :: removeEscapeCharacter t := by
  rw [removeEscapeCharacter, if_neg (by simp [h1, h2]), removeEscape_cons h1]

theorem removeEscape_pair {c : UInt8} (h : c = quote ∨ c = bslash) (t : List UInt8) :
    removeEscapeCharacter (bslash :: c :: t) = c :: removeEscapeCharacter t := by
  rw [removeEscapeCharacter, if_pos ⟨rfl, h.symm⟩]

theorem specChar_cons {b : UInt8} {t : List UInt8}
    (h : ¬ (b = bslash ∧ t.head? = some lowerX)) :
    specCharConvers (b :: t) = (specCharConvers t).map (b :: ·) := by
  cases t with
  | nil => rfl
  | cons c t =>
    have hbc : ¬ (b = bslash ∧ c = lowerX) := fun hc => h ⟨hc.1, by rw [hc.2]; rfl⟩
    conv_lhs => rw [specCharConvers.eq_def]
    exact if_neg hbc

theorem specChar_hex (h l : UInt8) (t : List UInt8) :
    specCharConvers (bslash :: lowerX :: h :: l :: t)
      = (specCharConvers t).map (strtoul16 h l :: ·) := by
  rw [specCharConvers.eq_def]
  exact if_pos ⟨rfl, rfl⟩

/-- What the last branch of a match on two more characters says. -/
theorem length_lt_two {rest : List UInt8} (h : ∀ a b r, rest = a :: b :: r → False) :
    rest.length < 2 := by
  match rest with
  | [] => simp
  | [_] => simp
  | a :: b :: r => exact absurd rfl (h a b r)

theorem specChar_short {rest : List UInt8} (h : rest.length < 2) :
    specCharConvers (bslash :: lowerX :: rest) = none := by
  match rest, h with
  | [], _ => rfl
  | [_], _ => rfl

/-- A text with something behind it that cannot be taken for the rest of an escape. -/
theorem removeEscape_append (x : List UInt8) {r : List UInt8}
    (hr : ∀ b ∈ r.head?, b ≠ bslash ∧ b ≠ quote) :
    removeEscapeCharacter (x ++ r) = removeEscapeCharacter x ++ removeEscapeCharacter r := by
  induction x using removeEscapeCharacter.induct with
  | case1 => rfl
  | case2 b =>
    cases r with
    | nil => rfl
    | cons c r =>
      obtain ⟨h1, h2⟩ := hr c rfl
      show removeEscapeCharacter (b :: c :: r) = b :: removeEscapeCharacter (c :: r)
      rw [removeEscapeCharacter, if_neg (by simp [h1, h2])]
  | case3 b c rest hbc ih =>
    show removeEscapeCharacter (b :: c :: (rest ++ r)) = _
    rw [removeEscapeCharacter, removeEscapeCharacter, if_pos hbc, if_pos hbc, ih]
    rfl
  | case4 b c rest hbc ih =>
    show removeEscapeCharacter (b :: c :: (rest ++ r)) = _
    rw [removeEscapeCharacter, removeEscapeCharacter, if_neg hbc, if_neg hbc]
    exact congrArg (b :: ·) ih

/-! ## The shapes of encoded bytes -/

/-- The bytes `printf_encode` passes through: printable ASCII. -/
def printable (b : UInt8) : Bool := 32 ≤ b && b ≤ 126

/-- The shapes a byte can take under `printf_encode`. -/
inductive EncView (b : UInt8) : List UInt8 → Prop
  | quoted : b = quote ∨ b = bslash → EncView b [bslash, b]
  | letter (c : UInt8) : letterEscaped b = true → c ∈ [101, 110, 114, 116] →
      EncView b [bslash, c]
  | plain : printable b = true → b ≠ quote → b ≠ bslash → EncView b [b]
  | hex (h l : UInt8) : printable b = false → letterEscaped b = false →
      strtoul16 h l = b → (hexValue h).isSome → (hexValue l).isSome →
      EncView b [bslash, lowerX, h, l]

theorem letter_ne : ∀ c ∈ ([101, 110, 114, 116] : List UInt8),
    c ≠ bslash ∧ c ≠ quote ∧ c ≠ lowerX ∧ printable c = true := by
  intro c hc
  simp only [List.mem_cons, List.not_mem_nil, or_false] at hc
  rcases hc with rfl | rfl | rfl | rfl <;> exact ⟨by decide, by decide, by decide, rfl⟩

/-- The two digits of a byte are read back as the byte. -/
theorem hexDigits (b : UInt8) :
    strtoul16 (hexDigit (b / 16)) (hexDigit (b % 16)) = b ∧
      (hexValue (hexDigit (b / 16))).isSome ∧ (hexValue (hexDigit (b % 16))).isSome := by
  revert b
  decide +kernel

theorem hexValue_isSome : ∀ c : UInt8, (hexValue c).isSome →
    printable c = true ∧ c ≠ quote ∧ c ≠ bslash := by
  decide +kernel

theorem not_printable_of_letterEscaped {b : UInt8} (h : letterEscaped b = true) :
    printable b = false := by
  simp only [letterEscaped, Bool.or_eq_true, decide_eq_true_eq] at h
  rcases h with ((rfl | rfl) | rfl) | rfl <;> rfl

theorem not_letterEscaped {b : UInt8} (h : printable b = true) : letterEscaped b = false := by
  by_contra hl
  rw [Bool.not_eq_false] at hl
  rw [not_printable_of_letterEscaped hl] at h
  cases h

theorem encByte_view (b : UInt8) : EncView b (encByte b) := by
  obtain ⟨hdigits, hhigh, hlow⟩ := hexDigits b
  unfold encByte
  split_ifs with h1 h2 h3 h4 h5 h6 h7
  · subst h1; exact .quoted (.inl rfl)
  · subst h2; exact .quoted (.inr rfl)
  · exact .letter _ (by simp [letterEscaped, h3]) (by simp)
  · exact .letter _ (by simp [letterEscaped, h4]) (by simp)
  · exact .letter _ (by simp [letterEscaped, h5]) (by simp)
  · exact .letter _ (by simp [letterEscaped, h6]) (by simp)
  · exact .plain (by simpa [printable] using h7) h1 h2
  · refine .hex _ _ ?_ ?_ hdigits hhigh hlow
    · simpa [printable] using h7
    · simp [letterEscaped, h3, h4, h5, h6]

theorem encByte_head (b : UInt8) : ∃ c r, encByte b = c :: r ∧ (c = lowerX ↔ b = lowerX) := by
  have hv := encByte_view b
  have hbx : ¬ bslash = lowerX := by decide
  generalize encByte b = e at hv
  cases hv with
  | quoted hb =>
    refine ⟨bslash, [b], rfl, iff_of_false hbx ?_⟩
    rintro rfl
    revert hb
    decide
  | letter c hb =>
    refine ⟨bslash, [c], rfl, iff_of_false hbx ?_⟩
    rintro rfl
    cases hb
  | plain => exact ⟨b, [], rfl, Iff.rfl⟩
  | hex h l hb =>
    refine ⟨bslash, [lowerX, h, l], rfl, iff_of_false hbx ?_⟩
    rintro rfl
    cases hb

/-- What `remove_escape_character` leaves of one encoded byte. -/
def unescapedByte (b : UInt8) : List UInt8 :=
  if b = quote ∨ b = bslash then [b] else encByte b

theorem hexValue_ne_bslash {h : UInt8} (hh : (hexValue h).isSome) : h ≠ bslash := by
  rintro rfl
  cases hh

theorem removeEscape_encByte (b : UInt8) (t : List UInt8) :
    removeEscapeCharacter (encByte b ++ t) = unescapedByte b ++ removeEscapeCharacter t := by
  have hv := encByte_view b
  unfold unescapedByte
  generalize encByte b = e at hv ⊢
  cases hv with
  | quoted hb =>
    rw [if_pos hb]
    exact removeEscape_pair hb t
  | letter c hb hc =>
    have hne : ¬ (b = quote ∨ b = bslash) := by
      rintro (rfl | rfl) <;> cases hb
    obtain ⟨h1, h2, -⟩ := letter_ne c hc
    rw [if_neg hne]
    exact removeEscape_bslash h1 h2 t
  | plain hb hq hs =>
    rw [if_neg (by simp [hq, hs])]
    exact removeEscape_cons hs t
  | hex h l hb hl hv hh hl' =>
    have hne : ¬ (b = quote ∨ b = bslash) := by
      rintro (rfl | rfl) <;> cases hb
    rw [if_neg hne]
    show removeEscapeCharacter (bslash :: lowerX :: h :: l :: t) = _
    rw [removeEscape_bslash (by decide) (by decide),
      removeEscape_cons (hexValue_ne_bslash hh), removeEscape_cons (hexValue_ne_bslash hl')]
    rfl

theorem removeEscape_printfEncode (s : List UInt8) :
    removeEscapeCharacter (printfEncode s) = s.flatMap unescapedByte := by
  induction s with
  | nil => rfl
  | cons b s ih =>
    show removeEscapeCharacter (encByte b ++ printfEncode s) = _
    rw [removeEscape_encByte, ih]
    rfl

/-! ## Counting: what the hex expansion can produce -/

/-- Weight of a byte string: a printable byte costs one text byte, any other
byte can only come out of a four-byte hex escape. -/
def weight (o : List UInt8) : Nat := o.length + 3 * o.countP (fun b => !printable b)

theorem weight_cons_le (b : UInt8) (o : List UInt8) : weight (b :: o) ≤ weight o + 4 := by
  unfold weight
  rw [List.countP_cons, List.length_cons]
  split <;> omega

theorem weight_cons_printable {b : UInt8} (h : printable b = true) (o : List UInt8) :
    weight (b :: o) = weight o + 1 := by
  unfold weight
  rw [List.countP_cons_of_neg (by simp [h]), List.length_cons]
  omega

theorem weight_cstr_le (o : List UInt8) : weight (cstr o) ≤ weight o := by
  have h1 := (cstr_sublist o).length_le
  have h2 := (cstr_sublist o).countP_le (p := fun b => !printable b)
  unfold weight
  omega

/-- Printable text never expands to more than its own weight. -/
theorem weight_specChar_le {t o : List UInt8} (ht : ∀ b ∈ t, printable b = true)
    (h : specCharConvers t = some o) : weight o ≤ t.length := by
  induction t using specCharConvers.induct generalizing o with
  | case1 =>
    cases h
    rfl
  | case2 b =>
    cases h
    rw [weight_cons_printable (ht b (by simp))]
    rfl
  | case3 b c hbc h₁ l rest ih =>
    rw [hbc.1, hbc.2, specChar_hex] at h
    obtain ⟨o', ho', rfl⟩ := Option.map_eq_some_iff.mp h
    have hle := ih (fun b hb => ht b (by simp [hb])) ho'
    have hw := weight_cons_le (strtoul16 h₁ l) o'
    simp only [List.length_cons]
    omega
  | case4 b c rest hbc hrest =>
    rw [hbc.1, hbc.2, specChar_short (length_lt_two hrest)] at h
    cases h
  | case5 b c rest hbc ih =>
    rw [specChar_cons (by simpa using hbc)] at h
    obtain ⟨o', ho', rfl⟩ := Option.map_eq_some_iff.mp h
    have hle := ih (fun b hb => ht b (List.mem_cons_of_mem _ hb)) ho'
    rw [weight_cons_printable (ht b (by simp))]
    simp only [List.length_cons] at hle ⊢
    omega

theorem encByte_printable (b : UInt8) : ∀ c ∈ encByte b, printable c = true := by
  have hv := encByte_view b
  generalize encByte b = e at hv
  cases hv with
  | quoted hb => rcases hb with rfl | rfl <;> simp [printable, bslash, quote]
  | letter c hb hc =>
    have := (letter_ne c hc).2.2.2
    simpa using ⟨by decide, this⟩
  | plain hb => simpa using hb
  | hex h l hb hl hv hh hl' =>
    simp only [List.mem_cons, List.not_mem_nil, or_false]
    rintro c (rfl | rfl | rfl | rfl)
    · rfl
    · rfl
    · exact (hexValue_isSome _ hh).1
    · exact (hexValue_isSome _ hl').1

theorem printfEncode_printable (s : List UInt8) : ∀ c ∈ printfEncode s, printable c = true := by
  intro c hc
  obtain ⟨b, -, hb⟩ := List.mem_flatMap.mp hc
  exact encByte_printable b c hb

theorem zero_not_mem_printfEncode (s : List UInt8) : 0 ∉ printfEncode s :=
  fun h0 => nomatch printfEncode_printable s 0 h0

theorem printfEncode_length_le (s : List UInt8) : (printfEncode s).length ≤ 4 * s.length := by
  induction s with
  | nil => exact Nat.zero_le _
  | cons b s ih =>
    have hbyte : (encByte b).length ≤ 4 := by
      have hv := encByte_view b
      generalize encByte b = e at hv
      cases hv <;> simp
    show (encByte b ++ printfEncode s).length ≤ _
    rw [List.length_append, List.length_cons]
    omega

theorem removeEscape_sublist (t : List UInt8) : (removeEscapeCharacter t).Sublist t := by
  induction t using removeEscapeCharacter.induct with
  | case1 => exact .slnil
  | case2 b => exact .refl _
  | case3 b c rest hbc ih =>
    rw [removeEscapeCharacter, if_pos hbc]
    exact (ih.cons_cons c).cons b
  | case4 b c rest hbc ih =>
    rw [removeEscapeCharacter, if_neg hbc]
    exact ih.cons_cons b

theorem specChar_length_le {t o : List UInt8} (h : specCharConvers t = some o) :
    o.length ≤ t.length := by
  induction t using specCharConvers.induct generalizing o with
  | case1 =>
    cases h
    exact Nat.le_refl _
  | case2 b =>
    cases h
    exact Nat.le_refl _
  | case3 b c hbc x l rest ih =>
    rw [hbc.1, hbc.2, specChar_hex] at h
    obtain ⟨o', ho', rfl⟩ := Option.map_eq_some_iff.mp h
    have := ih ho'
    simp only [List.length_cons]
    omega
  | case4 b c rest hbc hrest =>
    rw [hbc.1, hbc.2, specChar_short (length_lt_two hrest)] at h
    cases h
  | case5 b c rest hbc ih =>
    rw [specChar_cons (by simpa using hbc)] at h
    obtain ⟨o', ho', rfl⟩ := Option.map_eq_some_iff.mp h
    exact Nat.succ_le_succ (ih ho')

theorem unescapedByte_printable (b : UInt8) : ∀ c ∈ unescapedByte b, printable c = true := by
  unfold unescapedByte
  split_ifs with h
  · rcases h with rfl | rfl <;> simp [printable, bslash, quote]
  · exact encByte_printable b

theorem weight_unescapedByte (b : UInt8) (s : List UInt8) :
    (unescapedByte b).length + weight s ≤ weight (b :: s) := by
  unfold unescapedByte weight
  rw [List.countP_cons, List.length_cons]
  have hv := encByte_view b
  split_ifs with h hb hb
  · simp; omega
  · simp; omega
  · generalize encByte b = e at hv ⊢
    cases hv with
    | quoted hq => exact absurd hq h
    | letter => simp; omega
    | plain => simp; omega
    | hex => simp; omega
  · have hp : printable b = true := by simpa using hb
    generalize encByte b = e at hv ⊢
    cases hv with
    | quoted hq => exact absurd hq h
    | letter c hl =>
      rw [not_printable_of_letterEscaped hl] at hp
      cases hp
    | plain => simp; omega
    | hex h l hnp => rw [hnp] at hp; cases hp

theorem length_unescaped_le (s : List UInt8) : (s.flatMap unescapedByte).length ≤ weight s := by
  induction s with
  | nil => simp [weight]
  | cons b s ih =>
    rw [List.flatMap_cons, List.length_append]
    have := weight_unescapedByte b s
    omega

/-! ## The SSIDs that survive -/

/-- No letter-escaped control byte, and no backslash directly before an `x`. -/
def Clean (s : List UInt8) : Prop :=
  (∀ b ∈ s, letterEscaped b = false) ∧ ¬ [bslash, lowerX] <:+: s

instance (s : List UInt8) : Decidable (Clean s) := inferInstanceAs (Decidable (_ ∧ _))

theorem pair_prefix_iff (b : UInt8) (s : List UInt8) :
    [bslash, lowerX] <+: b :: s ↔ b = bslash ∧ s.head? = some lowerX := by
  cases s with
  | nil => simp [List.cons_prefix_cons]
  | cons c s => simp [List.cons_prefix_cons, eq_comm]

theorem clean_cons (b : UInt8) (s : List UInt8) :
    Clean (b :: s) ↔
      letterEscaped b = false ∧ ¬ (b = bslash ∧ s.head? = some lowerX) ∧ Clean s := by
  unfold Clean
  rw [List.infix_cons_iff, pair_prefix_iff]
  simp only [List.forall_mem_cons, not_or]
  tauto

theorem unescapedByte_head (b : UInt8) :
    ∃ c r, unescapedByte b = c :: r ∧ (c = lowerX ↔ b = lowerX) := by
  unfold unescapedByte
  split_ifs with hq
  · exact ⟨b, [], rfl, Iff.rfl⟩
  · exact encByte_head b

/-- A text starts with `x` exactly when its first byte is an `x`. -/
theorem head_flatMap {f : UInt8 → List UInt8}
    (hf : ∀ b, ∃ c r, f b = c :: r ∧ (c = lowerX ↔ b = lowerX)) (s : List UInt8) :
    (s.flatMap f).head? = some lowerX ↔ s.head? = some lowerX := by
  cases s with
  | nil => simp
  | cons b s =>
    obtain ⟨c, r, hb, hc⟩ := hf b
    rw [List.flatMap_cons, hb]
    simpa using hc

/-- A byte whose text is itself is copied by the hex expansion unless it starts
a hex escape. -/
theorem specChar_self {b : UInt8} {s o : List UInt8} (hb : unescapedByte b = [b])
    (hx : ¬ (b = bslash ∧ s.head? = some lowerX))
    (h : specCharConvers ((b :: s).flatMap unescapedByte) = some o) :
    ∃ o', specCharConvers (s.flatMap unescapedByte) = some o' ∧ o = b :: o' := by
  rw [List.flatMap_cons, hb, List.singleton_append,
    specChar_cons (by rwa [head_flatMap unescapedByte_head])] at h
  obtain ⟨o', ho', rfl⟩ := Option.map_eq_some_iff.mp h
  exact ⟨o', ho', rfl⟩

/-- A backslash before `x` starts a hex escape, whose byte would have to be a
backslash again; then the text is three bytes too short for `s`. -/
theorem backslashX_lost {s o : List UInt8}
    (h : specCharConvers ((bslash :: lowerX :: s).flatMap unescapedByte) = some o) :
    cstr o ≠ bslash :: lowerX :: s := by
  intro hs
  set t := s.flatMap unescapedByte with ht
  have htp : ∀ b ∈ t, printable b = true := by
    intro b hb
    obtain ⟨c, -, hc⟩ := List.mem_flatMap.mp hb
    exact unescapedByte_printable c b hc
  have hlen : (bslash :: lowerX :: t).length ≤ weight (bslash :: lowerX :: s) :=
    length_unescaped_le (bslash :: lowerX :: s)
  change specCharConvers (bslash :: lowerX :: t) = some o at h
  match t, h with
  | [], h => cases h
  | [_], h => cases h
  | a :: l :: r, h =>
    rw [specChar_hex] at h
    obtain ⟨o', ho', rfl⟩ := Option.map_eq_some_iff.mp h
    obtain ⟨hv, -⟩ := cstr_cons_eq hs
    have hw := weight_cstr_le (strtoul16 a l :: o')
    have hb : weight (bslash :: o') = weight o' + 1 :=
      weight_cons_printable (by decide) o'
    rw [hs, hv, hb] at hw
    have hr := weight_specChar_le (fun b hb => htp b (by simp [hb])) ho'
    simp only [List.length_cons] at hlen
    omega

theorem clean_of_saved {s o : List UInt8}
    (h : specCharConvers (s.flatMap unescapedByte) = some o) (hs : cstr o = s) : Clean s := by
  induction s generalizing o with
  | nil => exact ⟨by simp, by simp⟩
  | cons b s ih =>
    have hself : unescapedByte b = [b] → letterEscaped b = false → Clean (b :: s) := by
      intro hb hl
      by_cases hx : b = bslash ∧ s.head? = some lowerX
      · obtain ⟨rfl, hx⟩ := hx
        obtain ⟨s', rfl⟩ := List.head?_eq_some_iff.mp hx
        exact absurd hs (backslashX_lost h)
      · obtain ⟨o', ho', rfl⟩ := specChar_self hb hx h
        exact (clean_cons b s).mpr ⟨hl, hx, ih ho' (cstr_cons_eq hs).2⟩
    have hv := encByte_view b
    by_cases hq : b = quote ∨ b = bslash
    · refine hself (if_pos hq) ?_
      rcases hq with rfl | rfl <;> rfl
    · have hu : unescapedByte b = encByte b := if_neg hq
      rw [List.flatMap_cons, hu] at h
      generalize encByte b = e at hv hu h
      cases hv with
      | quoted hb => exact absurd hb hq
      | letter c hb hc =>
        -- the letter escape comes out as a backslash, which `b` is not
        have hcx : ¬ (bslash = bslash ∧ (c :: s.flatMap unescapedByte).head? = some lowerX) := by
          rintro ⟨-, hcx⟩
          exact (letter_ne c hc).2.2.1 (Option.some.inj hcx)
        rw [List.cons_append, List.singleton_append, specChar_cons hcx] at h
        obtain ⟨o', -, rfl⟩ := Option.map_eq_some_iff.mp h
        exact absurd (.inr (cstr_cons_eq hs).1.symm) hq
      | plain hp => exact hself hu (not_letterEscaped hp)
      | hex a l hp hl hv =>
        change specCharConvers (bslash :: lowerX :: a :: l :: s.flatMap unescapedByte) = _ at h
        rw [specChar_hex, hv] at h
        obtain ⟨o', ho', rfl⟩ := Option.map_eq_some_iff.mp h
        refine (clean_cons b s).mpr ⟨hl, ?_, ih ho' (cstr_cons_eq hs).2⟩
        rintro ⟨rfl, -⟩
        exact hq (.inr rfl)

theorem specChar_unescaped {s : List UInt8} (h : Clean s) :
    specCharConvers (s.flatMap unescapedByte) = some s := by
  induction s with
  | nil => rfl
  | cons b s ih =>
    obtain ⟨hl, hx, hs⟩ := (clean_cons b s).mp h
    have hself : unescapedByte b = [b] →
        specCharConvers ((b :: s).flatMap unescapedByte) = some (b :: s) := by
      intro hb
      rw [List.flatMap_cons, hb, List.singleton_append,
        specChar_cons (by rwa [head_flatMap unescapedByte_head]), ih hs]
      rfl
    have hv := encByte_view b
    by_cases hq : b = quote ∨ b = bslash
    · exact hself (if_pos hq)
    · have hu : unescapedByte b = encByte b := if_neg hq
      generalize encByte b = e at hv hu
      cases hv with
      | quoted hb => exact absurd hb hq
      | letter c hb => rw [hl] at hb; cases hb
      | plain hp => exact hself hu
      | hex a l hp hl hv =>
        rw [List.flatMap_cons, hu]
        show specCharConvers (bslash :: lowerX :: a :: l :: s.flatMap unescapedByte) = _
        rw [specChar_hex, hv, ih hs]
        rfl

/-! ## The other order -/

/-- What `spec_char_convers` leaves of one encoded byte of a clean SSID. -/
def expandedByte (b : UInt8) : List UInt8 :=
  if b = quote ∨ b = bslash then [bslash, b] else [b]

theorem specChar_printfEncode {s : List UInt8} (h : Clean s) :
    specCharConvers (printfEncode s) = some (s.flatMap expandedByte) := by
  induction s with
  | nil => rfl
  | cons b s ih =>
    obtain ⟨hl, hx, hs⟩ := (clean_cons b s).mp h
    have ih := ih hs
    have hhead : (printfEncode s).head? = some lowerX ↔ s.head? = some lowerX :=
      head_flatMap encByte_head s
    show specCharConvers (encByte b ++ printfEncode s) = _
    rw [List.flatMap_cons]
    have hv := encByte_view b
    unfold expandedByte
    generalize encByte b = e at hv
    cases hv with
    | quoted hb =>
      rw [if_pos hb]
      show specCharConvers (bslash :: b :: printfEncode s) = _
      have hbx : b ≠ lowerX := by rintro rfl; revert hb; decide
      rw [specChar_cons (by simp [hbx]), specChar_cons (by rwa [hhead]), ih]
      rfl
    | letter c hb => rw [hl] at hb; cases hb
    | plain hp hq hb =>
      rw [if_neg (by simp [hq, hb])]
      show specCharConvers (b :: printfEncode s) = _
      rw [specChar_cons (fun hc => hb hc.1), ih]
      rfl
    | hex a l hp hl hv =>
      have hq : ¬ (b = quote ∨ b = bslash) := by rintro (rfl | rfl) <;> cases hp
      rw [if_neg hq]
      show specCharConvers (bslash :: lowerX :: a :: l :: printfEncode s) = _
      rw [specChar_hex, hv, ih]
      rfl

theorem removeEscape_expanded (s : List UInt8) :
    removeEscapeCharacter (s.flatMap expandedByte) = s := by
  induction s with
  | nil => rfl
  | cons b s ih =>
    rw [List.flatMap_cons]
    unfold expandedByte
    split_ifs with hb
    · show removeEscapeCharacter (bslash :: b :: s.flatMap expandedByte) = _
      rw [removeEscape_pair hb, ih]
    · show removeEscapeCharacter (b :: s.flatMap expandedByte) = _
      rw [removeEscape_cons (fun h => hb (.inr h)), ih]

/-! ## Both pipelines -/

/-- An SSID as 802.11 has it: 1 to 32 bytes, none of them NUL here. -/
structure Ssid where
  bytes : List UInt8
  nonempty : 0 < bytes.length
  short : bytes.length ≤ 32
  noNul : 0 ∉ bytes

theorem savedName_iff (s : Ssid) :
    savedName (printfEncode s.bytes) = some s.bytes ↔ Clean s.bytes := by
  unfold savedName
  rw [removeEscape_printfEncode]
  constructor
  · intro h
    obtain ⟨o, ho, hs⟩ := Option.map_eq_some_iff.mp h
    exact clean_of_saved ho hs
  · intro h
    rw [specChar_unescaped h, Option.map_some, cstr_eq_self s.noNul]

theorem statusName_of_clean (s : Ssid) (h : Clean s.bytes) :
    statusName (printfEncode s.bytes) = some s.bytes := by
  have hnul : 0 ∉ s.bytes.flatMap expandedByte := by
    intro h0
    obtain ⟨b, hb, h0⟩ := List.mem_flatMap.mp h0
    unfold expandedByte at h0
    split_ifs at h0 with hq
    · rcases hq with rfl | rfl <;> revert h0 <;> decide
    · have hb0 : b = 0 := by simpa [eq_comm] using h0
      exact s.noNul (hb0 ▸ hb)
  unfold statusName
  rw [specChar_printfEncode h, Option.map_some, cstr_eq_self hnul, removeEscape_expanded]

/-- **Name recovery.** Both pipelines give back the SSID exactly when it is clean. -/
theorem names_eq_iff (s : Ssid) :
    (savedName (printfEncode s.bytes) = some s.bytes ∧
      statusName (printfEncode s.bytes) = some s.bytes) ↔ Clean s.bytes := by
  constructor
  · rintro ⟨h, -⟩
    exact (savedName_iff s).mp h
  · intro h
    exact ⟨(savedName_iff s).mpr h, statusName_of_clean s h⟩

/-- The one-byte SSID TAB comes back as the two characters `\\t`. -/
theorem tab_name_lost : ¬ ∀ s : Ssid,
    savedName (printfEncode s.bytes) = some s.bytes ∧
      statusName (printfEncode s.bytes) = some s.bytes := by
  intro h
  have htab := (h ⟨[0x09], by decide, by decide, by decide⟩).1
  revert htab
  decide

end ConnectApp.Wifi
