import ConnectApp.Encode.Utf8

/-!
# The grammar of `RK_encode_is_utf8` (RK_encode.c:6-43)

The language that the validator is for, stated without its loop: a text is a concatenation of
sequences, and a sequence is an ASCII byte or a lead byte with the tails it announces. The
loop's counter `bit1num` is read as a debt of tails, `Owes bit1num`.

* `owes_cons_succ`, `isText_cons` : the grammar one byte at a time
* `utf8Loop_iff` : the loop from `bit1num` accepts what `Owes bit1num` describes
* `isUtf8_iff_isText` : the validator accepts exactly the texts of the grammar
-/

namespace ConnectApp.Encode

/-! ## Bytes -/

/-- A byte of the form 10xxxxxx. -/
def IsTail (b : UInt8) : Prop := 0x80 ≤ b ∧ b < 0xC0

/-- The first `k` bits of the byte are ones and the next one is a zero. -/
def LeadsWith (k : Nat) (b : UInt8) : Prop := b.toNat / 2 ^ (7 - k) = 2 ^ (k + 1) - 2

/-! ## Sequences and texts -/

/-- One character: an ASCII byte, or a lead byte of `k` ones and its `k - 1` tails. -/
inductive IsSequence : List UInt8 → Prop
  | ascii {b : UInt8} (h : b < 0x80) : IsSequence [b]
  | wide {k : Nat} {lead : UInt8} {tails : List UInt8} (h2 : 2 ≤ k) (h6 : k ≤ 6)
      (hlead : LeadsWith k lead) (hlen : tails.length = k - 1) (htails : ∀ b ∈ tails, IsTail b) :
      IsSequence (lead :: tails)

/-- A concatenation of sequences. -/
def IsText (s : List UInt8) : Prop := ∃ seqs : List (List UInt8),
  s = seqs.flatten ∧ ∀ q ∈ seqs, IsSequence q

/-- A text behind `n` tails. -/
def Owes (n : Nat) (s : List UInt8) : Prop := ∃ tails rest : List UInt8,
  s = tails ++ rest ∧ tails.length = n ∧ (∀ b ∈ tails, IsTail b) ∧ IsText rest

theorem isText_nil : IsText [] := ⟨[], rfl, by simp⟩

theorem IsSequence.isText_append {q s : List UInt8} (hq : IsSequence q) (hs : IsText s) :
    IsText (q ++ s) := by
  obtain ⟨seqs, rfl, hseqs⟩ := hs
  exact ⟨q :: seqs, rfl, List.forall_mem_cons.mpr ⟨hq, hseqs⟩⟩

theorem owes_zero {s : List UInt8} : Owes 0 s ↔ IsText s := by
  constructor
  · rintro ⟨tails, rest, rfl, hlen, -, hrest⟩
    rw [List.length_eq_zero_iff.mp hlen]
    exact hrest
  · exact fun h => ⟨[], s, rfl, rfl, by simp, h⟩

theorem owes_nil {n : Nat} : Owes n [] ↔ n = 0 := by
  constructor
  · rintro ⟨tails, rest, h, rfl, -⟩
    rw [(List.append_eq_nil_iff.mp h.symm).1]
    rfl
  · rintro rfl
    exact owes_zero.mpr isText_nil

theorem owes_cons_succ {n : Nat} {b : UInt8} {s : List UInt8} :
    Owes (n + 1) (b :: s) ↔ IsTail b ∧ Owes n s := by
  constructor
  · rintro ⟨tails, rest, h, hlen, htails, hrest⟩
    cases tails with
    | nil => simp at hlen
    | cons c tails =>
      obtain ⟨rfl, rfl⟩ := List.cons.inj h
      obtain ⟨hb, htails⟩ := List.forall_mem_cons.mp htails
      exact ⟨hb, tails, rest, rfl, Nat.succ.inj hlen, htails, hrest⟩
  · rintro ⟨hb, tails, rest, rfl, hlen, htails, hrest⟩
    exact ⟨b :: tails, rest, rfl, congrArg Nat.succ hlen,
      List.forall_mem_cons.mpr ⟨hb, htails⟩, hrest⟩

/-- The first byte of a text is ASCII, or a lead byte behind which its tails are owed. -/
theorem isText_cons {b : UInt8} {s : List UInt8} :
    IsText (b :: s) ↔
      (b < 0x80 ∧ IsText s) ∨ ∃ k, 2 ≤ k ∧ k ≤ 6 ∧ LeadsWith k b ∧ Owes (k - 1) s := by
  constructor
  · rintro ⟨seqs, h, hseqs⟩
    cases seqs with
    | nil => simp at h
    | cons q seqs =>
      obtain ⟨hq, hrest⟩ := List.forall_mem_cons.mp hseqs
      rw [List.flatten_cons] at h
      cases hq with
      | ascii hb =>
        obtain ⟨rfl, rfl⟩ := List.cons.inj h
        exact .inl ⟨hb, seqs, rfl, hrest⟩
      | @wide k lead tails h2 h6 hlead hlen htails =>
        obtain ⟨rfl, rfl⟩ := List.cons.inj h
        exact .inr ⟨k, h2, h6, hlead, tails, seqs.flatten, rfl, hlen, htails, seqs, rfl, hrest⟩
  · rintro (⟨hb, hs⟩ | ⟨k, h2, h6, hlead, tails, rest, rfl, hlen, htails, hrest⟩)
    · exact (IsSequence.ascii hb).isText_append hs
    · exact (IsSequence.wide h2 h6 hlead hlen htails).isText_append hrest

/-! ## The masks of the loop -/

theorem forall_byte {p : UInt8 → Prop} (h : ∀ n < 256, p (UInt8.ofNat n)) (b : UInt8) : p b := by
  have := h b.toNat b.toNat_lt
  rwa [UInt8.ofNat_toNat] at this

set_option maxRecDepth 8000 in
theorem and_top_eq_zero_iff : ∀ b : UInt8, b &&& 0x80 = 0 ↔ b < 0x80 :=
  forall_byte (by decide)

set_option maxRecDepth 8000 in
theorem and_top_two_iff : ∀ b : UInt8, b &&& 0xc0 = 0x80 ↔ IsTail b :=
  forall_byte (by simp only [IsTail]; decide)

theorem le_six_of_leadLoop {temp : UInt8} {k : Nat} :
    ∀ {r : Nat}, leadLoop temp r = some k → k ≤ 6
  | 0, h => by simp [leadLoop] at h
  | r + 1, h => by
    rw [leadLoop] at h
    split at h
    · exact le_six_of_leadLoop h
    · have := Option.some.inj h
      omega

/-- The `while` loop counts the leading ones of a byte, and gives up above six. -/
theorem leadingOnes_eq_some_iff {b : UInt8} {k : Nat} :
    leadingOnes b = some k ↔ k ≤ 6 ∧ LeadsWith k b := by
  have hbyte : ∀ b : UInt8, ∀ k < 7,
      leadingOnes b = some k ↔ b.toNat / 2 ^ (7 - k) = 2 ^ (k + 1) - 2 :=
    forall_byte (by decide +kernel)
  constructor
  · intro h
    have hk := le_six_of_leadLoop h
    exact ⟨hk, (hbyte b k (by omega)).mp h⟩
  · rintro ⟨hk, h⟩
    exact (hbyte b k (by omega)).mpr h

/-- A lead byte of the grammar is no ASCII byte. -/
theorem LeadsWith.not_ascii {b : UInt8} {k : Nat} (h : LeadsWith k b) (h2 : 2 ≤ k) (h6 : k ≤ 6) :
    ¬ b < 0x80 := by
  rw [UInt8.lt_iff_toNat_lt]
  intro hb
  have h8 : b.toNat < 2 ^ 7 := hb
  rw [LeadsWith] at h
  interval_cases k <;> omega

/-! ## The loop -/

/-- A byte that is no ASCII, read with no tails outstanding. -/
theorem utf8Loop_cons_of_not_ascii {b : UInt8} (hb : ¬ b < 0x80) (s : List UInt8) :
    utf8Loop 0 (b :: s) = true ↔
      ∃ k, 2 ≤ k ∧ k ≤ 6 ∧ LeadsWith k b ∧ utf8Loop (k - 1) s = true := by
  have hmask : b &&& 0x80 ≠ 0 := fun h => hb ((and_top_eq_zero_iff b).mp h)
  rw [utf8Loop, if_neg fun hc => hmask hc.2, if_neg fun hc => hc.1 rfl, if_neg fun hc => hc.1 rfl]
  cases hones : leadingOnes b with
  | none =>
    refine ⟨fun h => by simp at h, ?_⟩
    rintro ⟨k, -, h6, hlead, -⟩
    rw [leadingOnes_eq_some_iff.mpr ⟨h6, hlead⟩] at hones
    simp at hones
  | some j =>
    obtain ⟨h6, hlead⟩ := leadingOnes_eq_some_iff.mp hones
    constructor
    · intro h
      by_cases hj : j < 2
      · simp [hj] at h
      · exact ⟨j, by omega, h6, hlead, by simpa [hj] using h⟩
    · rintro ⟨k, h2, h6', hlead', hrest⟩
      -- a byte has one number of leading ones, so `k` is what the loop found
      obtain rfl : j = k := by
        rw [leadingOnes_eq_some_iff.mpr ⟨h6', hlead'⟩] at hones
        exact (Option.some.inj hones).symm
      simpa [Nat.not_lt.mpr h2] using hrest

/-- A byte read while tails are outstanding. -/
theorem utf8Loop_succ_cons (n : Nat) (b : UInt8) (s : List UInt8) :
    utf8Loop (n + 1) (b :: s) = true ↔ IsTail b ∧ utf8Loop n s = true := by
  by_cases hb : b &&& 0xc0 = 0x80
  · rw [utf8Loop_tail hb]
    simp [(and_top_two_iff b).mp hb]
  · have hstop : utf8Loop (n + 1) (b :: s) = false := by
      rw [utf8Loop, if_neg fun hc => absurd hc.1 (Nat.succ_ne_zero n), if_neg fun hc => hb hc.2,
        if_pos ⟨Nat.succ_ne_zero n, hb⟩]
    rw [hstop]
    simp [mt (and_top_two_iff b).mpr hb]

/-- **The loop is the grammar.** From `bit1num` it accepts the texts behind `bit1num` tails. -/
theorem utf8Loop_iff (s : List UInt8) : ∀ bit1num : Nat,
    utf8Loop bit1num s = true ↔ Owes bit1num s := by
  induction s with
  | nil =>
    intro n
    rw [owes_nil]
    simp [utf8Loop]
  | cons b s ih =>
    intro n
    cases n with
    -- with tails outstanding any byte but a tail ends the loop
    | succ n => rw [utf8Loop_succ_cons, ih, owes_cons_succ]
    | zero =>
      rw [owes_zero, isText_cons]
      by_cases hb : b < 0x80
      · rw [utf8Loop_ascii ((and_top_eq_zero_iff b).mpr hb), ih, owes_zero]
        refine ⟨fun h => .inl ⟨hb, h⟩, ?_⟩
        rintro (⟨-, h⟩ | ⟨k, h2, h6, hlead, -⟩)
        · exact h
        · exact absurd hb (hlead.not_ascii h2 h6)
      · simp only [utf8Loop_cons_of_not_ascii hb, ih, hb, false_and, false_or]

/-- **The validator accepts exactly its grammar**, on texts without NUL bytes. -/
theorem isUtf8_iff_isText {s : List UInt8} (hnul : 0 ∉ s) :
    rkEncodeIsUtf8 s = true ↔ IsText s := by
  rw [← owes_zero, ← utf8Loop_iff]
  cases s with
  | nil => rfl
  | cons b s => rw [rkEncodeIsUtf8, if_neg (List.ne_of_not_mem_cons hnul).symm]

/-- A two-byte character behind an ASCII byte: `aé` is a text, and so accepted. -/
theorem isUtf8_iff_isText_wide :
    (0 : UInt8) ∉ [0x61, 0xC3, 0xA9] ∧
      (rkEncodeIsUtf8 [0x61, 0xC3, 0xA9] = true ↔ IsText [0x61, 0xC3, 0xA9]) :=
  ⟨by decide, isUtf8_iff_isText (by decide)⟩

end ConnectApp.Encode
