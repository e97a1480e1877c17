import ConnectApp.Encode.Utf8ToGbk

/-!
# `gbk_to_utf8` and its source (gbk_to_utf8.c:1516-1580)

The loop looks at one byte of `src`, and at the next one too if that byte starts a double-byte
character. It does not ask whether the next one is still part of the text: a text that stops in
the middle of a character has it paired with the NUL.

- `gbkToUtf8Loop_refines`: on a text in memory the loop is `gbkToUtf8Into` of the text, and the
  NUL is the last byte it reads
- `gbkToUtf8Into_chars`: what it writes is a list of characters of one to three bytes, at most one
  for each byte of the text
- `gbk_to_utf8_writes_utf8`: so the output is UTF-8, and no more than three times as long
-/

namespace ConnectApp.Encode

open CString Memory

/-- What a call did: the value it returned, what it wrote to `dst`, and the places of `src` that
it read. -/
structure GbkCall where
  ret : Nat
  stores : List (Store UInt8)
  reads : List Nat

/-- A round in front of the rest of the call: `unicode_to_utf8` copies the character `t` and its
NUL to `dst + j`. -/
def GbkCall.after (reads : List Nat) (j : Nat) (t : List UInt8) (c : GbkCall) : GbkCall :=
  ⟨c.ret, ⟨j, t ++ [0]⟩ :: c.stores, reads ++ c.reads⟩

section

variable (tbl : Fin 24080 → UInt16) (src : Nat → UInt8)

/-- The `for` loop with `left` bytes of the source from `i` on, so `len` is `i + left`. -/
def gbkToUtf8Loop : Nat → Nat → Nat → GbkCall
  | 0, _, j => ⟨j, [], []⟩
  | left + 1, i, j =>
    if src i < 0x80 then
      let t := unicodeToUtf8 (src i).toNat
      (gbkToUtf8Loop left (i + 1) (j + t.length)).after [i] j t
    else
      let t := unicodeToUtf8 (gbkToUnicode tbl (src i) (src (i + 1))).toNat
      match left with
      | 0 => .after [i, i + 1] j t ⟨j + t.length, [], []⟩ -- `i` is behind `len` now
      | left + 1 => (gbkToUtf8Loop left (i + 2) (j + t.length)).after [i, i + 1] j t

/-- `gbk_to_utf8(src, len, dst)`. -/
def gbkToUtf8Call (len : Nat) : GbkCall := gbkToUtf8Loop tbl src len 0 0

end

section

variable {tbl : Fin 24080 → UInt16} {src : Nat → UInt8} {i : Nat}

/-- A byte that is a character. -/
theorem gbkToUtf8Loop_low {b : UInt8} (hsrc : src i = b) (h : b < 0x80) (left j : Nat) :
    gbkToUtf8Loop tbl src (left + 1) i j =
      (gbkToUtf8Loop tbl src left (i + 1) (j + (unicodeToUtf8 b.toNat).length)).after [i] j
        (unicodeToUtf8 b.toNat) := by
  subst hsrc
  match left with
  | 0 | left + 1 => simp only [gbkToUtf8Loop, if_pos h]

theorem GbkCall.after_reads {bound : Nat} {reads : List Nat} {j : Nat} {t : List UInt8}
    {c : GbkCall} (hc : ∀ r ∈ c.reads, r ≤ bound) (hreads : ∀ r ∈ reads, r ≤ bound) :
    ∀ r ∈ (c.after reads j t).reads, r ≤ bound := by
  intro r hr
  rcases List.mem_append.mp hr with hr | hr
  · exact hreads r hr
  · exact hc r hr

/-- **The source.** The loop writes and returns what `gbkToUtf8Into` says, and the last byte it
reads is the NUL. -/
theorem gbkToUtf8Loop_refines {s : List UInt8} (hsrc : Shows src i (s ++ [0])) (j : Nat) :
    ((gbkToUtf8Loop tbl src s.length i j).ret, (gbkToUtf8Loop tbl src s.length i j).stores) =
        gbkToUtf8Into tbl s j ∧
      ∀ r ∈ (gbkToUtf8Loop tbl src s.length i j).reads, r ≤ i + s.length := by
  induction s using gbkToUtf8.induct generalizing i j with
  | case1 => exact ⟨rfl, by simp [gbkToUtf8Loop]⟩
  | case2 b hb =>
    obtain ⟨hbyte, -⟩ := shows_cons_iff.mp hsrc
    rw [List.length_singleton, gbkToUtf8Loop_low hbyte hb, gbkToUtf8Into, if_pos hb]
    exact ⟨rfl, GbkCall.after_reads (by simp [gbkToUtf8Loop]) (by simp)⟩
  | case3 b hb =>
    -- the text stops in the middle of a character, and the NUL is taken for the other half
    obtain ⟨hbyte, hnul⟩ := shows_cons_iff.mp hsrc
    obtain ⟨hnul, -⟩ := shows_cons_iff.mp hnul
    rw [List.length_singleton, gbkToUtf8Loop, if_neg (hbyte ▸ hb), gbkToUtf8Into, if_neg hb, hbyte,
      hnul]
    exact ⟨rfl, GbkCall.after_reads (by simp) (by simp)⟩
  | case4 b c rest hb ih =>
    obtain ⟨hbyte, hrest⟩ := shows_cons_iff.mp hsrc
    obtain ⟨heq, hreads⟩ := ih hrest (j + (unicodeToUtf8 b.toNat).length)
    have hlen : i + 1 + (c :: rest).length = i + (b :: c :: rest).length := by
      simp only [List.length_cons]
      omega
    rw [List.length_cons, gbkToUtf8Loop_low hbyte hb, gbkToUtf8Into, if_pos hb, putChar, ← heq]
    exact ⟨rfl, GbkCall.after_reads (hlen ▸ hreads) (by simp)⟩
  | case5 b c rest hb ih =>
    obtain ⟨hbyte, hrest⟩ := shows_cons_iff.mp hsrc
    obtain ⟨hbyte1, hrest⟩ := shows_cons_iff.mp hrest
    obtain ⟨heq, hreads⟩ := ih hrest (j + (unicodeToUtf8 (gbkToUnicode tbl b c).toNat).length)
    have hlen : i + 2 + rest.length = i + (b :: c :: rest).length := by
      simp only [List.length_cons]
      omega
    rw [List.length_cons, List.length_cons, gbkToUtf8Loop, if_neg (hbyte ▸ hb), gbkToUtf8Into,
      if_neg hb, putChar, hbyte, hbyte1, ← heq]
    refine ⟨rfl, GbkCall.after_reads (hlen ▸ hreads) fun r hr => ?_⟩
    simp only [List.mem_cons, List.not_mem_nil, or_false] at hr
    omega

end

/-! ## The characters written -/

/-- A code point of 16 bits other than 0 makes one to three bytes, none of them NUL. -/
theorem unicodeToUtf8_char {c : Nat} (h0 : c ≠ 0) (hc : c < 0x10000) :
    (unicodeToUtf8 c).length ≤ 3 ∧ 0 ∉ unicodeToUtf8 c := by
  -- the leading bits of a byte keep it from being 0, in ASCII the code point does
  have hascii : ∀ n, n < 0x80 → n ≠ 0 → UInt8.ofNat n ≠ 0 := by decide
  have hlead2 : ∀ n, n < 0x20 → UInt8.ofNat (0xC0 ||| n) ≠ 0 := by decide
  have hlead3 : ∀ n, n < 0x10 → UInt8.ofNat (0xE0 ||| n) ≠ 0 := by decide
  have htail : ∀ n, n < 0x40 → UInt8.ofNat (0x80 ||| n) ≠ 0 := by decide
  have hlow : c &&& 0x3F < 0x40 := Nat.and_lt_two_pow (n := 6) _ (by omega)
  have hmid : c >>> 6 &&& 0x3F < 0x40 := Nat.and_lt_two_pow (n := 6) _ (by omega)
  have hhigh2 : c >>> 6 &&& 0x1F < 0x20 := Nat.and_lt_two_pow (n := 5) _ (by omega)
  have hhigh3 : c >>> 12 &&& 0x0F < 0x10 := Nat.and_lt_two_pow (n := 4) _ (by omega)
  rw [unicodeToUtf8]
  split_ifs with h1 h2
  · rw [cstr_cons_of_ne (hascii c h1 h0)]
    exact ⟨by simp [cstr],
      List.not_mem_cons_of_ne_of_not_mem (hascii c h1 h0).symm List.not_mem_nil⟩
  · refine ⟨by simp, ?_⟩
    simp only [List.mem_cons, List.not_mem_nil, or_false, not_or]
    exact ⟨(hlead2 _ hhigh2).symm, (htail _ hlow).symm⟩
  · refine ⟨by simp, ?_⟩
    simp only [List.mem_cons, List.not_mem_nil, or_false, not_or]
    exact ⟨(hlead3 _ hhigh3).symm, (htail _ hmid).symm, (htail _ hlow).symm⟩

/-- A table without zeros gives no pair of bytes the code point 0. -/
theorem gbkToUnicode_ne_zero {tbl : Fin 24080 → UInt16} (htbl : ∀ k, tbl k ≠ 0) (ch cl : UInt8) :
    (gbkToUnicode tbl ch cl).toNat ≠ 0 := by
  have hne : gbkToUnicode tbl ch cl ≠ 0 := by
    rw [gbkToUnicode]
    split_ifs
    · exact htbl _
    · decide
  exact fun h => hne (UInt16.toNat_inj.mp h)

/-- **The output is a list of characters**, of three bytes at most and without a NUL; there are no
more of them than bytes in the text. -/
theorem gbkToUtf8Into_chars {tbl : Fin 24080 → UInt16} (htbl : ∀ k, tbl k ≠ 0) {s : List UInt8}
    (hs : 0 ∉ s) :
    ∃ ts : List (List UInt8), gbkToUtf8Into tbl s = ts.foldr putChar putEnd ∧
      gbkToUtf8 tbl s = ts.flatten ∧ ts.length ≤ s.length ∧ (s ≠ [] → ts ≠ []) ∧
      ∀ t ∈ ts, t.length ≤ 3 ∧ 0 ∉ t := by
  have hlow : ∀ b : UInt8, b ≠ 0 →
      (unicodeToUtf8 b.toNat).length ≤ 3 ∧ 0 ∉ unicodeToUtf8 b.toNat := by
    intro b hb
    have := b.toNat_lt
    exact unicodeToUtf8_char (fun h => hb (UInt8.toNat_inj.mp h)) (by omega)
  have hwide : ∀ b c : UInt8, (unicodeToUtf8 (gbkToUnicode tbl b c).toNat).length ≤ 3 ∧
      0 ∉ unicodeToUtf8 (gbkToUnicode tbl b c).toNat := fun b c =>
    unicodeToUtf8_char (gbkToUnicode_ne_zero htbl b c) (UInt16.toNat_lt _)
  induction s using gbkToUtf8.induct with
  | case1 => exact ⟨[], rfl, rfl, Nat.le_refl 0, by simp, by simp⟩
  | case2 b hb =>
    rw [gbkToUtf8Into, gbkToUtf8, if_pos hb, if_pos hb]
    exact ⟨[unicodeToUtf8 b.toNat], rfl, by simp, Nat.le_refl 1, by simp,
      List.forall_mem_singleton.mpr (hlow b (Ne.symm (List.ne_of_not_mem_cons hs)))⟩
  | case3 b hb =>
    rw [gbkToUtf8Into, gbkToUtf8, if_neg hb, if_neg hb]
    exact ⟨[unicodeToUtf8 (gbkToUnicode tbl b 0).toNat], rfl, by simp, Nat.le_refl 1, by simp,
      List.forall_mem_singleton.mpr (hwide b 0)⟩
  | case4 b c rest hb ih =>
    rw [List.mem_cons, not_or] at hs
    obtain ⟨ts, hinto, hout, hlen, -, hts⟩ := ih hs.2
    rw [gbkToUtf8Into, gbkToUtf8, if_pos hb, if_pos hb, hinto, hout]
    exact ⟨unicodeToUtf8 b.toNat :: ts, rfl, rfl, Nat.succ_le_succ hlen, by simp,
      List.forall_mem_cons.mpr ⟨hlow b (Ne.symm hs.1), hts⟩⟩
  | case5 b c rest hb ih =>
    rw [List.mem_cons, List.mem_cons, not_or, not_or] at hs
    obtain ⟨ts, hinto, hout, hlen, -, hts⟩ := ih hs.2.2
    rw [gbkToUtf8Into, gbkToUtf8, if_neg hb, if_neg hb, hinto, hout]
    exact ⟨unicodeToUtf8 (gbkToUnicode tbl b c).toNat :: ts, rfl, rfl,
      Nat.le_succ_of_le (Nat.succ_le_succ hlen), by simp,
      List.forall_mem_cons.mpr ⟨hwide b c, hts⟩⟩

theorem length_flatten_le {n : Nat} {ts : List (List UInt8)} (h : ∀ t ∈ ts, t.length ≤ n) :
    ts.flatten.length ≤ n * ts.length := by
  rw [List.length_flatten, Nat.mul_comm]
  refine (List.sum_le_card_nsmul _ n ?_).trans_eq (by simp)
  simpa using h

/-- Nothing is written behind the NUL of the last character. -/
theorem foldr_putChar_inside (ts : List (List UInt8)) (j : Nat) :
    ∀ st ∈ (ts.foldr putChar putEnd j).2, st.Inside j (j + ts.flatten.length + 1) := by
  induction ts generalizing j with
  | nil => simp [putEnd]
  | cons t ts ih =>
    have hlen : j + t.length + ts.flatten.length = j + (t :: ts).flatten.length := by
      rw [List.flatten_cons, List.length_append, Nat.add_assoc]
    refine List.forall_mem_cons.mpr ⟨.inr ⟨Nat.le_refl j, ?_⟩, fun st hst => ?_⟩
    · rw [List.length_append, ← hlen]
      simp only [List.length_singleton]
      omega
    · exact (ih (j + t.length) st hst).mono (Nat.le_add_right _ _) (by rw [hlen])

/-- That NUL is still there at the end. -/
theorem foldr_putChar_nul (ts : List (List UInt8)) (j : Nat) (m : Nat → UInt8)
    (h : ts ≠ [] ∨ m j = 0) : run (ts.foldr putChar putEnd j).2 m (j + ts.flatten.length) = 0 := by
  induction ts generalizing j m with
  | nil => exact h.resolve_left (fun hne => hne rfl)
  | cons t ts ih =>
    have hnul : (Store.mk j (t ++ [0])).apply m (j + t.length) = 0 :=
      (shows_append_iff.mp (shows_store ⟨j, t ++ [0]⟩ m)).2 0 Nat.one_pos
    rw [List.flatten_cons, List.length_append, ← Nat.add_assoc]
    exact ih (j + t.length) _ (.inr hnul)

/-- **The converter writes UTF-8.** On any text, also one that stops in the middle of a character,
it leaves a NUL-terminated text that `RK_encode_is_utf8` accepts, returns its length, writes three
bytes at most for each byte of the source, and reads no byte behind the source's NUL. An empty
source leaves `dst` as it was. -/
theorem gbk_to_utf8_writes_utf8 {tbl : Fin 24080 → UInt16} (htbl : ∀ k, tbl k ≠ 0)
    {s : List UInt8} (hs : 0 ∉ s) {src : Nat → UInt8} (hsrc : Shows src 0 (s ++ [0])) :
    ∃ out, rkEncodeIsUtf8 out = true ∧ 0 ∉ out ∧
      (gbkToUtf8Call tbl src s.length).ret = out.length ∧
      (∀ dst, Shows (run (gbkToUtf8Call tbl src s.length).stores dst) 0 out ∧
        (s ≠ [] → run (gbkToUtf8Call tbl src s.length).stores dst out.length = 0)) ∧
      (∀ st ∈ (gbkToUtf8Call tbl src s.length).stores, st.Inside 0 (out.length + 1)) ∧
      out.length ≤ 3 * s.length ∧
      ∀ r ∈ (gbkToUtf8Call tbl src s.length).reads, r ≤ s.length := by
  obtain ⟨hcall, hreads⟩ := @gbkToUtf8Loop_refines tbl src 0 s hsrc 0
  obtain ⟨hret, hstores⟩ := Prod.mk_inj.mp hcall
  obtain ⟨hlen, happ⟩ := gbkToUtf8Into_appends tbl s 0
  obtain ⟨ts, hinto, hout, hcount, hne, hts⟩ := gbkToUtf8Into_chars htbl hs
  have hwidth : (gbkToUtf8 tbl s).length ≤ 3 * s.length := by
    rw [hout]
    exact (length_flatten_le fun t ht => (hts t ht).1).trans (Nat.mul_le_mul_left 3 hcount)
  refine ⟨gbkToUtf8 tbl s, gbkToUtf8_isUtf8 tbl s, ?_, ?_, fun dst => ⟨?_, fun hs => ?_⟩, ?_,
    hwidth, fun r hr => ?_⟩
  · rw [hout]
    exact fun h0 => let ⟨t, ht, hmem⟩ := List.mem_flatten.mp h0; (hts t ht).2 hmem
  · rw [gbkToUtf8Call, hret, hlen, Nat.zero_add]
  · rw [gbkToUtf8Call, hstores]
    exact happ dst [] rfl (shows_nil dst 0)
  · -- the NUL behind the last character; for the empty text nothing is stored
    rw [gbkToUtf8Call, hstores, hinto, hout, ← Nat.zero_add ts.flatten.length]
    exact foldr_putChar_nul ts 0 dst (.inl (hne hs))
  · rw [gbkToUtf8Call, hstores, hinto, hout, ← Nat.zero_add ts.flatten.length]
    exact foldr_putChar_inside ts 0
  · simpa using hreads r hr

/-- A text of one byte, the first half of a character. -/
theorem gbk_to_utf8_writes_utf8_half :
    (∀ k : Fin 24080, (fun _ => 0x4e00 : Fin 24080 → UInt16) k ≠ 0) ∧ (0 : UInt8) ∉ [0x81] ∧
      ∃ out, rkEncodeIsUtf8 out = true ∧
        (gbkToUtf8Call (fun _ => 0x4e00) (fun i => [0x81, 0].getD i 7) 1).ret = out.length ∧
        ∀ r ∈ (gbkToUtf8Call (fun _ => 0x4e00) (fun i => [0x81, 0].getD i 7) 1).reads, r ≤ 1 := by
  have htbl : ∀ k : Fin 24080, (fun _ => 0x4e00 : Fin 24080 → UInt16) k ≠ 0 := fun _ =>
    (by decide : (0x4e00 : UInt16) ≠ 0)
  have hs : (0 : UInt8) ∉ [0x81] := by decide
  have hsrc : Shows (fun i => [(0x81 : UInt8), 0].getD i 7) 0 ([0x81] ++ [0]) := by
    simp only [Shows]
    decide
  obtain ⟨out, hutf8, -, hret, -, -, -, hreads⟩ := gbk_to_utf8_writes_utf8 htbl hs hsrc
  exact ⟨htbl, hs, out, hutf8, hret, hreads⟩

end ConnectApp.Encode
