import ConnectApp.Encode.GbkTables
import ConnectApp.Encode.Grammar
import ConnectApp.Lib.Memory

/-!
# From UTF-8 to GBK and back (utility/encode)

`utf8_to_gbk` (utf8_to_gbk.c:1316-1344) with every read it makes, and `gbk_to_utf8`
(gbk_to_utf8.c:1562-1580) with its destination.

* `utf8ToGbk_reads`, `utf8ToGbk_ret`: on any bytes the call stays inside its input, and returns -1
  or the number of bytes written
* `utf8ToGbk_safe_iff`: the table is read inside its bounds exactly for the texts that are
  `Within` it. The code checks no bound, and UTF-8 has far more three-byte forms
* `gbk_round_trip`: ASCII and U+4E00..U+9FA5 come back from GBK as they were
-/

namespace ConnectApp.Encode

open Memory

/-! ## `utf8_to_gbk` -/

/-- What a call did: the value it returned, what it wrote to `pszBufOut`, and the indices with
which it read `pszBufIn` and `mb_uni2gb_table`. -/
structure Conversion where
  ret : Int
  stores : List (Store UInt8)
  reads : List Nat
  lookups : List Int

namespace Conversion

/-- A round in front of the rest of the call. -/
def after (reads : List Nat) (lookups : List Int) (stores : List (Store UInt8))
    (c : Conversion) : Conversion :=
  ⟨c.ret, stores ++ c.stores, reads ++ c.reads, lookups ++ c.lookups⟩

/-- All bytes written, in their order. -/
def out (c : Conversion) : List UInt8 := c.stores.flatMap Store.bytes

end Conversion

/-- `unicode`, from the three bytes of a character. -/
def unicodeOf (b c d : UInt8) : UInt16 :=
  UInt16.ofNat
    ((b &&& 0x0F).toNat <<< 12 ||| (c &&& 0x3F).toNat <<< 6 ||| (d &&& 0x3F).toNat)

section

variable (beyond : Int → UInt16)

/-- `mb_uni2gb_table[k]`, where `beyond` is the memory outside of the table. -/
def uni2gbAt (k : Int) : UInt16 :=
  if h : 0 ≤ k ∧ k < 20902 then mbUni2gbTable ⟨k.toNat, by omega⟩ else beyond k

variable (pszBufIn : Nat → UInt8)

/-- The `for` loop with `left` bytes of the input from `i` on, so `nBufInLen` is `i + left`. -/
def utf8ToGbkLoop : Nat → Nat → Nat → Conversion
  | 0, _, j => ⟨j, [], [], []⟩
  | left + 1, i, j =>
    if pszBufIn i &&& 0x80 = 0 then
      (utf8ToGbkLoop left (i + 1) (j + 1)).after [i] [] [⟨j, [pszBufIn i]⟩]
    else if pszBufIn i &&& 0xF0 = 0xE0 then
      match left with
      | left + 2 =>
        let k : Int := (unicodeOf (pszBufIn i) (pszBufIn (i + 1)) (pszBufIn (i + 2))).toNat - 0x4e00
        let gbk := uni2gbAt beyond k
        (utf8ToGbkLoop left (i + 3) (j + 2)).after [i, i + 1, i + 2] [k]
          [⟨j, [(gbk / 256).toUInt8]⟩, ⟨j + 1, [(gbk % 256).toUInt8]⟩]
      | _ => ⟨-1, [], [i], []⟩ -- `i + 2 >= nBufInLen`
    else ⟨-1, [], [i], []⟩

/-- `utf8_to_gbk(pszBufIn, nBufInLen, pszBufOut)`. -/
def utf8ToGbk (nBufInLen : Nat) : Conversion := utf8ToGbkLoop beyond pszBufIn nBufInLen 0 0

end

section

variable {beyond : Int → UInt16} {pszBufIn : Nat → UInt8} {i : Nat}

/-- A byte that the loop copies. -/
theorem utf8ToGbkLoop_ascii (h : pszBufIn i &&& 0x80 = 0) (left j : Nat) :
    utf8ToGbkLoop beyond pszBufIn (left + 1) i j =
      (utf8ToGbkLoop beyond pszBufIn left (i + 1) (j + 1)).after [i] [] [⟨j, [pszBufIn i]⟩] := by
  match left with
  | 0 | 1 | left + 2 => simp only [utf8ToGbkLoop, if_pos h]

/-- A three-byte sequence that ends in the input. -/
theorem utf8ToGbkLoop_wide (h : pszBufIn i &&& 0x80 ≠ 0) (hwide : pszBufIn i &&& 0xF0 = 0xE0)
    {k : Int} (left j : Nat)
    (hk : k = (unicodeOf (pszBufIn i) (pszBufIn (i + 1)) (pszBufIn (i + 2))).toNat - 0x4e00) :
    utf8ToGbkLoop beyond pszBufIn (left + 3) i j =
      (utf8ToGbkLoop beyond pszBufIn left (i + 3) (j + 2)).after [i, i + 1, i + 2] [k]
        [⟨j, [(uni2gbAt beyond k / 256).toUInt8]⟩,
          ⟨j + 1, [(uni2gbAt beyond k % 256).toUInt8]⟩] := by
  rw [utf8ToGbkLoop, if_neg h, if_pos hwide, hk]

/-- A three-byte sequence that the input ends in, or a lead byte of another kind. -/
theorem utf8ToGbkLoop_stop {left : Nat} (h : pszBufIn i &&& 0x80 ≠ 0)
    (hstop : pszBufIn i &&& 0xF0 ≠ 0xE0 ∨ left < 2) (j : Nat) :
    utf8ToGbkLoop beyond pszBufIn (left + 1) i j = ⟨-1, [], [i], []⟩ := by
  match left with
  | 0 | 1 => simp only [utf8ToGbkLoop, if_neg h, ite_self]
  | left + 2 =>
    rw [utf8ToGbkLoop, if_neg h, if_neg]
    exact hstop.resolve_right (by omega)

end

/-! ## What holds on any bytes -/

section

variable (beyond : Int → UInt16) (pszBufIn : Nat → UInt8)

theorem utf8ToGbkLoop_reads (left i j : Nat) :
    ∀ r ∈ (utf8ToGbkLoop beyond pszBufIn left i j).reads, r < i + left := by
  fun_induction utf8ToGbkLoop beyond pszBufIn left i j with
  | case1 => simp
  | case2 left i j hb ih =>
    intro r hr
    rcases List.mem_append.mp hr with hr | hr
    · rw [List.mem_singleton.mp hr]
      omega
    · have := ih r hr
      omega
  | case3 i j left hb hwide k gbk ih =>
    intro r hr
    rcases List.mem_append.mp hr with hr | hr
    · simp only [List.mem_cons, List.not_mem_nil, or_false] at hr
      omega
    · have := ih r hr
      omega
  | case4 => simp
  | case5 => simp

/-- The stores follow one another from `j` on, and the value returned is where they end. -/
theorem utf8ToGbkLoop_stores (left i j : Nat) :
    Consecutive j (utf8ToGbkLoop beyond pszBufIn left i j).stores ∧
      ((utf8ToGbkLoop beyond pszBufIn left i j).ret = -1 ∨
        (utf8ToGbkLoop beyond pszBufIn left i j).ret =
          j + (utf8ToGbkLoop beyond pszBufIn left i j).out.length) := by
  fun_induction utf8ToGbkLoop beyond pszBufIn left i j with
  | case1 => exact ⟨trivial, .inr (by simp [Conversion.out])⟩
  | case2 left i j hb ih =>
    refine ⟨⟨rfl, ih.1⟩, ih.2.imp id fun h => ?_⟩
    rw [Conversion.after, h]
    simp [Conversion.out]
    omega
  | case3 i j left hb hwide k gbk ih =>
    refine ⟨⟨rfl, rfl, ih.1⟩, ih.2.imp id fun h => ?_⟩
    rw [Conversion.after, h]
    simp [Conversion.out]
    omega
  | case4 => exact ⟨trivial, .inl rfl⟩
  | case5 => exact ⟨trivial, .inl rfl⟩

theorem utf8ToGbk_reads (nBufInLen : Nat) :
    ∀ r ∈ (utf8ToGbk beyond pszBufIn nBufInLen).reads, r < nBufInLen := by
  simpa [utf8ToGbk] using utf8ToGbkLoop_reads beyond pszBufIn nBufInLen 0 0

/-- The call returns -1, or the number of bytes that it put into `pszBufOut` from its start on. -/
theorem utf8ToGbk_ret (nBufInLen : Nat) :
    (∀ m, Shows (run (utf8ToGbk beyond pszBufIn nBufInLen).stores m) 0
        (utf8ToGbk beyond pszBufIn nBufInLen).out) ∧
      ((utf8ToGbk beyond pszBufIn nBufInLen).ret = -1 ∨
        (utf8ToGbk beyond pszBufIn nBufInLen).ret =
          (utf8ToGbk beyond pszBufIn nBufInLen).out.length) := by
  obtain ⟨hstores, hret⟩ := utf8ToGbkLoop_stores beyond pszBufIn nBufInLen 0 0
  refine ⟨fun m => ?_, by simpa [utf8ToGbk] using hret⟩
  have := (shows_nil m 0).run_consecutive hstores
  rwa [List.nil_append] at this

end

/-! ## The bounds of the table -/

/-- The number that the data bits of a three-byte sequence make up. -/
def codePoint (b c d : UInt8) : Nat := b.toNat % 16 * 4096 + c.toNat % 64 * 64 + d.toNat % 64

theorem toNat_unicodeOf (b c d : UInt8) : (unicodeOf b c d).toNat = codePoint b c d := by
  have hb : (b &&& 0x0F).toNat = b.toNat % 16 := Nat.and_two_pow_sub_one_eq_mod b.toNat 4
  have hc : (c &&& 0x3F).toNat = c.toNat % 64 := Nat.and_two_pow_sub_one_eq_mod c.toNat 6
  have hd : (d &&& 0x3F).toNat = d.toNat % 64 := Nat.and_two_pow_sub_one_eq_mod d.toNat 6
  have hd64 : d.toNat % 64 < 2 ^ 6 := Nat.mod_lt _ (by decide)
  have hc64 : (c.toNat % 64) <<< 6 < 2 ^ 12 := by
    rw [Nat.shiftLeft_eq]
    omega
  -- the three groups of bits do not overlap
  have hor : (b.toNat % 16) <<< 12 ||| (c.toNat % 64) <<< 6 ||| d.toNat % 64 = codePoint b c d := by
    have hsum : (b.toNat % 16) <<< 12 + (c.toNat % 64) <<< 6 =
        (b.toNat % 16 * 64 + c.toNat % 64) <<< 6 := by
      simp only [Nat.shiftLeft_eq]
      omega
    calc (b.toNat % 16) <<< 12 ||| (c.toNat % 64) <<< 6 ||| d.toNat % 64
        = (b.toNat % 16 * 64 + c.toNat % 64) <<< 6 ||| d.toNat % 64 := by
          rw [← Nat.shiftLeft_add_eq_or_of_lt hc64, hsum]
      _ = (b.toNat % 16 * 64 + c.toNat % 64) <<< 6 + d.toNat % 64 :=
          (Nat.shiftLeft_add_eq_or_of_lt hd64 _).symm
      _ = codePoint b c d := by
          rw [Nat.shiftLeft_eq, codePoint]
          omega
  rw [unicodeOf, hb, hc, hd, hor]
  have hlt : codePoint b c d < 65536 := by
    rw [codePoint]
    omega
  exact UInt16.toNat_ofNat_of_lt' hlt

/-- The three-byte sequences of the text are all in U+4E00..U+9FA5, up to the first sequence that
`utf8_to_gbk` gives up at. -/
def Within : List UInt8 → Prop
  | [] => True
  | b :: rest =>
    if b < 0x80 then Within rest
    else if 0xE0 ≤ b ∧ b < 0xF0 then
      match rest with
      | c :: d :: rest => (0x4e00 ≤ codePoint b c d ∧ codePoint b c d ≤ 0x9fa5) ∧ Within rest
      | _ => True
    else True

theorem and_top_four_iff : ∀ b : UInt8, b &&& 0xF0 = 0xE0 ↔ 0xE0 ≤ b ∧ b < 0xF0 :=
  forall_byte (by decide +kernel)

/-- The three bytes of a character, and what follows them. -/
theorem shows_three {m : Nat → UInt8} {i : Nat} {b c d : UInt8} {rest : List UInt8}
    (h : Shows m i (b :: c :: d :: rest)) :
    m i = b ∧ m (i + 1) = c ∧ m (i + 2) = d ∧ Shows m (i + 3) rest := by
  obtain ⟨hb, h⟩ := shows_cons_iff.mp h
  obtain ⟨hc, h⟩ := shows_cons_iff.mp h
  obtain ⟨hd, h⟩ := shows_cons_iff.mp h
  exact ⟨hb, hc, hd, h⟩

/-- **The lookups.** They stay inside the table exactly if the text is `Within` it. -/
theorem utf8ToGbkLoop_lookups (beyond : Int → UInt16) (pszBufIn : Nat → UInt8) (s : List UInt8)
    (i j : Nat) (hin : Shows pszBufIn i s) :
    (∀ k ∈ (utf8ToGbkLoop beyond pszBufIn s.length i j).lookups, 0 ≤ k ∧ k ≤ 20901) ↔
      Within s := by
  fun_induction Within s generalizing i j with
  | case1 => simp [utf8ToGbkLoop]
  | case2 b rest hb ih =>
    obtain ⟨hbyte, hrest⟩ := shows_cons_iff.mp hin
    rw [List.length_cons, utf8ToGbkLoop_ascii (by rwa [hbyte, and_top_eq_zero_iff])]
    exact ih (i + 1) (j + 1) hrest
  | case3 b hb hwide c d rest ih =>
    obtain ⟨hbyte, hbyte1, hbyte2, hrest⟩ := shows_three hin
    rw [List.length_cons, List.length_cons, List.length_cons,
      utf8ToGbkLoop_wide (by rwa [hbyte, Ne, and_top_eq_zero_iff])
        (by rwa [hbyte, and_top_four_iff]) _ _ rfl, hbyte, hbyte1, hbyte2, toNat_unicodeOf]
    rw [Conversion.after, List.singleton_append, List.forall_mem_cons, ih (i + 3) (j + 2) hrest]
    refine and_congr_left fun _ => ?_
    omega
  | case4 b rest hb hwide hshort =>
    -- the input ends in the sequence, and the loop before the lookup
    obtain ⟨hbyte, -⟩ := shows_cons_iff.mp hin
    have hlen : rest.length < 2 := by
      match rest with
      | [] | [_] => simp
      | c :: d :: rest => exact (hshort c d rest rfl).elim
    rw [List.length_cons, utf8ToGbkLoop_stop (by rwa [hbyte, Ne, and_top_eq_zero_iff]) (.inr hlen)]
    simp
  | case5 b rest hb hwide =>
    obtain ⟨hbyte, -⟩ := shows_cons_iff.mp hin
    rw [List.length_cons, utf8ToGbkLoop_stop (by rwa [hbyte, Ne, and_top_eq_zero_iff])
      (.inl (by rwa [hbyte, Ne, and_top_four_iff]))]
    simp

/-- **Safety of the converter**, on any bytes and so on all that `RK_encode_is_utf8` accepts. It
reads its input in bounds and returns -1 or the number of bytes it wrote; it reads its table in
bounds exactly if the text is `Within` the table. -/
theorem utf8ToGbk_safe_iff (beyond : Int → UInt16) {pszBufIn : Nat → UInt8} {s : List UInt8}
    (hin : Shows pszBufIn 0 s) :
    (∀ r ∈ (utf8ToGbk beyond pszBufIn s.length).reads, r < s.length) ∧
      ((utf8ToGbk beyond pszBufIn s.length).ret = -1 ∨
        (utf8ToGbk beyond pszBufIn s.length).ret =
            (utf8ToGbk beyond pszBufIn s.length).out.length ∧
          ∀ m, Shows (run (utf8ToGbk beyond pszBufIn s.length).stores m) 0
            (utf8ToGbk beyond pszBufIn s.length).out) ∧
      ((∀ k ∈ (utf8ToGbk beyond pszBufIn s.length).lookups, 0 ≤ k ∧ k ≤ 20901) ↔ Within s) := by
  obtain ⟨hshows, hret⟩ := utf8ToGbk_ret beyond pszBufIn s.length
  exact ⟨utf8ToGbk_reads beyond pszBufIn s.length, hret.imp id fun h => ⟨h, hshows⟩,
    utf8ToGbkLoop_lookups beyond pszBufIn s 0 0 hin⟩

/-- The first character of the table. -/
theorem utf8ToGbk_safe_iff_first :
    Within [0xE4, 0xB8, 0x80] ∧
      ∀ k ∈ (utf8ToGbk (fun _ => 0) (fun i => [0xE4, 0xB8, 0x80].getD i 0) 3).lookups,
        0 ≤ k ∧ k ≤ 20901 := by
  have hwithin : Within [0xE4, 0xB8, 0x80] := by
    simp only [Within]
    decide
  have hin : Shows (fun i => [(0xE4 : UInt8), 0xB8, 0x80].getD i 0) 0 [0xE4, 0xB8, 0x80] := by
    simp only [Shows]
    decide
  exact ⟨hwithin, (utf8ToGbk_safe_iff (fun _ => 0) hin).2.2.mpr hwithin⟩

/-- U+3000, the ideographic space, is UTF-8 and is looked up 7680 entries in front of the table. -/
theorem utf8ToGbk_before_table :
    rkEncodeIsUtf8 [0xE3, 0x80, 0x80] = true ∧
      ∀ beyond : Int → UInt16,
        (utf8ToGbk beyond (fun i => [0xE3, 0x80, 0x80].getD i 0) 3).lookups = [-7680] :=
  ⟨by decide, fun _ => rfl⟩

/-! ## Characters -/

/-- An ASCII character other than NUL, or one of U+4E00..U+9FA5. -/
def Common (c : Char) : Prop :=
  (1 ≤ c.toNat ∧ c.toNat ≤ 127) ∨ (0x4e00 ≤ c.toNat ∧ c.toNat ≤ 0x9fa5)

theorem utf8EncodeChar_low {c : Char} (h : c.toNat ≤ 127) :
    String.utf8EncodeChar c = [UInt8.ofNat c.toNat] :=
  if_pos h

theorem utf8EncodeChar_wide {c : Char} (h : 0x800 ≤ c.toNat) (hlt : c.toNat < 0x10000) :
    String.utf8EncodeChar c = [UInt8.ofNat (c.toNat / 4096 % 16 + 224),
      UInt8.ofNat (c.toNat / 64 % 64 + 128), UInt8.ofNat (c.toNat % 64 + 128)] :=
  (if_neg (show ¬ c.toNat ≤ 127 by omega)).trans <|
    (if_neg (show ¬ c.toNat ≤ 2047 by omega)).trans <| if_pos (show c.toNat ≤ 65535 by omega)

/-- `unicode_to_utf8` encodes a code point of three bytes as UTF-8 does. -/
theorem unicodeToUtf8_wide {v : Nat} (h : 0x800 ≤ v) (hlt : v < 0x10000) :
    unicodeToUtf8 v = [UInt8.ofNat (v / 4096 % 16 + 224), UInt8.ofNat (v / 64 % 64 + 128),
      UInt8.ofNat (v % 64 + 128)] := by
  have hlead : ∀ n < 16, 0xE0 ||| n = n + 224 := by decide
  have htail : ∀ n < 64, 0x80 ||| n = n + 128 := by decide
  rw [unicodeToUtf8, if_neg (by omega), if_neg (by omega), if_pos hlt]
  have h1 : v >>> 12 &&& 0x0F = v / 4096 % 16 := by
    rw [Nat.shiftRight_eq_div_pow]
    exact Nat.and_two_pow_sub_one_eq_mod _ 4
  have h2 : v >>> 6 &&& 0x3F = v / 64 % 64 := by
    rw [Nat.shiftRight_eq_div_pow]
    exact Nat.and_two_pow_sub_one_eq_mod _ 6
  have h3 : v &&& 0x3F = v % 64 := Nat.and_two_pow_sub_one_eq_mod v 6
  rw [h1, h2, h3, hlead _ (by omega), htail _ (by omega), htail _ (by omega)]

/-- The data bits of an encoded code point are the code point. -/
theorem codePoint_encoded {v : Nat} (hv : v < 0x10000) :
    (0xE0 ≤ UInt8.ofNat (v / 4096 % 16 + 224) ∧ UInt8.ofNat (v / 4096 % 16 + 224) < 0xF0) ∧
      codePoint (UInt8.ofNat (v / 4096 % 16 + 224)) (UInt8.ofNat (v / 64 % 64 + 128))
        (UInt8.ofNat (v % 64 + 128)) = v := by
  rw [UInt8.le_iff_toNat_le, UInt8.lt_iff_toNat_lt, codePoint, UInt8.toNat_ofNat',
    UInt8.toNat_ofNat', UInt8.toNat_ofNat']
  show (224 ≤ (v / 4096 % 16 + 224) % 256 ∧ (v / 4096 % 16 + 224) % 256 < 240) ∧ _
  omega

theorem toNat_div_256 (g : UInt16) : (g / 256).toUInt8.toNat = g.toNat / 256 := by
  have := g.toNat_lt
  rw [UInt16.toNat_toUInt8, UInt16.toNat_div]
  show g.toNat / 256 % 256 = g.toNat / 256
  omega

theorem toNat_mod_256 (g : UInt16) : (g % 256).toUInt8.toNat = g.toNat % 256 := by
  rw [UInt16.toNat_toUInt8, UInt16.toNat_mod]
  exact Nat.mod_mod_of_dvd _ (Nat.dvd_refl 256)

section

variable (beyond : Int → UInt16)

/-- The bytes that `utf8_to_gbk` writes for a character. -/
def gbkOf (c : Char) : List UInt8 :=
  if c.toNat < 0x80 then [UInt8.ofNat c.toNat]
  else [(uni2gbAt beyond (c.toNat - 0x4e00) / 256).toUInt8,
    (uni2gbAt beyond (c.toNat - 0x4e00) % 256).toUInt8]

variable {beyond} {pszBufIn : Nat → UInt8}

theorem gbkOf_low {c : Char} (h : c.toNat ≤ 127) : gbkOf beyond c = [UInt8.ofNat c.toNat] :=
  if_pos (by omega)

theorem gbkOf_wide {c : Char} (h : 0x4e00 ≤ c.toNat) :
    gbkOf beyond c = [(uni2gbAt beyond (c.toNat - 0x4e00) / 256).toUInt8,
      (uni2gbAt beyond (c.toNat - 0x4e00) % 256).toUInt8] :=
  if_neg (by omega)

/-- The rounds of one character. -/
theorem utf8ToGbkLoop_char {c : Char} (hc : Common c) {i : Nat}
    (hin : Shows pszBufIn i (String.utf8EncodeChar c)) (left j : Nat) :
    (utf8ToGbkLoop beyond pszBufIn ((String.utf8EncodeChar c).length + left) i j).out =
        gbkOf beyond c ++ (utf8ToGbkLoop beyond pszBufIn left
          (i + (String.utf8EncodeChar c).length) (j + (gbkOf beyond c).length)).out ∧
      (utf8ToGbkLoop beyond pszBufIn ((String.utf8EncodeChar c).length + left) i j).ret =
        (utf8ToGbkLoop beyond pszBufIn left
          (i + (String.utf8EncodeChar c).length) (j + (gbkOf beyond c).length)).ret := by
  rcases hc with ⟨-, hlow⟩ | ⟨hge, hle⟩
  · rw [utf8EncodeChar_low hlow] at hin ⊢
    obtain ⟨hbyte, -⟩ := shows_cons_iff.mp hin
    have hascii : pszBufIn i &&& 0x80 = 0 := by
      rw [hbyte, and_top_eq_zero_iff, UInt8.lt_iff_toNat_lt, UInt8.toNat_ofNat']
      show c.toNat % 256 < 128
      omega
    rw [gbkOf_low hlow, List.length_singleton, Nat.add_comm 1 left, utf8ToGbkLoop_ascii hascii,
      hbyte]
    exact ⟨rfl, rfl⟩
  · rw [utf8EncodeChar_wide (by omega) (by omega)] at hin ⊢
    obtain ⟨hbyte, hbyte1, hbyte2, -⟩ := shows_three hin
    obtain ⟨hlead, hcode⟩ := codePoint_encoded (show c.toNat < 0x10000 by omega)
    have hhigh : pszBufIn i &&& 0x80 ≠ 0 := by
      rw [hbyte, Ne, and_top_eq_zero_iff, UInt8.not_lt]
      exact UInt8.le_trans (by decide) hlead.1
    have hwide : pszBufIn i &&& 0xF0 = 0xE0 := by rwa [hbyte, and_top_four_iff]
    have hk : (c.toNat : Int) - 0x4e00 =
        (unicodeOf (pszBufIn i) (pszBufIn (i + 1)) (pszBufIn (i + 2))).toNat - 0x4e00 := by
      rw [hbyte, hbyte1, hbyte2, toNat_unicodeOf, hcode]
    rw [gbkOf_wide hge, show [_, _, _].length + left = left + 3 from Nat.add_comm 3 left,
      utf8ToGbkLoop_wide hhigh hwide _ _ hk]
    exact ⟨rfl, rfl⟩

/-- The loop on a text of common characters. -/
theorem utf8ToGbkLoop_text {text : List Char} (htext : ∀ c ∈ text, Common c) {i : Nat}
    (hin : Shows pszBufIn i (text.flatMap String.utf8EncodeChar)) (j : Nat) :
    (utf8ToGbkLoop beyond pszBufIn (text.flatMap String.utf8EncodeChar).length i j).out =
        text.flatMap (gbkOf beyond) ∧
      0 ≤ (utf8ToGbkLoop beyond pszBufIn (text.flatMap String.utf8EncodeChar).length i j).ret := by
  induction text generalizing i j with
  | nil => exact ⟨rfl, Int.natCast_nonneg j⟩
  | cons c text ih =>
    obtain ⟨hc, hrest⟩ := List.forall_mem_cons.mp htext
    rw [List.flatMap_cons] at hin
    obtain ⟨hchar, hin⟩ := shows_append_iff.mp hin
    obtain ⟨hout, hret⟩ := ih hrest hin (j + (gbkOf beyond c).length)
    obtain ⟨hout1, hret1⟩ := utf8ToGbkLoop_char hc hchar
      (text.flatMap String.utf8EncodeChar).length j
    rw [List.flatMap_cons, List.flatMap_cons, List.length_append, hout1, hret1, hout]
    exact ⟨rfl, hret⟩

theorem uni2gbAt_natCast {n : Nat} (h : n < 20902) :
    uni2gbAt beyond n = mbUni2gbTable ⟨n, h⟩ :=
  dif_pos ⟨Int.natCast_nonneg n, Int.ofNat_lt.mpr h⟩

/-- **One character comes back**, whatever follows it. -/
theorem gbkToUtf8_gbkOf {c : Char} (hc : Common c) (rest : List UInt8) :
    gbkToUtf8 mbGb2uniTable (gbkOf beyond c ++ rest) =
      String.utf8EncodeChar c ++ gbkToUtf8 mbGb2uniTable rest := by
  rcases hc with ⟨hpos, hlow⟩ | ⟨hge, hle⟩
  · have hval : (UInt8.ofNat c.toNat).toNat = c.toNat :=
      UInt8.toNat_ofNat_of_lt' (Nat.lt_of_le_of_lt hlow (by decide))
    have hne : UInt8.ofNat c.toNat ≠ 0 := by
      intro h
      rw [h] at hval
      exact absurd hval.symm (Nat.ne_of_gt hpos)
    rw [gbkOf_low hlow, utf8EncodeChar_low hlow, List.singleton_append, List.singleton_append]
    refine gbkToUtf8_low ?_ hne rest
    rw [UInt8.lt_iff_toNat_lt, hval]
    exact Nat.lt_succ_of_le hlow
  · -- the entry of the character, and its two bytes
    have hlt : c.toNat - 0x4e00 < 20902 := by omega
    have hentry : uni2gbAt beyond (c.toNat - 0x4e00) = mbUni2gbTable ⟨c.toNat - 0x4e00, hlt⟩ := by
      rw [← uni2gbAt_natCast hlt]
      congr 1
      omega
    obtain ⟨hlead, hback⟩ := gbkToUnicode_mbUni2gb ⟨c.toNat - 0x4e00, hlt⟩ (toNat_div_256 _)
      (toNat_mod_256 _)
    have hpoint : 0x4e00 + (c.toNat - 0x4e00) = c.toNat := by omega
    rw [gbkOf_wide hge, hentry, List.cons_append, List.singleton_append, gbkToUtf8, if_neg hlead,
      hback, hpoint, unicodeToUtf8_wide (by omega) (by omega),
      utf8EncodeChar_wide (by omega) (by omega)]

theorem gbkToUtf8_text {text : List Char} (htext : ∀ c ∈ text, Common c) :
    gbkToUtf8 mbGb2uniTable (text.flatMap (gbkOf beyond)) =
      text.flatMap String.utf8EncodeChar := by
  induction text with
  | nil => rfl
  | cons c text ih =>
    obtain ⟨hc, hrest⟩ := List.forall_mem_cons.mp htext
    rw [List.flatMap_cons, List.flatMap_cons, gbkToUtf8_gbkOf hc, ih hrest]

end

/-! ## `gbk_to_utf8` and its destination -/

/-- A part of `gbk_to_utf8`: from `j` on, the stores into `dst` and the next `j`. -/
abbrev Output := Nat → Nat × List (Store UInt8)

/-- `unicode_to_utf8` copies the character `t` with its NUL to `dst + j`, and `j` moves on by the
length without the NUL. -/
def putChar (t : List UInt8) (next : Output) : Output := fun j =>
  ((next (j + t.length)).1, ⟨j, t ++ [0]⟩ :: (next (j + t.length)).2)

/-- The end of the loop, where `j` is returned. -/
def putEnd : Output := fun j => (j, [])

/-- The loop of `gbk_to_utf8`, on a NUL-terminated source. -/
def gbkToUtf8Into (tbl : Fin 24080 → UInt16) : List UInt8 → Output
  | [] => putEnd
  | [b] =>
    if b < 0x80 then putChar (unicodeToUtf8 b.toNat) putEnd
    else putChar (unicodeToUtf8 (gbkToUnicode tbl b 0).toNat) putEnd
  | b :: c :: rest =>
    if b < 0x80 then putChar (unicodeToUtf8 b.toNat) (gbkToUtf8Into tbl (c :: rest))
    else putChar (unicodeToUtf8 (gbkToUnicode tbl b c).toNat) (gbkToUtf8Into tbl rest)

/-- The part appends the text `t` to what stands in `dst`. -/
def Output.Appends (p : Output) (t : List UInt8) : Prop := ∀ j,
  (p j).1 = j + t.length ∧
    ∀ (m : Nat → UInt8) (before : List UInt8), before.length = j → Shows m 0 before →
      Shows (run (p j).2 m) 0 (before ++ t)

theorem putEnd_appends : putEnd.Appends [] := fun _ =>
  ⟨rfl, fun _ before _ h => by rwa [List.append_nil]⟩

theorem putChar_appends {next : Output} {u : List UInt8} (t : List UInt8) (h : next.Appends u) :
    (putChar t next).Appends (t ++ u) := by
  intro j
  obtain ⟨hret, hshows⟩ := h (j + t.length)
  refine ⟨by rw [putChar, hret, List.length_append, Nat.add_assoc], ?_⟩
  rintro m before rfl hbefore
  -- the next character overwrites the NUL
  have hchar := (hbefore.store_behind (t ++ [0])).shorten
    (t := before ++ t) ⟨[0], by rw [List.append_assoc]⟩
  rw [Nat.zero_add] at hchar
  rw [← List.append_assoc]
  exact hshows _ _ List.length_append hchar

theorem gbkToUtf8Into_appends (tbl : Fin 24080 → UInt16) (src : List UInt8) :
    (gbkToUtf8Into tbl src).Appends (gbkToUtf8 tbl src) := by
  induction src using gbkToUtf8.induct with
  | case1 => exact putEnd_appends
  | case2 b hb =>
    rw [gbkToUtf8Into, gbkToUtf8, if_pos hb, if_pos hb]
    simpa using putChar_appends (unicodeToUtf8 b.toNat) putEnd_appends
  | case3 b hb =>
    rw [gbkToUtf8Into, gbkToUtf8, if_neg hb, if_neg hb]
    simpa using putChar_appends (unicodeToUtf8 (gbkToUnicode tbl b 0).toNat) putEnd_appends
  | case4 b c rest hb ih =>
    rw [gbkToUtf8Into, gbkToUtf8, if_pos hb, if_pos hb]
    exact putChar_appends _ ih
  | case5 b c rest hb ih =>
    rw [gbkToUtf8Into, gbkToUtf8, if_neg hb, if_neg hb]
    exact putChar_appends _ ih

/-! ## There and back -/

/-- **The conversions are inverse** on texts of ASCII and U+4E00..U+9FA5. For the UTF-8 form `u`
of such a text `utf8_to_gbk` returns a length `n`, and `gbk_to_utf8` turns the first `n` bytes
of its output into `u` and returns the length of `u`. -/
theorem gbk_round_trip (beyond : Int → UInt16) {text : List Char} (htext : ∀ c ∈ text, Common c)
    {u : List UInt8} (hu : u = text.flatMap String.utf8EncodeChar) {pszBufIn : Nat → UInt8}
    (hin : Shows pszBufIn 0 u) (pszBufOut dst : Nat → UInt8) :
    ∃ n : Nat, (utf8ToGbk beyond pszBufIn u.length).ret = n ∧
      ∀ g, g = (List.range n).map (run (utf8ToGbk beyond pszBufIn u.length).stores pszBufOut) →
        (gbkToUtf8Into mbGb2uniTable g 0).1 = u.length ∧
          Shows (run (gbkToUtf8Into mbGb2uniTable g 0).2 dst) 0 u := by
  subst hu
  obtain ⟨hout, hnonneg⟩ := @utf8ToGbkLoop_text beyond _ _ htext 0 hin 0
  obtain ⟨hshows, hret⟩ := utf8ToGbk_ret beyond pszBufIn (text.flatMap String.utf8EncodeChar).length
  have hlen := hret.resolve_left fun h => absurd (h ▸ hnonneg) (by decide)
  refine ⟨_, hlen, ?_⟩
  rintro g rfl
  rw [(hshows pszBufOut).map_range]
  obtain ⟨hret8, hshows8⟩ := gbkToUtf8Into_appends mbGb2uniTable
    (utf8ToGbk beyond pszBufIn (text.flatMap String.utf8EncodeChar).length).out 0
  -- what was written is the GBK form of the text, and that converts back
  have hback : gbkToUtf8 mbGb2uniTable
      (utf8ToGbk beyond pszBufIn (text.flatMap String.utf8EncodeChar).length).out =
      text.flatMap String.utf8EncodeChar := by
    rw [utf8ToGbk, hout, gbkToUtf8_text htext]
  rw [hback] at hret8 hshows8
  refine ⟨by rw [hret8, Nat.zero_add], ?_⟩
  simpa using hshows8 dst [] rfl (shows_nil dst 0)

/-- An ASCII letter and U+4E2D. -/
theorem gbk_round_trip_mixed :
    (∀ c ∈ ['a', '中'], Common c) ∧
      ∃ n : Nat, (utf8ToGbk (fun _ => 0) (fun i => [0x61, 0xE4, 0xB8, 0xAD].getD i 0) 4).ret = n ∧
        ∀ g, g = (List.range n).map (run (utf8ToGbk (fun _ => 0)
            (fun i => [0x61, 0xE4, 0xB8, 0xAD].getD i 0) 4).stores fun _ => 0) →
          (gbkToUtf8Into mbGb2uniTable g 0).1 = 4 ∧
            Shows (run (gbkToUtf8Into mbGb2uniTable g 0).2 fun _ => 0) 0
              [0x61, 0xE4, 0xB8, 0xAD] := by
  have htext : ∀ c ∈ ['a', '中'], Common c := by
    simp only [List.mem_cons, List.not_mem_nil, or_false, forall_eq_or_imp, forall_eq]
    exact ⟨.inl (by decide), .inr (by decide)⟩
  have hin : Shows (fun i => [(0x61 : UInt8), 0xE4, 0xB8, 0xAD].getD i 0) 0
      [0x61, 0xE4, 0xB8, 0xAD] := by
    simp only [Shows]
    decide
  exact ⟨htext, gbk_round_trip (fun _ => 0) htext (by decide) hin (fun _ => 0) fun _ => 0⟩

end ConnectApp.Encode
