import ConnectApp.Lib.CString

/-!
# UTF-8 validation and GBK conversion (utility/encode)

`RK_encode_is_utf8` (RK_encode.c:6-43) and `gbk_to_utf8` with its helpers
(gbk_to_utf8.c:1516-1580). The conversion table `mb_gb2uni_table` is a
parameter: `gbkToUtf8_isUtf8` holds for every table, so it does not matter which
entries are gaps.
-/

namespace ConnectApp.Encode

open CString

/-! ## `RK_encode_is_utf8` -/

/-- The loop `while ((temp << bit1num) & 0x80)`, with `r` rounds left until
`bit1num` exceeds 6; `none` when it does. -/
def leadLoop (temp : UInt8) : Nat → Option Nat
  | 0 => none
  | r + 1 => if (temp.toNat <<< (6 - r)) &&& 0x80 ≠ 0 then leadLoop temp r else some (6 - r)

/-- The number of leading one bits of a lead byte, if at most 6. -/
def leadingOnes (temp : UInt8) : Option Nat := leadLoop temp 7

/-- The `for` loop of `RK_encode_is_utf8` from a given `bit1num`. -/
def utf8Loop : Nat → List UInt8 → Bool
  | bit1num, [] => bit1num = 0
  | bit1num, b :: rest =>
    if bit1num = 0 ∧ b &&& 0x80 = 0 then utf8Loop bit1num rest
    else if bit1num ≠ 0 ∧ b &&& 0xc0 = 0x80 then utf8Loop (bit1num - 1) rest
    else if bit1num ≠ 0 ∧ b &&& 0xc0 ≠ 0x80 then false
    else
      match leadingOnes b with
      | none => false
      | some k => if k < 2 then false else utf8Loop (k - 1) rest

/-- `RK_encode_is_utf8(buf, size)` on the first `size` bytes of `buf`. -/
def rkEncodeIsUtf8 : List UInt8 → Bool
  | [] => true
  | b :: rest => if b = 0 then true else utf8Loop 0 (b :: rest)

theorem utf8Loop_ascii {b : UInt8} (h : b &&& 0x80 = 0) (t : List UInt8) :
    utf8Loop 0 (b :: t) = utf8Loop 0 t := by
  rw [utf8Loop, if_pos ⟨rfl, h⟩]

theorem utf8Loop_tail {b : UInt8} (h : b &&& 0xc0 = 0x80) (n : Nat) (t : List UInt8) :
    utf8Loop (n + 1) (b :: t) = utf8Loop n t := by
  rw [utf8Loop, if_neg fun hc => absurd hc.1 (Nat.succ_ne_zero n),
    if_pos ⟨Nat.succ_ne_zero n, h⟩]
  rfl

theorem utf8Loop_lead {b : UInt8} {k : Nat} (hb : b &&& 0x80 ≠ 0)
    (h : leadingOnes b = some (k + 2)) (t : List UInt8) :
    utf8Loop 0 (b :: t) = utf8Loop (k + 1) t := by
  rw [utf8Loop, if_neg fun hc => hb hc.2, if_neg fun hc => hc.1 rfl,
    if_neg fun hc => hc.1 rfl, h]
  exact if_neg (by omega)

theorem rkEncodeIsUtf8_of_loop {t : List UInt8} (h : utf8Loop 0 t = true) :
    rkEncodeIsUtf8 t = true := by
  cases t with
  | nil => rfl
  | cons b t =>
    rw [rkEncodeIsUtf8]
    split_ifs
    · rfl
    · exact h

/-! ## `gbk_to_utf8` -/

/-- `unicode_to_utf8` (gbk_to_utf8.c:1523-1559): the bytes before the NUL of
`tmp`. The code point 0 leaves an empty string. -/
def unicodeToUtf8 (c : Nat) : List UInt8 :=
  if c < 0x80 then cstr [UInt8.ofNat c]
  else if c < 0x800 then
    [UInt8.ofNat (0xC0 ||| ((c >>> 6) &&& 0x1F)), UInt8.ofNat (0x80 ||| (c &&& 0x3F))]
  else if c < 0x10000 then
    [UInt8.ofNat (0xE0 ||| ((c >>> 12) &&& 0x0F)), UInt8.ofNat (0x80 ||| ((c >>> 6) &&& 0x3F)),
      UInt8.ofNat (0x80 ||| (c &&& 0x3F))]
  else if c < 0x200000 then
    [UInt8.ofNat (0xF0 ||| ((c >>> 18) &&& 0x07)), UInt8.ofNat (0x80 ||| ((c >>> 12) &&& 0x3F)),
      UInt8.ofNat (0x80 ||| ((c >>> 6) &&& 0x3F)), UInt8.ofNat (0x80 ||| (c &&& 0x3F))]
  else if c < 0x4000000 then
    [UInt8.ofNat (0xF8 ||| ((c >>> 24) &&& 0x03)), UInt8.ofNat (0x80 ||| ((c >>> 18) &&& 0x3F)),
      UInt8.ofNat (0x80 ||| ((c >>> 12) &&& 0x3F)), UInt8.ofNat (0x80 ||| ((c >>> 6) &&& 0x3F)),
      UInt8.ofNat (0x80 ||| (c &&& 0x3F))]
  else
    [UInt8.ofNat (0xFC ||| ((c >>> 30) &&& 0x01)), UInt8.ofNat (0x80 ||| ((c >>> 24) &&& 0x3F)),
      UInt8.ofNat (0x80 ||| ((c >>> 18) &&& 0x3F)), UInt8.ofNat (0x80 ||| ((c >>> 12) &&& 0x3F)),
      UInt8.ofNat (0x80 ||| ((c >>> 6) &&& 0x3F)), UInt8.ofNat (0x80 ||| (c &&& 0x3F))]

section

variable (mbGb2uniTable : Fin 24080 → UInt16)

/-- `gbk_to_unicode` (gbk_to_utf8.c:1516-1521), with `unsigned char` wrap-around
in both subtractions. -/
def gbkToUnicode (ch cl : UInt8) : UInt16 :=
  if h : ch - 0x81 ≤ 0x7d ∧ cl - 0x40 ≤ 0xbe then
    mbGb2uniTable ⟨(ch - 0x81).toNat * 0xbf + (cl - 0x40).toNat, by
      have h1 : (ch - 0x81).toNat ≤ 0x7d := h.1
      have h2 : (cl - 0x40).toNat ≤ 0xbe := h.2
      omega⟩
  else 0x1fff

/-- `gbk_to_utf8` (gbk_to_utf8.c:1561-1580) on a NUL-terminated source of `len`
bytes: a lead byte in the last place is paired with the terminator. -/
def gbkToUtf8 : List UInt8 → List UInt8
  | [] => []
  | [b] =>
    if b < 0x80 then unicodeToUtf8 b.toNat
    else unicodeToUtf8 (gbkToUnicode mbGb2uniTable b 0).toNat
  | b :: c :: rest =>
    if b < 0x80 then unicodeToUtf8 b.toNat ++ gbkToUtf8 (c :: rest)
    else unicodeToUtf8 (gbkToUnicode mbGb2uniTable b c).toNat ++ gbkToUtf8 rest

end

theorem unicodeToUtf8_self {b : UInt8} (h : b < 0x80) (h0 : b ≠ 0) :
    unicodeToUtf8 b.toNat = [b] := by
  have hlt : b.toNat < 0x80 := UInt8.lt_iff_toNat_lt.mp h
  rw [unicodeToUtf8, if_pos hlt, UInt8.ofNat_toNat, cstr_cons_of_ne h0]
  rfl

/-- An ASCII byte is converted to itself. -/
theorem gbkToUtf8_low {tbl : Fin 24080 → UInt16} {b : UInt8} (h : b < 0x80) (h0 : b ≠ 0)
    (t : List UInt8) : gbkToUtf8 tbl (b :: t) = b :: gbkToUtf8 tbl t := by
  match t with
  | [] => exact (if_pos h).trans (unicodeToUtf8_self h h0)
  | c :: rest => rw [gbkToUtf8, if_pos h, unicodeToUtf8_self h h0, List.singleton_append]

/-- One code point of at most 16 bits is one UTF-8 sequence. -/
theorem utf8Loop_unicode {c : Nat} (hc : c < 0x10000) (t : List UInt8) :
    utf8Loop 0 (unicodeToUtf8 c ++ t) = utf8Loop 0 t := by
  have hascii : ∀ n, n < 0x80 → UInt8.ofNat n &&& 0x80 = 0 := by decide
  have hlead2 : ∀ n, n < 0x20 → UInt8.ofNat (0xC0 ||| n) &&& 0x80 ≠ 0 ∧
      leadingOnes (UInt8.ofNat (0xC0 ||| n)) = some 2 := by decide
  have hlead3 : ∀ n, n < 0x10 → UInt8.ofNat (0xE0 ||| n) &&& 0x80 ≠ 0 ∧
      leadingOnes (UInt8.ofNat (0xE0 ||| n)) = some 3 := by decide
  have htail : ∀ n, n < 0x40 → UInt8.ofNat (0x80 ||| n) &&& 0xc0 = 0x80 := by decide
  have hlow : c &&& 0x3F < 0x40 := Nat.and_lt_two_pow (n := 6) _ (by omega)
  have hmid : c >>> 6 &&& 0x3F < 0x40 := Nat.and_lt_two_pow (n := 6) _ (by omega)
  have hhigh2 : c >>> 6 &&& 0x1F < 0x20 := Nat.and_lt_two_pow (n := 5) _ (by omega)
  have hhigh3 : c >>> 12 &&& 0x0F < 0x10 := Nat.and_lt_two_pow (n := 4) _ (by omega)
  unfold unicodeToUtf8
  split_ifs with h1 h2
  · by_cases h0 : UInt8.ofNat c = 0
    · rw [h0]
      rfl
    · rw [cstr_cons_of_ne h0]
      exact utf8Loop_ascii (hascii c h1) t
  · obtain ⟨hb, hl⟩ := hlead2 _ hhigh2
    show utf8Loop 0 (_ :: _ :: t) = _
    rw [utf8Loop_lead hb hl, utf8Loop_tail (htail _ hlow)]
  · obtain ⟨hb, hl⟩ := hlead3 _ hhigh3
    show utf8Loop 0 (_ :: _ :: _ :: t) = _
    rw [utf8Loop_lead hb hl, utf8Loop_tail (htail _ hmid), utf8Loop_tail (htail _ hlow)]

theorem utf8Loop_gbk (tbl : Fin 24080 → UInt16) (s : List UInt8) :
    utf8Loop 0 (gbkToUtf8 tbl s) = true := by
  have hbyte : ∀ b : UInt8, b.toNat < 0x10000 := fun b => by
    have := b.toNat_lt
    omega
  have huni : ∀ u : UInt16, u.toNat < 0x10000 := fun u => u.toNat_lt
  have hlast : ∀ c, c < 0x10000 → utf8Loop 0 (unicodeToUtf8 c) = true := by
    intro c hc
    rw [← List.append_nil (unicodeToUtf8 c), utf8Loop_unicode hc]
    rfl
  induction s using gbkToUtf8.induct with
  | case1 => rfl
  | case2 b hb =>
    rw [gbkToUtf8, if_pos hb]
    exact hlast _ (hbyte b)
  | case3 b hb =>
    rw [gbkToUtf8, if_neg hb]
    exact hlast _ (huni _)
  | case4 b c rest hb ih =>
    rw [gbkToUtf8, if_pos hb, utf8Loop_unicode (hbyte b), ih]
  | case5 b c rest hb ih =>
    rw [gbkToUtf8, if_neg hb, utf8Loop_unicode (huni _), ih]

/-- **The converter always writes UTF-8**, whatever its table holds and wherever
its input stops. -/
theorem gbkToUtf8_isUtf8 (tbl : Fin 24080 → UInt16) (s : List UInt8) :
    rkEncodeIsUtf8 (gbkToUtf8 tbl s) = true :=
  rkEncodeIsUtf8_of_loop (utf8Loop_gbk tbl s)

end ConnectApp.Encode
