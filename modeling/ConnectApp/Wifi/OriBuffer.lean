import ConnectApp.Lib.Memory
import ConnectApp.Wifi.ScanNames

/-!
# The buffer for the original SSID (Rk_wifi.c:111-130, 2121-2173)

`RK_wifi_connect1` gives `get_encode_gbk_ori` a buffer `ori` of `strlen(ssid) + 1` bytes, sized
after the displayed name, and the original bytes are copied into it. So the GBK form of a name
must not be longer than its UTF-8 form.

It can be. The conversion table holds `?` for every double byte that ends in 0x7F, a gap of GBK,
and then two bytes become one. Other double bytes become two or three bytes, and the two forms
lose different numbers of escapes:

- `length_gbkToUtf8`: the lengths of the two forms, by the double bytes
- `escapes_gbkToUtf8`: the escapes of the displayed form
- `ori_fits_iff`: so the name of an SSID fits exactly if it loses no more than it gains
- `scan_ori_fits`: after a scan of such names every name fits, also one that is in no list
- `gap_overruns`: the SSID 0x81 0x7F does not fit
-/

namespace ConnectApp.Wifi

open CString ConnectApp.Encode Memory

/-! ## The stores into `ori` -/

/-- What `RK_wifi_connect1` writes to `ori`: the `memset`, then the `strncpy` of
`get_encode_gbk_ori`, which copies no NUL. -/
def oriStores (head : List GbkEntry) (ssid : List UInt8) : List (Store UInt8) :=
  [memset 0 0 (ssid.length + 1), ⟨0, getEncodeGbkOri head ssid⟩]

/-- The original bytes fit into `ori[strlen(ssid) + 1]`. -/
structure OriFits (head : List GbkEntry) (ssid : List UInt8) : Prop where
  /-- at most `strlen(ssid)` bytes are copied -/
  copied : (Store.mk 0 (getEncodeGbkOri head ssid)).Inside 0 ssid.length
  /-- the buffer ends up with the bytes and a NUL, whatever was in memory -/
  terminated : ∀ m, Shows (run (oriStores head ssid) m) 0 (getEncodeGbkOri head ssid ++ [0])

theorem oriFits_iff {head : List GbkEntry} {ssid : List UInt8} :
    OriFits head ssid ↔ (getEncodeGbkOri head ssid).length ≤ ssid.length := by
  constructor
  · rintro ⟨hnil | ⟨-, hend⟩, -⟩
    · have hori : getEncodeGbkOri head ssid = [] := hnil
      rw [hori]
      exact Nat.zero_le _
    · simpa using hend
  · intro hle
    refine ⟨.inr ⟨Nat.le_refl _, by simpa using hle⟩, fun m => ?_⟩
    have hori := shows_store (Store.mk 0 (getEncodeGbkOri head ssid))
      ((memset 0 0 (ssid.length + 1)).apply m)
    refine shows_append_iff.mpr ⟨hori, fun i hi => ?_⟩
    -- the byte behind the copy is still the one of the `memset`
    obtain rfl : i = 0 := by simpa using hi
    show (Store.mk 0 (getEncodeGbkOri head ssid)).apply _ _ = 0
    rw [Store.apply_outside (.inr (by simp))]
    exact memset_apply (by simpa using Nat.lt_succ_of_le hle) 0 m

/-! ## Lengths -/

/-- The sum of `f` over the double bytes, as `gbk_to_utf8` reads them: the first byte of a text that
stops in the middle of a character is taken with the NUL. -/
def tally (f : UInt8 → UInt8 → Nat) : List UInt8 → Nat
  | [] => 0
  | [b] => if b < 0x80 then 0 else f b 0
  | b :: c :: rest => if b < 0x80 then tally f (c :: rest) else f b c + tally f rest

/-- The byte that a double byte loses: a first byte of the table with 0x7F behind it. -/
def lost (ch cl : UInt8) : Nat := if ch - 0x81 ≤ 0x7d ∧ cl = 0x7f then 1 else 0

/-- The bytes that a double byte gains: half a character becomes three bytes, and so do two bytes
from U+0800 on. -/
def gained (tbl : Fin 24080 → UInt16) (ch cl : UInt8) : Nat :=
  if cl = 0 then 2 else if 0x800 ≤ gbkToUnicode tbl ch cl then 1 else 0

section

variable {tbl : Fin 24080 → UInt16}

/-- What `gbk_to_unicode` gives: `?` for a gap, and no ASCII for anything else. -/
theorem gbkToUnicode_gap (htbl : GapsAtDel tbl) (ch cl : UInt8) :
    if ch - 0x81 ≤ 0x7d ∧ cl = 0x7f then gbkToUnicode tbl ch cl = 0x3f
    else 0x80 ≤ gbkToUnicode tbl ch cl := by
  by_cases hin : ch - 0x81 ≤ 0x7d ∧ cl - 0x40 ≤ 0xbe
  · have h1 : (ch - 0x81).toNat ≤ 0x7d := hin.1
    have h2 : (cl - 0x40).toNat ≤ 0xbe := hin.2
    have hcol : cl = 0x7f ↔ ((ch - 0x81).toNat * 0xbf + (cl - 0x40).toNat) % 0xbf = 0x3f := by
      have hmod : ((ch - 0x81).toNat * 0xbf + (cl - 0x40).toNat) % 0xbf = (cl - 0x40).toNat := by
        omega
      rw [hmod]
      refine ⟨by rintro rfl; rfl, fun hc => ?_⟩
      have hsub : cl - 0x40 = 0x3f := UInt8.toNat_inj.mp hc
      rw [← UInt8.sub_add_cancel cl 0x40, hsub]
      rfl
    have hentry := htbl ⟨(ch - 0x81).toNat * 0xbf + (cl - 0x40).toNat, by omega⟩
      (by show (ch - 0x81).toNat * 0xbf + (cl - 0x40).toNat ≤ _; omega)
    rw [gbkToUnicode, dif_pos hin]
    by_cases hcl : cl = 0x7f
    · rw [if_pos ⟨hin.1, hcl⟩]
      rwa [if_pos (hcol.mp hcl)] at hentry
    · rw [if_neg fun h => hcl h.2]
      rwa [if_neg (mt hcol.mpr hcl)] at hentry
  · -- outside the table, where no second byte is 0x7F
    rw [gbkToUnicode, dif_neg hin, if_neg]
    · decide
    · rintro ⟨hch, rfl⟩
      exact hin ⟨hch, by decide⟩

/-- The width of a double byte. -/
theorem length_double (htbl : GapsAtDel tbl) (ch : UInt8) {cl : UInt8} (hcl : cl ≠ 0) :
    (unicodeToUtf8 (gbkToUnicode tbl ch cl).toNat).length + lost ch cl = 2 + gained tbl ch cl := by
  have hgap := gbkToUnicode_gap htbl ch cl
  rw [lost, gained, if_neg hcl]
  by_cases h : ch - 0x81 ≤ 0x7d ∧ cl = 0x7f
  · rw [if_pos h] at hgap
    rw [hgap, if_pos h]
    decide
  · rw [if_neg h] at hgap
    have hle : 0x80 ≤ (gbkToUnicode tbl ch cl).toNat := hgap
    have hlt : (gbkToUnicode tbl ch cl).toNat < 0x10000 := UInt16.toNat_lt _
    rw [if_neg h, unicodeToUtf8, if_neg (Nat.not_lt.mpr hle), if_pos hlt]
    by_cases hwide : 0x800 ≤ gbkToUnicode tbl ch cl
    · have hnat : 0x800 ≤ (gbkToUnicode tbl ch cl).toNat := hwide
      rw [if_pos hwide, if_neg (Nat.not_lt.mpr hnat)]
      rfl
    · have hnat : (gbkToUnicode tbl ch cl).toNat < 0x800 := Nat.not_le.mp hwide
      rw [if_neg hwide, if_pos hnat]
      rfl

/-- The width of half a character. -/
theorem length_half (ch : UInt8) :
    (unicodeToUtf8 (gbkToUnicode tbl ch 0).toNat).length + lost ch 0 = 1 + gained tbl ch 0 := by
  have hout : gbkToUnicode tbl ch 0 = 0x1fff := by
    rw [gbkToUnicode, dif_neg]
    rintro ⟨-, h⟩
    exact absurd h (by decide)
  rw [hout, lost, if_neg (by rintro ⟨-, h⟩; cases h)]
  rfl

/-- **The lengths of the two forms**, before the escapes are removed. -/
theorem length_gbkToUtf8 (htbl : GapsAtDel tbl) {t : List UInt8} (hnul : 0 ∉ t) :
    (gbkToUtf8 tbl t).length + tally lost t = t.length + tally (gained tbl) t := by
  induction t using gbkToUtf8.induct with
  | case1 => rfl
  | case2 b hb =>
    rw [gbkToUtf8_low hb fun h0 => hnul (h0 ▸ List.mem_cons_self), tally, tally, if_pos hb,
      if_pos hb]
    rfl
  | case3 b hb =>
    rw [gbkToUtf8, if_neg hb, tally, tally, if_neg hb, if_neg hb]
    exact length_half b
  | case4 b c rest hb ih =>
    have ih := ih fun h0 => hnul (List.mem_cons_of_mem _ h0)
    rw [gbkToUtf8_low hb fun h0 => hnul (h0 ▸ List.mem_cons_self), tally, tally, if_pos hb,
      if_pos hb, List.length_cons, List.length_cons]
    omega
  | case5 b c rest hb ih =>
    rw [List.mem_cons, List.mem_cons, not_or, not_or] at hnul
    have ih := ih hnul.2.2
    have hdouble := length_double htbl b (fun h0 => hnul.2.1 h0.symm)
    rw [gbkToUtf8, if_neg hb, tally, tally, if_neg hb, if_neg hb, List.length_append,
      List.length_cons, List.length_cons]
    omega

end

/-! ## Escapes -/

/-- The pairs that `remove_escape_character` takes for escapes. -/
def escapes : List UInt8 → Nat
  | b :: c :: rest =>
    if b = bslash ∧ (c = bslash ∨ c = quote) then escapes rest + 1 else escapes (c :: rest)
  | _ => 0

/-- The same where the second byte of a double byte is no character of its own. -/
def shownEscapes : List UInt8 → Nat
  | b :: c :: rest =>
    if b < 0x80 then
      if b = bslash ∧ (c = bslash ∨ c = quote) then shownEscapes rest + 1
      else shownEscapes (c :: rest)
    else shownEscapes rest
  | _ => 0

/-- Each of them makes the text one byte shorter. -/
theorem length_removeEscape (t : List UInt8) :
    (removeEscapeCharacter t).length + escapes t = t.length := by
  induction t using removeEscapeCharacter.induct with
  | case1 => rfl
  | case2 b => rfl
  | case3 b c rest h ih =>
    rw [removeEscapeCharacter, if_pos h, escapes, if_pos h, List.length_cons, List.length_cons,
      List.length_cons]
    omega
  | case4 b c rest h ih =>
    rw [removeEscapeCharacter, if_neg h, escapes, if_neg h, List.length_cons, List.length_cons]
    omega

/-- A byte that begins no escape. -/
theorem escapes_cons {b : UInt8} {t : List UInt8}
    (h : b = bslash → ∀ c ∈ t.head?, c ≠ bslash ∧ c ≠ quote) : escapes (b :: t) = escapes t := by
  match t with
  | [] => rfl
  | c :: rest =>
    rw [escapes, if_neg]
    rintro ⟨hb, hc⟩
    obtain ⟨h1, h2⟩ := h hb c rfl
    exact hc.elim h1 h2

/-- An inert byte is no part of an escape. -/
theorem inert_ne {b : UInt8} (h : inert b = true) : b ≠ bslash ∧ b ≠ quote := by
  constructor <;> (rintro rfl; cases h)

theorem escapes_inert {u : List UInt8} (hu : ∀ b ∈ u, inert b = true) (t : List UInt8) :
    escapes (u ++ t) = escapes t := by
  induction u with
  | nil => rfl
  | cons b u ih =>
    rw [List.forall_mem_cons] at hu
    rw [List.cons_append, escapes_cons fun hb => absurd hb (inert_ne hu.1).1, ih hu.2]

section

variable {tbl : Fin 24080 → UInt16}

/-- The converted text does not start with the second byte of an escape unless the text does. -/
theorem gbkToUtf8_head (htbl : TableOk tbl) {c : UInt8} {rest : List UInt8} (h0 : c ≠ 0)
    (h : c ≠ bslash ∧ c ≠ quote) :
    ∀ d ∈ (gbkToUtf8 tbl (c :: rest)).head?, d ≠ bslash ∧ d ≠ quote := by
  by_cases hc : c < 0x80
  · rw [gbkToUtf8_low hc h0]
    rintro d ⟨⟩
    exact h
  · have hdouble : ∀ (cl : UInt8) (t : List UInt8),
        ∀ d ∈ (unicodeToUtf8 (gbkToUnicode tbl c cl).toNat ++ t).head?, d ≠ bslash ∧ d ≠ quote := by
      intro cl t d hd
      obtain ⟨x, u, hu, hinert⟩ := unicodeToUtf8_inert (gbkToUnicode_ok htbl c cl)
      rw [hu] at hd
      obtain rfl : x = d := Option.some.inj hd
      exact inert_ne (hinert x List.mem_cons_self)
    match rest with
    | [] =>
      rw [gbkToUtf8, if_neg hc, ← List.append_nil (unicodeToUtf8 _)]
      exact hdouble 0 []
    | cl :: rest =>
      rw [gbkToUtf8, if_neg hc]
      exact hdouble cl _

/-- **The escapes of the displayed form.** The recursion takes both bytes of an escape at once, as
`remove_escape_character` does. -/
theorem escapes_gbkToUtf8 (htbl : TableOk tbl) (t : List UInt8) (hnul : 0 ∉ t) :
    escapes (gbkToUtf8 tbl t) = shownEscapes t := by
  have hdouble : ∀ (ch cl : UInt8) (t : List UInt8),
      escapes (unicodeToUtf8 (gbkToUnicode tbl ch cl).toNat ++ t) = escapes t := by
    intro ch cl t
    obtain ⟨x, u, hu, hinert⟩ := unicodeToUtf8_inert (gbkToUnicode_ok htbl ch cl)
    rw [hu]
    exact escapes_inert hinert t
  match t with
  | [] => rfl
  | [b] =>
    by_cases hb : b < 0x80
    · rw [gbkToUtf8_low hb fun h0 => hnul (h0 ▸ List.mem_cons_self)]
      rfl
    · rw [gbkToUtf8, if_neg hb, ← List.append_nil (unicodeToUtf8 _)]
      exact hdouble b 0 []
  | b :: c :: rest =>
    rw [List.mem_cons, List.mem_cons, not_or, not_or] at hnul
    by_cases hb : b < 0x80
    · have hcnul : 0 ∉ c :: rest := by
        rw [List.mem_cons, not_or]
        exact hnul.2
      rw [gbkToUtf8_low hb fun h0 => hnul.1 h0.symm, shownEscapes, if_pos hb]
      by_cases hbc : b = bslash ∧ (c = bslash ∨ c = quote)
      · -- an escape is copied as it is
        have hc : c < 0x80 := by rcases hbc.2 with rfl | rfl <;> decide
        rw [gbkToUtf8_low hc fun h0 => hnul.2.1 h0.symm, escapes, if_pos hbc, if_pos hbc,
          escapes_gbkToUtf8 htbl rest hnul.2.2]
      · have hhead : b = bslash → ∀ d ∈ (gbkToUtf8 tbl (c :: rest)).head?,
            d ≠ bslash ∧ d ≠ quote := fun hbs =>
          gbkToUtf8_head htbl (fun h0 => hnul.2.1 h0.symm)
            ⟨fun h => hbc ⟨hbs, .inl h⟩, fun h => hbc ⟨hbs, .inr h⟩⟩
        rw [escapes_cons hhead, if_neg hbc, escapes_gbkToUtf8 htbl (c :: rest) hcnul]
    · rw [gbkToUtf8, if_neg hb, shownEscapes, if_neg hb, hdouble,
        escapes_gbkToUtf8 htbl rest hnul.2.2]

/-- A name loses no more bytes than it gains. -/
def NameFits (tbl : Fin 24080 → UInt16) (b : List UInt8) : Prop :=
  tally lost b + shownEscapes b ≤ tally (gained tbl) b + escapes b

instance (b : List UInt8) : Decidable (NameFits tbl b) :=
  inferInstanceAs (Decidable (_ ≤ _))

/-- **The GBK form is not longer** exactly for such names. -/
theorem removeEscape_gbk_length (htbl : GapsAtDel tbl) {t : List UInt8} (hnul : 0 ∉ t) :
    (removeEscapeCharacter t).length ≤ (removeEscapeCharacter (gbkToUtf8 tbl t)).length ↔
      NameFits tbl t := by
  have hlen := length_gbkToUtf8 htbl hnul
  have hori := length_removeEscape t
  have hutf8 := length_removeEscape (gbkToUtf8 tbl t)
  rw [escapes_gbkToUtf8 htbl.tableOk t hnul] at hutf8
  rw [NameFits]
  omega

/-! ## Names that fit -/

/-- The name of an SSID of at most 32 bytes goes into a list, in front of all others. -/
theorem encodeGbkInsert_name (htbl : TableOk tbl) (head : List GbkEntry) {b : List UInt8}
    (hlen : 1 ≤ b.length ∧ b.length ≤ 32) (hnul : 0 ∉ b) :
    encodeGbkInsert head (removeEscapeCharacter b) (removeEscapeCharacter (gbkToUtf8 tbl b))
      = ⟨removeEscapeCharacter b, removeEscapeCharacter (gbkToUtf8 tbl b)⟩ :: head := by
  have hne : b ≠ [] := List.ne_nil_of_length_pos hlen.1
  have hori := (removeEscape_sublist b).length_le
  have hutf8 := (removeEscape_sublist (gbkToUtf8 tbl b)).length_le
  have hwidth : (gbkToUtf8 tbl b).length ≤ b.length + 2 * b.countP fun b => !printable b :=
    gbkToUtf8_length_le tbl b
  have hcount : (b.countP fun b => !printable b) ≤ b.length := List.countP_le_length
  rw [encodeGbkInsert, if_neg, if_neg (by omega)]
  rw [removeEscape_eq_nil_iff, removeEscape_eq_nil_iff]
  exact not_or.mpr ⟨hne, gbkToUtf8_ne_nil htbl hne hnul⟩

theorem getEncodeGbkOri_head (e : GbkEntry) (head : List GbkEntry) :
    getEncodeGbkOri (e :: head) e.utf8 = e.ori := by
  rw [getEncodeGbkOri, List.find?_cons_of_pos (by simp)]

end

/-- **One name.** An SSID is found under its displayed name, and its bytes fit exactly if its double
bytes lose no more than they gain, each form counted without its escapes. -/
theorem ori_fits_iff (head : List GbkEntry) {b : List UInt8}
    (hlen : 1 ≤ b.length ∧ b.length ≤ 32) (hnul : 0 ∉ b) :
    OriFits
      (encodeGbkInsert head (removeEscapeCharacter b)
        (removeEscapeCharacter (gbkToUtf8 mbGb2uniTable b)))
      (removeEscapeCharacter (gbkToUtf8 mbGb2uniTable b)) ↔
    tally lost b + shownEscapes b ≤ tally (gained mbGb2uniTable) b + escapes b := by
  rw [encodeGbkInsert_name gapsAtDel_mbGb2uniTable.tableOk head hlen hnul, oriFits_iff]
  exact (Iff.of_eq (congrArg (·.length ≤ _) (getEncodeGbkOri_head ⟨_, _⟩ head))).trans
    (removeEscape_gbk_length gapsAtDel_mbGb2uniTable hnul)

/-- A gap, which is `?`, and a character of three bytes behind it. -/
theorem ori_fits_gap_wide : rkEncodeIsUtf8 [0x81, 0x7f, 0xb0, 0xa1] = false ∧ OriFits
    (encodeGbkInsert [] (removeEscapeCharacter [0x81, 0x7f, 0xb0, 0xa1])
      (removeEscapeCharacter (gbkToUtf8 mbGb2uniTable [0x81, 0x7f, 0xb0, 0xa1])))
    (removeEscapeCharacter (gbkToUtf8 mbGb2uniTable [0x81, 0x7f, 0xb0, 0xa1])) :=
  ⟨by decide, (ori_fits_iff [] (by decide) (by decide)).mpr (by decide +kernel)⟩

/-- **A gap.** The SSID 0x81 0x7F is displayed as `?`, and its two bytes do not fit. -/
theorem gap_overruns : ¬ ∀ (head : List GbkEntry) (b : List UInt8),
    1 ≤ b.length ∧ b.length ≤ 32 → 0 ∉ b → rkEncodeIsUtf8 b = false →
    OriFits
      (encodeGbkInsert head (removeEscapeCharacter b)
        (removeEscapeCharacter (gbkToUtf8 mbGb2uniTable b)))
      (removeEscapeCharacter (gbkToUtf8 mbGb2uniTable b)) := by
  intro h
  have hfits := h [] [0x81, 0x7f] (by decide) (by decide) (by decide)
  have hentry : gbkToUnicode mbGb2uniTable 0x81 0x7f = 0x3f :=
    gbkToUnicode_gap gapsAtDel_mbGb2uniTable 0x81 0x7f
  have hname : gbkToUtf8 mbGb2uniTable [0x81, 0x7f] = [63] := by
    show unicodeToUtf8 (gbkToUnicode mbGb2uniTable 0x81 0x7f).toNat ++ [] = [63]
    rw [hentry]
    rfl
  rw [hname] at hfits
  exact absurd (oriFits_iff.mp hfits) (by decide)

/-! ## After a scan -/

/-- Every entry was made from some text that fits. -/
def Listed (tbl : Fin 24080 → UInt16) (head : List GbkEntry) : Prop :=
  ∀ e ∈ head, ∃ dst, 0 ∉ dst ∧ NameFits tbl dst ∧ e.ori = removeEscapeCharacter dst ∧
    e.utf8 = removeEscapeCharacter (if rkEncodeIsUtf8 dst then dst else gbkToUtf8 tbl dst)

section

variable {tbl : Fin 24080 → UInt16}

/-- With such a list every name fits, listed or not. -/
theorem Listed.oriFits (htbl : GapsAtDel tbl) {head : List GbkEntry} (h : Listed tbl head)
    (ssid : List UInt8) : OriFits head ssid := by
  rw [oriFits_iff, getEncodeGbkOri]
  cases hfind : head.find? fun gbk => gbk.utf8 == ssid with
  | none => exact Nat.le_refl _
  | some e =>
    obtain ⟨dst, hnul, hfits, hori, hutf8⟩ := h e (List.mem_of_find?_eq_some hfind)
    obtain rfl : e.utf8 = ssid := by simpa using List.find?_some hfind
    simp only [hori, hutf8]
    split_ifs
    · exact Nat.le_refl _
    · exact (removeEscape_gbk_length htbl hnul).mpr hfits

theorem eq_or_mem_of_mem_insert {e : GbkEntry} {head : List GbkEntry} {ori utf8 : List UInt8}
    (h : e ∈ encodeGbkInsert head ori utf8) : e = ⟨ori, utf8⟩ ∨ e ∈ head := by
  rw [encodeGbkInsert] at h
  split_ifs at h
  · exact .inr h
  · exact .inr h
  · exact List.mem_cons.mp h

theorem Listed.insert {head : List GbkEntry} (h : Listed tbl head) {dst : List UInt8}
    (hnul : 0 ∉ dst) (hfits : NameFits tbl dst) :
    Listed tbl (encodeGbkInsert head (removeEscapeCharacter dst)
      (removeEscapeCharacter (if rkEncodeIsUtf8 dst then dst else gbkToUtf8 tbl dst))) := by
  intro e he
  rcases eq_or_mem_of_mem_insert he with rfl | he
  · exact ⟨dst, hnul, hfits, rfl, rfl⟩
  · exact h e he

/-- Both lists are such lists. -/
def Heads.Listed (tbl : Fin 24080 → UInt16) (heads : Heads) : Prop :=
  Wifi.Listed tbl heads.gbk ∧ Wifi.Listed tbl heads.nonpsk

/-- One access point. -/
theorem Heads.Listed.ssidHeads {heads : Heads} (h : heads.Listed tbl) (ap : ScanAp)
    (hfits : NameFits tbl (listedBytes ap.column)) :
    (Wifi.ssidHeads tbl ap.column ap.isOpen heads).Listed tbl := by
  have hins := fun {head : List GbkEntry} (hl : Wifi.Listed tbl head) =>
    hl.insert ap.noNul_listed hfits
  rw [Wifi.ssidHeads, ssidUtf8_eq tbl ap.tokOk_column]
  constructor
  · show Wifi.Listed tbl (if _ then _ else _)
    split_ifs with hutf8
    · exact h.1
    · have := hins h.1
      rwa [if_neg hutf8] at this
  · show Wifi.Listed tbl (if _ then _ else _)
    split
    · exact hins h.2
    · exact h.2

/-- **A whole scan.** If every SSID of the listing fits, then after the scan every name fits with
either list. -/
theorem scan_ori_fits (htbl : GapsAtDel tbl) {cols : Nat} (hcols : cols &&& 0x1F ≠ 0)
    (L : ScanListing) (hfits : ∀ ap ∈ L.aps, NameFits tbl (listedBytes ap.column))
    (heads : Heads) {fuel : Nat} (hfuel : L.text.length < fuel) :
    ∃ r heads', rkWifiScanRSec tbl cols fuel heads (some L.text) = .done (r, heads') ∧
      ∀ ssid, OriFits heads'.gbk ssid ∧ OriFits heads'.nonpsk ssid := by
  obtain ⟨r, hscan⟩ := scan_lists tbl hcols L heads hfuel
  refine ⟨r, _, hscan, fun ssid => ?_⟩
  have hlisted : (L.heads tbl cols).Listed tbl := by
    refine List.foldlRecOn L.aps _ (motive := Heads.Listed tbl) ?_ ?_
    · constructor <;> (intro e he; cases he)
    · intro heads hheads ap hap
      split_ifs
      · exact hheads.ssidHeads ap (hfits ap hap)
      · exact hheads
  exact ⟨hlisted.1.oriFits htbl ssid, hlisted.2.oriFits htbl ssid⟩

end

end ConnectApp.Wifi
