import ConnectApp.Lib.Json
import ConnectApp.Wifi.EscapeBounds
import ConnectApp.Wifi.Scan

/-!
# The SSID column of a scan as a JSON string (Rk_wifi.c:1453-1495)

The scan prints an SSID between two quotes of its JSON text after expanding the hex
escapes and, if the result is not UTF-8, converting it from GBK. Three facts about the
printed text, for every SSID:

- `ssidUtf8_encoded_length_le`: it is short enough for the column buffer;
- `bodyRun_gbk`: whether it is a JSON string body can be told from the bytes of the
  column, a double byte counting as one character;
- `apart_listed`, `apart_gbk`: between any two of its quotes stands a byte that JSON
  allows only inside strings, so a string closed too early is never mended.
-/

namespace ConnectApp.Wifi

open CString ConnectApp.Encode

/-! ## The bytes an SSID column stands for -/

/-- The bytes of an SSID column, each `\\xHH` read as one byte, up to a zero byte. -/
def listedBytes : List UInt8 → List UInt8
  | [] => []
  | [b] => [b]
  | b :: c :: rest =>
    if b = bslash ∧ c = lowerX then
      match rest with
      | h :: l :: rest' =>
        if strtoul16 h l = 0 then [] else strtoul16 h l :: listedBytes rest'
      | _ => []
    else b :: listedBytes (c :: rest)

/-- A byte from 0x80 on and its successor taken as one character. -/
def pairUp : List UInt8 → List UInt8
  | [] => []
  | [b] => [b]
  | b :: c :: rest => if b < 0x80 then b :: pairUp (c :: rest) else b :: pairUp rest

/-- The characters of a column: its bytes if they are UTF-8, else double bytes. -/
def shownChars (bytes : List UInt8) : List UInt8 :=
  if rkEncodeIsUtf8 bytes then bytes else pairUp bytes

theorem listed_cons {b : UInt8} {t : List UInt8} (h : ¬ (b = bslash ∧ t.head? = some lowerX)) :
    listedBytes (b :: t) = b :: listedBytes t := by
  cases t with
  | nil => rfl
  | cons c t =>
    have hbc : ¬ (b = bslash ∧ c = lowerX) := fun hc => h ⟨hc.1, by rw [hc.2]; rfl⟩
    conv_lhs => rw [listedBytes.eq_def]
    exact if_neg hbc

theorem listed_hex (h l : UInt8) (t : List UInt8) :
    listedBytes (bslash :: lowerX :: h :: l :: t)
      = if strtoul16 h l = 0 then [] else strtoul16 h l :: listedBytes t := by
  rw [listedBytes.eq_def]
  exact if_pos ⟨rfl, rfl⟩

theorem listed_short {rest : List UInt8} (h : rest.length < 2) :
    listedBytes (bslash :: lowerX :: rest) = [] := by
  match rest, h with
  | [], _ => rfl
  | [_], _ => rfl

/-- `spec_char_convers` reads the column's bytes. -/
theorem listed_of_specChar {t o : List UInt8} (ht : 0 ∉ t) (h : specCharConvers t = some o) :
    cstr o = listedBytes t := by
  induction t using specCharConvers.induct generalizing o with
  | case1 =>
    cases h
    rfl
  | case2 b =>
    cases h
    exact cstr_eq_self ht
  | case3 b c hbc x l rest ih =>
    rw [hbc.1, hbc.2, specChar_hex] at h
    obtain ⟨o', ho', rfl⟩ := Option.map_eq_some_iff.mp h
    rw [hbc.1, hbc.2, listed_hex]
    split_ifs with hz
    · rw [hz, cstr_cons_zero]
    · rw [cstr_cons_of_ne hz, ih (fun h0 => ht (by simp [h0])) ho']
  | case4 b c rest hbc hrest =>
    rw [hbc.1, hbc.2, specChar_short (length_lt_two hrest)] at h
    cases h
  | case5 b c rest hbc ih =>
    have hcons : ¬ (b = bslash ∧ (c :: rest).head? = some lowerX) := by simpa using hbc
    rw [specChar_cons hcons] at h
    obtain ⟨o', ho', rfl⟩ := Option.map_eq_some_iff.mp h
    rw [listed_cons hcons, cstr_cons_of_ne fun h0 => ht (h0 ▸ List.mem_cons_self ..),
      ih (fun h0 => ht (List.mem_cons_of_mem _ h0)) ho']

theorem ssidUtf8_eq (tbl : Fin 24080 → UInt16) {tok : List UInt8} (h : TokOk tok) :
    ssidUtf8 tbl tok =
      if rkEncodeIsUtf8 (listedBytes tok) then listedBytes tok
      else gbkToUtf8 tbl (listedBytes tok) := by
  have hnul : 0 ∉ tok := fun h0 => by
    have := h.printable 0 h0
    cases this
  obtain ⟨buf, hbuf⟩ := Option.isSome_iff_exists.mp h.expands
  unfold ssidUtf8
  rw [hbuf, ← listed_of_specChar hnul hbuf]

theorem listed_ne_zero {t : List UInt8} (ht : 0 ∉ t) : 0 ∉ listedBytes t := by
  induction t using listedBytes.induct with
  | case1 => exact ht
  | case2 b => exact ht
  | case3 b c hbc x l rest hz =>
    rw [hbc.1, hbc.2, listed_hex, if_pos hz]
    simp
  | case4 b c hbc x l rest hz ih =>
    rw [hbc.1, hbc.2, listed_hex, if_neg hz, List.mem_cons, not_or]
    exact ⟨fun h => hz h.symm, ih fun h0 => ht (by simp [h0])⟩
  | case5 b c rest hbc hrest =>
    rw [hbc.1, hbc.2, listed_short (length_lt_two hrest)]
    simp
  | case6 b c rest hbc ih =>
    rw [listed_cons (by simpa using hbc), List.mem_cons, not_or]
    exact ⟨fun h => ht (h ▸ List.mem_cons_self ..), ih fun h0 => ht (List.mem_cons_of_mem _ h0)⟩

/-! ## Quotes of a column -/

/-- A hex escape as `printf_encode` writes it: two digits of a byte that is not
printable. -/
def Genuine (t : List UInt8) : Prop :=
  ∃ h l r, t = lowerX :: h :: l :: r ∧ (hexValue h).isSome ∧ (hexValue l).isSome ∧
    printable (strtoul16 h l) = false

/-- How quotes and hex escapes stand in an encoded text, `pb` saying that a backslash
comes before it: a quote follows a backslash, and so does a hex escape that is not
genuine. -/
def EscText : Bool → List UInt8 → Prop
  | _, [] => True
  | pb, c :: t =>
    (c = quote → pb = true) ∧ (c = bslash → t.head? = some lowerX → pb = true ∨ Genuine t) ∧
      EscText (c = bslash) t

theorem escText_encByte (b : UInt8) {t : List UInt8} (h : ∀ pb, EscText pb t) (pb : Bool) :
    EscText pb (encByte b ++ t) := by
  have hqb : ¬ bslash = quote := by decide
  have hv := encByte_view b
  generalize encByte b = e at hv
  cases hv with
  | quoted hb =>
    refine ⟨fun hq => absurd hq hqb, fun _ hx => ?_, fun _ => by simp, fun _ _ => .inl (by simp),
      h _⟩
    have hbx : b = lowerX := by simpa using hx
    subst hbx
    exact absurd hb (by decide)
  | letter c hb hc =>
    obtain ⟨h1, h2, h3, -⟩ := letter_ne c hc
    exact ⟨fun hq => absurd hq hqb, fun _ hx => absurd (Option.some.inj hx) h3,
      fun hq => absurd hq h2, fun hq => absurd hq h1, h _⟩
  | plain hp hq hs =>
    exact ⟨fun hc => absurd hc hq, fun hc => absurd hc hs, h _⟩
  | hex a l hp hl hv ha hl' =>
    obtain ⟨-, ha1, ha2⟩ := hexValue_isSome a ha
    obtain ⟨-, hl1, hl2⟩ := hexValue_isSome l hl'
    have hgen : Genuine (lowerX :: a :: l :: t) := ⟨a, l, t, rfl, ha, hl', by rw [hv]; exact hp⟩
    exact ⟨fun hq => absurd hq hqb, fun _ _ => .inr hgen, fun hq => absurd hq (by decide),
      fun hq => absurd hq (by decide), fun hq => absurd hq ha1, fun hq => absurd hq ha2,
      fun hq => absurd hq hl1, fun hq => absurd hq hl2, h _⟩

theorem escText_printfEncode (s : List UInt8) (pb : Bool) : EscText pb (printfEncode s) := by
  induction s generalizing pb with
  | nil => trivial
  | cons b s ih => exact escText_encByte b ih pb

theorem strtoul16_quote : ∀ h l, strtoul16 h l = quote → l ≠ bslash := by
  rintro h l hq rfl
  revert hq
  revert h
  decide +kernel

/-- Between two quotes of a column's bytes there is a backslash. -/
theorem apart_listed {t : List UInt8} {pb seen : Bool} (ht : EscText pb t)
    (hseen : pb = true → seen = true) : Json.apart seen (listedBytes t) = true := by
  have hstr : Json.strange bslash = true := by decide
  induction t using listedBytes.induct generalizing pb seen with
  | case1 => rfl
  | case2 b =>
    rw [listedBytes, Json.apart]
    split_ifs with hb
    · rw [hseen (ht.1 hb)]
      rfl
    · rfl
  | case3 b c hbc x l rest hz =>
    rw [hbc.1, hbc.2, listed_hex, if_pos hz]
    rfl
  | case4 b c hbc x l rest hz ih =>
    obtain ⟨rfl, rfl⟩ := hbc
    rw [listed_hex, if_neg hz, Json.apart]
    obtain ⟨-, hhex, -, -, -, -, -, -, hrest⟩ := ht
    -- only an escape behind a backslash can hold a quote or swallow a backslash
    have hlit : (strtoul16 x l = quote ∨ l = bslash) → seen = true := by
      intro hq
      rcases hhex rfl rfl with hpb | ⟨a, m, r, hr, ha, hm, hp⟩
      · exact hseen hpb
      · simp only [List.cons.injEq, true_and] at hr
        obtain ⟨rfl, rfl, rfl⟩ := hr
        rcases hq with hq | rfl
        · rw [hq] at hp
          exact absurd hp (by decide)
        · cases hm
    split_ifs with hq
    · rw [hlit (.inl hq), Bool.true_and]
      refine ih hrest fun hl => ?_
      exact absurd (of_decide_eq_true hl) (strtoul16_quote x l hq)
    · refine ih hrest fun hl => ?_
      rw [hlit (.inr (of_decide_eq_true hl))]
      rfl
  | case5 b c rest hbc hrest =>
    rw [hbc.1, hbc.2, listed_short (length_lt_two hrest)]
    rfl
  | case6 b c rest hbc ih =>
    rw [listed_cons (by simpa using hbc), Json.apart]
    obtain ⟨hquote, -, hrest⟩ := ht
    split_ifs with hb
    · rw [hseen (hquote hb), Bool.true_and]
      refine ih hrest fun hs => ?_
      rw [hb] at hs
      cases hs
    · refine ih hrest fun hs => ?_
      rw [of_decide_eq_true hs, hstr, Bool.or_true]

/-! ## How long a column can get -/

/-- The number of `\\x` in a text. -/
def hexMarks : List UInt8 → Nat
  | [] => 0
  | b :: t => (if b = bslash ∧ t.head? = some lowerX then 1 else 0) + hexMarks t

theorem hexMarks_cons_of_ne {b : UInt8} (h : b ≠ bslash) (t : List UInt8) :
    hexMarks (b :: t) = hexMarks t := by
  rw [hexMarks, if_neg fun hc => h hc.1, Nat.zero_add]

theorem hexMarks_le_length (t : List UInt8) : hexMarks t ≤ t.length := by
  induction t with
  | nil => exact Nat.le_refl 0
  | cons b t ih =>
    rw [hexMarks, List.length_cons]
    split <;> omega

theorem hexMarks_cons_le (b : UInt8) (t : List UInt8) : hexMarks t ≤ hexMarks (b :: t) := by
  rw [hexMarks]
  omega

/-- Each hex escape saves a character, and swallows at most one other `\\x`. -/
theorem shownWidth_listed_le {t : List UInt8} (ht : ∀ b ∈ t, printable b = true) :
    2 * shownWidth (listedBytes t) + hexMarks t ≤ 2 * t.length := by
  have hone : ∀ {b : UInt8} (o : List UInt8), printable b = true →
      shownWidth (b :: o) = shownWidth o + 1 := by
    intro b o hb
    rw [shownWidth_cons, if_pos hb]
  have hthree : ∀ (b : UInt8) (o : List UInt8), shownWidth (b :: o) ≤ shownWidth o + 3 := by
    intro b o
    rw [shownWidth_cons]
    split <;> omega
  -- of the two characters an escape takes, only one can start another `\x`
  have hmarks : ∀ (x l : UInt8) (rest : List UInt8),
      hexMarks (bslash :: lowerX :: x :: l :: rest) ≤ hexMarks rest + 2 := by
    intro x l rest
    rw [hexMarks, hexMarks_cons_of_ne (by decide), hexMarks, hexMarks]
    by_cases hx : x = bslash ∧ (l :: rest).head? = some lowerX
    · have hl : ¬ (l = bslash ∧ rest.head? = some lowerX) := by
        rintro ⟨rfl, -⟩
        exact absurd (Option.some.inj hx.2) (by decide)
      rw [if_pos hx, if_neg hl]
      split <;> omega
    · rw [if_neg hx]
      split <;> split <;> omega
  induction t using listedBytes.induct with
  | case1 => simp [listedBytes, shownWidth, hexMarks]
  | case2 b =>
    rw [listedBytes, hone [] (ht b (by simp))]
    simp [shownWidth, hexMarks]
  | case3 b c hbc x l rest hz =>
    rw [hbc.1, hbc.2, listed_hex, if_pos hz]
    have := hexMarks_le_length (bslash :: lowerX :: x :: l :: rest)
    simp only [shownWidth, List.length_nil, List.countP_nil]
    omega
  | case4 b c hbc x l rest hz ih =>
    obtain ⟨rfl, rfl⟩ := hbc
    have ih := ih fun b hb => ht b (by simp [hb])
    rw [listed_hex, if_neg hz]
    have := hthree (strtoul16 x l) (listedBytes rest)
    have := hmarks x l rest
    simp only [List.length_cons]
    omega
  | case5 b c rest hbc hrest =>
    rw [hbc.1, hbc.2, listed_short (length_lt_two hrest)]
    have := hexMarks_le_length (bslash :: lowerX :: rest)
    simp only [shownWidth, List.length_nil, List.countP_nil]
    omega
  | case6 b c rest hbc ih =>
    have hcons : ¬ (b = bslash ∧ (c :: rest).head? = some lowerX) := by simpa using hbc
    have ih := ih fun b hb => ht b (List.mem_cons_of_mem _ hb)
    rw [listed_cons hcons, hone _ (ht b (by simp)), hexMarks, if_neg hcons]
    simp only [List.length_cons] at ih ⊢
    omega

theorem length_printfEncode_le (s : List UInt8) :
    2 * (printfEncode s).length ≤ 7 * s.length + hexMarks (printfEncode s) := by
  induction s with
  | nil => simp [printfEncode, hexMarks]
  | cons b s ih =>
    change 2 * (encByte b ++ printfEncode s).length
      ≤ 7 * (s.length + 1) + hexMarks (encByte b ++ printfEncode s)
    have hv := encByte_view b
    generalize encByte b = e at hv
    cases hv with
    | quoted hb =>
      show 2 * ((printfEncode s).length + 2) ≤ 7 * (s.length + 1)
        + hexMarks (bslash :: b :: printfEncode s)
      have := hexMarks_cons_le bslash (b :: printfEncode s)
      have := hexMarks_cons_le b (printfEncode s)
      omega
    | letter c hb hc =>
      show 2 * ((printfEncode s).length + 2) ≤ 7 * (s.length + 1)
        + hexMarks (bslash :: c :: printfEncode s)
      have := hexMarks_cons_le bslash (c :: printfEncode s)
      have := hexMarks_cons_le c (printfEncode s)
      omega
    | plain hp =>
      show 2 * ((printfEncode s).length + 1) ≤ 7 * (s.length + 1)
        + hexMarks (b :: printfEncode s)
      have := hexMarks_cons_le b (printfEncode s)
      omega
    | hex a l =>
      show 2 * ((printfEncode s).length + 4) ≤ 7 * (s.length + 1)
        + hexMarks (bslash :: lowerX :: a :: l :: printfEncode s)
      rw [hexMarks, if_pos ⟨rfl, rfl⟩]
      have := hexMarks_cons_le lowerX (a :: l :: printfEncode s)
      have := hexMarks_cons_le a (l :: printfEncode s)
      have := hexMarks_cons_le l (printfEncode s)
      omega

theorem shownWidth_encoded_le {s : List UInt8} (hs : s.length ≤ 32) :
    shownWidth (listedBytes (printfEncode s)) ≤ 112 := by
  have hw := shownWidth_listed_le (printfEncode_printable s)
  have hlen := length_printfEncode_le s
  omega

/-- The converted SSID fits into `col[128]` with its label. -/
theorem ssidUtf8_encoded_length_le (tbl : Fin 24080 → UInt16) {s : List UInt8}
    (hs : s.length ≤ 32) (h : TokOk (printfEncode s)) :
    (ssidUtf8 tbl (printfEncode s)).length ≤ 112 := by
  refine le_trans ?_ (shownWidth_encoded_le hs)
  rw [ssidUtf8_eq tbl h]
  split_ifs
  · exact Nat.le_add_right _ _
  · exact gbkToUtf8_length_le tbl _

/-! ## The converter and JSON strings -/

/-- The entries that `gbk_to_unicode` can reach are `?` or no ASCII. -/
def TableOk (tbl : Fin 24080 → UInt16) : Prop :=
  ∀ i : Fin 24080, i.val ≤ 0x7d * 0xbf + 0xbe → tbl i = 0x3f ∨ 0x80 ≤ tbl i

/-- What `mb_gb2uni_table` holds there: `?` for the second byte 0x7F, and no ASCII for any other. -/
def GapsAtDel (tbl : Fin 24080 → UInt16) : Prop :=
  ∀ i : Fin 24080, i.val ≤ 0x7d * 0xbf + 0xbe →
    if i.val % 0xbf = 0x3f then tbl i = 0x3f else 0x80 ≤ tbl i

theorem GapsAtDel.tableOk {tbl : Fin 24080 → UInt16} (h : GapsAtDel tbl) : TableOk tbl := by
  intro i hi
  have := h i hi
  split_ifs at this
  · exact .inl this
  · exact .inr this

/-- The table of the source is of this kind. -/
theorem gapsAtDel_mbGb2uniTable : GapsAtDel mbGb2uniTable := mbGb2uniTable_gaps

/-- A byte that stands for itself in a string and cannot stand outside of one. -/
def inert (b : UInt8) : Bool := 0x80 ≤ b || b = 63

theorem gbkToUnicode_ok {tbl : Fin 24080 → UInt16} (htbl : TableOk tbl) (ch cl : UInt8) :
    gbkToUnicode tbl ch cl = 0x3f ∨ 0x80 ≤ gbkToUnicode tbl ch cl := by
  unfold gbkToUnicode
  split_ifs with h
  · refine htbl _ ?_
    have h1 : (ch - 0x81).toNat ≤ 0x7d := h.1
    have h2 : (cl - 0x40).toNat ≤ 0xbe := h.2
    show (ch - 0x81).toNat * 0xbf + (cl - 0x40).toNat ≤ _
    omega
  · exact .inr (by decide)

/-- A double byte becomes inert bytes, at least one. -/
theorem unicodeToUtf8_inert {u : UInt16} (h : u = 0x3f ∨ 0x80 ≤ u) :
    ∃ b t, unicodeToUtf8 u.toNat = b :: t ∧ ∀ c ∈ b :: t, inert c = true := by
  have hlead2 : ∀ n, n < 0x20 → inert (UInt8.ofNat (0xC0 ||| n)) = true := by decide
  have hlead3 : ∀ n, n < 0x10 → inert (UInt8.ofNat (0xE0 ||| n)) = true := by decide
  have htail : ∀ n, n < 0x40 → inert (UInt8.ofNat (0x80 ||| n)) = true := by decide
  rcases h with rfl | h
  · exact ⟨63, [], rfl, by simp [inert]⟩
  · have hle : 0x80 ≤ u.toNat := h
    have hlt : u.toNat < 0x10000 := u.toNat_lt
    have hlow : u.toNat &&& 0x3F < 0x40 := Nat.and_lt_two_pow (n := 6) _ (by omega)
    have hmid : u.toNat >>> 6 &&& 0x3F < 0x40 := Nat.and_lt_two_pow (n := 6) _ (by omega)
    have hhigh2 : u.toNat >>> 6 &&& 0x1F < 0x20 := Nat.and_lt_two_pow (n := 5) _ (by omega)
    have hhigh3 : u.toNat >>> 12 &&& 0x0F < 0x10 := Nat.and_lt_two_pow (n := 4) _ (by omega)
    unfold unicodeToUtf8
    rw [if_neg (by omega)]
    split_ifs
    · refine ⟨_, _, rfl, ?_⟩
      simp only [List.forall_mem_cons]
      exact ⟨hlead2 _ hhigh2, htail _ hlow, by simp⟩
    · refine ⟨_, _, rfl, ?_⟩
      simp only [List.forall_mem_cons]
      exact ⟨hlead3 _ hhigh3, htail _ hmid, htail _ hlow, by simp⟩

/-- What an inert byte is to JSON. -/
theorem inert_json : ∀ b, inert b = true →
    (Json.strStep .plain b = some .plain ∧ Json.strStep .esc b = none ∧ Json.isHex b = false) ∧
      Json.strange b = true ∧ b ≠ 34 := by
  decide +kernel

theorem strStep_inert {b : UInt8} (h : inert b = true) (m : Json.StrMode) :
    Json.strStep m b = if m = .plain then some .plain else none := by
  obtain ⟨⟨hplain, hesc, hhex⟩, -⟩ := inert_json b h
  cases m with
  | plain => exact hplain
  | esc => exact hesc
  | hex k =>
    cases k with
    | zero =>
      rw [Json.strStep, hhex]
      rfl
    | succ k =>
      rw [Json.strStep, hhex]
      rfl

/-- A run of inert bytes is read like one of them. -/
theorem bodyRun_inert {b c : UInt8} {t : List UInt8} (hb : ∀ d ∈ b :: t, inert d = true)
    (hc : inert c = true) (m : Json.StrMode) (rest : List UInt8) :
    Json.bodyRun m (b :: t ++ rest) = Json.bodyRun m (c :: rest) := by
  have hplain : ∀ t : List UInt8, (∀ d ∈ t, inert d = true) →
      Json.bodyRun .plain (t ++ rest) = Json.bodyRun .plain rest := by
    intro t ht
    induction t with
    | nil => rfl
    | cons d t ih =>
      rw [List.cons_append, Json.bodyRun, strStep_inert (ht d (List.mem_cons_self ..)), if_pos rfl]
      exact ih fun e he => ht e (List.mem_cons_of_mem _ he)
  rw [List.cons_append, Json.bodyRun, Json.bodyRun, strStep_inert (hb b (List.mem_cons_self ..)),
    strStep_inert hc]
  split_ifs
  · exact hplain t fun d hd => hb d (List.mem_cons_of_mem _ hd)
  · rfl

theorem inert_of_high {b : UInt8} (h : ¬ b < 0x80) : inert b = true := by
  simp [inert, UInt8.not_lt.mp h]

/-- The converted text is a string body exactly when the double bytes, taken as
characters, are. -/
theorem bodyRun_gbk {tbl : Fin 24080 → UInt16} (htbl : TableOk tbl) {s : List UInt8}
    (hs : 0 ∉ s) (m : Json.StrMode) :
    Json.bodyRun m (gbkToUtf8 tbl s) = Json.bodyRun m (pairUp s) := by
  induction s using gbkToUtf8.induct generalizing m with
  | case1 => rfl
  | case2 b hb =>
    rw [gbkToUtf8, if_pos hb, unicodeToUtf8_self hb (by simpa [eq_comm] using hs), pairUp]
  | case3 b hb =>
    obtain ⟨c, t, hu, hin⟩ := unicodeToUtf8_inert (gbkToUnicode_ok htbl b 0)
    have hrun := bodyRun_inert hin (inert_of_high hb) m []
    rw [List.append_nil] at hrun
    rw [gbkToUtf8, if_neg hb, hu, hrun, pairUp]
  | case4 b c rest hb ih =>
    rw [List.mem_cons, not_or] at hs
    rw [gbkToUtf8, if_pos hb, unicodeToUtf8_self hb fun h => hs.1 h.symm, pairUp, if_pos hb,
      List.singleton_append, Json.bodyRun, Json.bodyRun]
    congr 1
    funext m'
    exact ih hs.2 m'
  | case5 b c rest hb ih =>
    obtain ⟨d, t, hu, hin⟩ := unicodeToUtf8_inert (gbkToUnicode_ok htbl b c)
    rw [gbkToUtf8, if_neg hb, hu, bodyRun_inert hin (inert_of_high hb), pairUp, if_neg hb,
      Json.bodyRun, Json.bodyRun]
    congr 1
    funext m'
    exact ih (fun h0 => hs (by simp [h0])) m'

theorem apart_inert {t : List UInt8} (ht : ∀ d ∈ t, inert d = true) (seen : Bool)
    (rest : List UInt8) (h : Json.apart true rest = true) (hne : seen = true ∨ t ≠ []) :
    Json.apart seen (t ++ rest) = true := by
  induction t generalizing seen with
  | nil =>
    rw [List.nil_append, hne.resolve_right fun h => h rfl]
    exact h
  | cons d t ih =>
    obtain ⟨-, hs, hq⟩ := inert_json d (ht d (List.mem_cons_self ..))
    rw [List.cons_append, Json.apart, if_neg hq, hs, Bool.or_true]
    exact ih (fun e he => ht e (List.mem_cons_of_mem _ he)) true (.inl rfl)

/-- The converter swallows backslashes, but leaves inert bytes in their place. -/
theorem apart_gbk {tbl : Fin 24080 → UInt16} (htbl : TableOk tbl) {s : List UInt8}
    (hs : 0 ∉ s) {seen : Bool} (h : Json.apart seen s = true) :
    Json.apart seen (gbkToUtf8 tbl s) = true := by
  induction s using gbkToUtf8.induct generalizing seen with
  | case1 => rfl
  | case2 b hb =>
    rwa [gbkToUtf8, if_pos hb, unicodeToUtf8_self hb (by simpa [eq_comm] using hs)]
  | case3 b hb =>
    obtain ⟨c, t, hu, hin⟩ := unicodeToUtf8_inert (gbkToUnicode_ok htbl b 0)
    rw [gbkToUtf8, if_neg hb, hu, ← List.append_nil (c :: t)]
    exact apart_inert hin seen [] rfl (.inr (by simp))
  | case4 b c rest hb ih =>
    rw [List.mem_cons, not_or] at hs
    rw [gbkToUtf8, if_pos hb, unicodeToUtf8_self hb fun h => hs.1 h.symm, List.singleton_append]
    rw [Json.apart] at h ⊢
    split_ifs at h ⊢
    · rw [Bool.and_eq_true] at h ⊢
      exact ⟨h.1, ih hs.2 h.2⟩
    · exact ih hs.2 h
  | case5 b c rest hb ih =>
    obtain ⟨d, t, hu, hin⟩ := unicodeToUtf8_inert (gbkToUnicode_ok htbl b c)
    obtain ⟨-, hsb, hqb⟩ := inert_json b (inert_of_high hb)
    have hrest : Json.apart true rest = true := by
      rw [Json.apart, if_neg hqb, hsb, Bool.or_true, Json.apart] at h
      split_ifs at h
      · exact Json.apart_mono (by simpa using h) true
      · simpa using h
    rw [gbkToUtf8, if_neg hb, hu]
    exact apart_inert hin seen _ (ih (fun h0 => hs (by simp [h0])) hrest) (.inr (by simp))

/-! ## UTF-8 names -/

/-- A byte of an SSID in its column once the hex escapes are read. -/
def escapedByte (b : UInt8) : List UInt8 :=
  if b = quote ∨ b = bslash ∨ letterEscaped b = true then encByte b else [b]

/-- Without a literal `\\x` the column stands for the SSID up to its first NUL, with its
quotes, backslashes and four control bytes escaped. -/
theorem listed_printfEncode {s : List UInt8} (h : ¬ [bslash, lowerX] <:+: s) :
    listedBytes (printfEncode s) = (cstr s).flatMap escapedByte := by
  induction s with
  | nil => rfl
  | cons b s ih =>
    rw [List.infix_cons_iff, pair_prefix_iff, not_or] at h
    have ih := ih h.2
    have hhead : (printfEncode s).head? = some lowerX ↔ s.head? = some lowerX :=
      head_flatMap encByte_head s
    -- a NUL ends the column's text: `\\x00` is the only escape that is read as one
    by_cases hb0 : b = 0
    · subst hb0
      rw [cstr_cons_zero]
      show listedBytes (bslash :: lowerX :: 48 :: 48 :: printfEncode s) = []
      rw [listed_hex, if_pos (by decide)]
    rw [cstr_cons_of_ne hb0, List.flatMap_cons]
    show listedBytes (encByte b ++ printfEncode s) = escapedByte b ++ (cstr s).flatMap escapedByte
    have hv := encByte_view b
    unfold escapedByte
    generalize encByte b = e at hv
    cases hv with
    | quoted hb =>
      have hbx : b ≠ lowerX := by
        rintro rfl
        revert hb
        decide
      rw [if_pos (by tauto)]
      show listedBytes (bslash :: b :: printfEncode s) = _
      rw [listed_cons (by simp [hbx]), listed_cons (by rw [hhead]; exact h.1), ih]
      rfl
    | letter c hb hc =>
      obtain ⟨h1, -, h3, -⟩ := letter_ne c hc
      rw [if_pos (.inr (.inr hb))]
      show listedBytes (bslash :: c :: printfEncode s) = _
      rw [listed_cons (by simp [h3]), listed_cons (by simp [h1]), ih]
      rfl
    | plain hp hq hb =>
      rw [if_neg (by simp [hq, hb, not_letterEscaped hp])]
      show listedBytes (b :: printfEncode s) = _
      rw [listed_cons (fun hc => hb hc.1), ih]
      rfl
    | hex a l hp hl hv =>
      have hquote : b ≠ quote := by rintro rfl; cases hp
      have hbslash : b ≠ bslash := by rintro rfl; cases hp
      rw [if_neg (by simp [hquote, hbslash, hl])]
      show listedBytes (bslash :: lowerX :: a :: l :: printfEncode s) = _
      rw [listed_hex, hv, if_neg hb0, ih]
      rfl

theorem utf8Loop_ascii_cons {b : UInt8} (h : b &&& 0x80 = 0) (n : Nat) (t : List UInt8) :
    utf8Loop n (b :: t) = (decide (n = 0) && utf8Loop 0 t) := by
  have hne : b &&& 0xc0 ≠ 0x80 := by
    intro hc
    have hmask : b &&& 0x80 = (b &&& 0xc0) &&& 0x80 := by rw [UInt8.and_assoc]; rfl
    rw [hc, h] at hmask
    cases hmask
  cases n with
  | zero => rw [utf8Loop_ascii h]; rfl
  | succ n =>
    rw [utf8Loop, if_neg fun hc => Nat.succ_ne_zero n hc.1, if_neg fun hc => hne hc.2,
      if_pos ⟨Nat.succ_ne_zero n, hne⟩]
    rfl

/-- Escaping does not change whether a text is UTF-8. -/
theorem utf8Loop_escaped (n : Nat) (s : List UInt8) :
    utf8Loop n (s.flatMap escapedByte) = utf8Loop n s := by
  have hascii : ∀ b, b = quote ∨ b = bslash ∨ letterEscaped b = true →
      b &&& 0x80 = 0 ∧ ∃ c, encByte b = [bslash, c] ∧ c &&& 0x80 = 0 := by
    intro b hb
    have hcases : b = quote ∨ b = bslash ∨ b = 0x1b ∨ b = 0x0a ∨ b = 0x0d ∨ b = 0x09 := by
      simpa [letterEscaped, or_assoc] using hb
    rcases hcases with rfl | rfl | rfl | rfl | rfl | rfl <;>
      exact ⟨by decide, _, rfl, by decide⟩
  induction s generalizing n with
  | nil => rfl
  | cons b s ih =>
    rw [List.flatMap_cons]
    by_cases hb : b = quote ∨ b = bslash ∨ letterEscaped b = true
    · obtain ⟨hb80, c, hc, hc80⟩ := hascii b hb
      rw [show escapedByte b = encByte b from if_pos hb, hc]
      show utf8Loop n (bslash :: c :: s.flatMap escapedByte) = _
      rw [utf8Loop_ascii_cons (by decide), utf8Loop_ascii_cons hc80, utf8Loop_ascii_cons hb80, ih]
      rfl
    · rw [show escapedByte b = [b] from if_neg hb]
      show utf8Loop n (b :: s.flatMap escapedByte) = _
      simp only [utf8Loop, ih]

theorem isUtf8_eq_loop {t : List UInt8} (h : 0 ∉ t) : rkEncodeIsUtf8 t = utf8Loop 0 t := by
  cases t with
  | nil => rfl
  | cons b t =>
    have hb : b ≠ 0 := fun h0 => h (h0 ▸ List.mem_cons_self ..)
    exact if_neg hb

end ConnectApp.Wifi
