import ConnectApp.Encode.GbkTables
import ConnectApp.Wifi.Escape

/-!
# The scan listing (Rk_wifi.c:1259-1520)

`RK_wifi_scan_r_sec` and its copy `RK_wifi_scan_softap` read the listing that
`wpa_cli scan_r` left in a file, split every line with `strtok` and assemble a JSON
text in fixed-size buffers. The two functions differ in the name of one member, so
both are `scanFile` at their own label.

The inner loop has a `continue` that does not fetch the next token (`Pass.again`),
so both loops run on fuel here and a run can end in `outOfFuel`; a write past one of
the buffers `utf8`, `item` and `scan_r`, or a read past the text in
`spec_char_convers`, is a `fault`. `scan_returns` shows that neither happens: the
GBK converter only writes UTF-8, so the loop always advances, and a line of 254
bytes cannot overflow `item`.
-/

namespace ConnectApp.Wifi

open CString ConnectApp.Encode

/-! ## The lists kept from a scan -/

/-- `RK_WIFI_encode_gbk_t`: an SSID as received and as shown. -/
structure GbkEntry where
  ori : List UInt8
  utf8 : List UInt8
  deriving DecidableEq

/-- `encode_gbk_insert` (Rk_wifi.c:71-93). -/
def encodeGbkInsert (head : List GbkEntry) (ori utf8 : List UInt8) : List GbkEntry :=
  if ori = [] ∨ utf8 = [] then head
  else if 128 ≤ ori.length ∨ 128 ≤ utf8.length then head
  else ⟨ori, utf8⟩ :: head

/-- `m_gbk_head` and `m_nonpsk_head`. -/
structure Heads where
  gbk : List GbkEntry
  nonpsk : List GbkEntry
  deriving DecidableEq

/-! ## One token -/

/-- The local state of the inner loop over the tokens of a line. -/
structure LineState where
  index : Nat
  isNonpsk : Bool
  item : List UInt8
  heads : Heads

/-- The state in front of the first line. -/
def LineState.start (heads : Heads) : LineState := ⟨0, false, chars "\x7b", heads⟩

/-- How a pass through the loop body ends: with the next token fetched, at the
`continue` that keeps the token, or in a buffer overrun. -/
inductive Pass (σ : Type)
  | next (st : σ)
  | again (st : σ)
  | fault

section

variable (tbl : Fin 24080 → UInt16) (level : List UInt8) (cols : Nat)

/-- The format of each column, printed into `col[128]`. -/
def columnText (index : Nat) (tok utf8 : List UInt8) : List UInt8 :=
  snprintf 128 <|
    match index with
    | 0 => chars "\"bssid\":\"" ++ tok ++ chars "\","
    | 1 => chars "\"frequency\":" ++ decimal (atoi tok) ++ chars ","
    | 2 => level ++ decimal (atoi tok) ++ chars ","
    | 3 => if cols.testBit 3 then chars "\"flags\":\"" ++ tok ++ chars "\"," else []
    | 4 => chars "\"ssid\":\"" ++ utf8 ++ chars "\","
    | _ => []

/-- The block for `4 == index` up to its `snprintf`: the text in `utf8` and the
two lists. -/
def ssidColumn (tok : List UInt8) (isNonpsk : Bool) (heads : Heads) :
    Pass (List UInt8 × Heads) :=
  if tok = [] then .next ([], heads)
  else
    match specCharConvers tok with
    | none => .fault
    | some buf =>
      let dst := cstr buf
      let utf8 := if rkEncodeIsUtf8 dst then dst else gbkToUtf8 tbl dst
      if tok.length < utf8.length then .fault
      else
        let dstNoescape := removeEscapeCharacter dst
        let utf8Noescape := removeEscapeCharacter utf8
        let heads :=
          if rkEncodeIsUtf8 dst then heads
          else { heads with gbk := encodeGbkInsert heads.gbk dstNoescape utf8Noescape }
        if !rkEncodeIsUtf8 dst && !rkEncodeIsUtf8 utf8 then .again (utf8, heads)
        else if isNonpsk then
          .next (utf8, { heads with
            nonpsk := encodeGbkInsert heads.nonpsk dstNoescape utf8Noescape })
        else .next (utf8, heads)

/-- `strcat(item, col)` into `item[384]`, then the next token. -/
def catColumn (st : LineState) (col : List UInt8) : Pass LineState :=
  if 384 ≤ st.item.length + col.length then .fault
  else .next { st with index := st.index + 1, item := st.item ++ col }

/-- The body of the inner loop on a token whose newline has been cut off. For an
index beyond 4 nothing is printed, whatever `cols & (1 << index)` is. -/
def columnStep (tok : List UInt8) (st : LineState) : Pass LineState :=
  if cols.testBit st.index || st.index == 3 then
    if st.index = 4 then
      match ssidColumn tbl tok st.isNonpsk st.heads with
      | .next (utf8, heads) =>
        catColumn { st with heads := heads } (columnText level cols 4 tok utf8)
      | .again (_, heads) => .again { st with heads := heads }
      | .fault => .fault
    else if st.index = 3 then
      let isNonpsk :=
        if !contains (chars "WPA") tok && !contains (chars "WEP") tok then true else st.isNonpsk
      catColumn { st with isNonpsk := isNonpsk } (columnText level cols 3 tok [])
    else catColumn st (columnText level cols st.index tok [])
  else .next { st with index := st.index + 1 }

/-! ## The loops -/

/-- How a call ends. -/
inductive Outcome (α : Type)
  | done (a : α)
  | fault
  | outOfFuel

/-- Goes on with the result. -/
def Outcome.bind {α β : Type} : Outcome α → (α → Outcome β) → Outcome β
  | .done a, f => f a
  | .fault, _ => .fault
  | .outOfFuel, _ => .outOfFuel

/-- The inner loop `while (p_strtok)`. -/
def lineLoop : Nat → List (List UInt8) → LineState → Outcome LineState
  | _, [], st => .done st
  | 0, _ :: _, _ => .outOfFuel
  | fuel + 1, tok :: toks, st =>
    match columnStep tbl level cols (dropTrailing 10 tok) st with
    | .next st' => lineLoop fuel toks st'
    | .again st' => lineLoop fuel (dropTrailing 10 tok :: toks) st'
    | .fault => .fault

/-- `scan_r` with its allocated size, and the lists. -/
structure ScanState where
  scanR : List UInt8
  size : Nat
  heads : Heads

/-- The end of an object: its last comma goes, `},` comes. -/
def closeItem (item : List UInt8) : List UInt8 := dropTrailing 44 item ++ chars "\x7d,"

/-- Lines 1502-1511: close the object and append it to `scan_r`, which grows by
`UNIT_SIZE` if it has to. -/
def appendItem (st : ScanState) (ls : LineState) : Outcome ScanState :=
  let item := closeItem ls.item
  let size := if st.size ≤ st.scanR.length + item.length + 3 then st.size + 512 else st.size
  if 384 ≤ item.length then .fault
  else if size ≤ st.scanR.length + item.length then .fault
  else .done ⟨st.scanR ++ item, size, ls.heads⟩

/-- strtok's separator in this file. -/
def isTab (b : UInt8) : Bool := b = 9

/-- The outer loop `while (fgets(line, sizeof(line) - 1, fp))`; `lineFuel` is for
each inner loop. -/
def scanLoop (lineFuel : Nat) : Nat → List UInt8 → ScanState → Outcome ScanState
  | 0, _, _ => .outOfFuel
  | fuel + 1, fp, st =>
    match fgets 255 fp with
    | none => .done st
    | some (line, rest) =>
      (lineLoop tbl level cols lineFuel (fields isTab line) (.start st.heads)).bind fun ls =>
        (appendItem st ls).bind (scanLoop lineFuel fuel rest)

/-- Lines 1513-1516: the last comma goes, `]` comes. -/
def closeArray (scanR : List UInt8) : List UInt8 := dropTrailing 44 scanR ++ chars "]"

/-- What the header `fgets(line, sizeof(line), fp)` leaves of the file. -/
def afterHeader (file : List UInt8) : List UInt8 := (takeLine 255 file).2

/-- The scan functions: the returned text (`none` for NULL) and the lists. -/
def scanFile (fuel : Nat) (heads : Heads) (file : Option (List UInt8)) :
    Outcome (Option (List UInt8) × Heads) :=
  if cols &&& 0x1F = 0 then .done (some (chars "[]"), heads)
  else
    match file with
    | none => .done (none, heads)
    | some file =>
      (scanLoop tbl level cols fuel fuel (afterHeader file) ⟨chars "[", 512, ⟨[], []⟩⟩).bind
        fun st =>
          if st.size ≤ (closeArray st.scanR).length then .fault
          else .done (some (closeArray st.scanR), st.heads)

end

/-- The label of column 2 in `RK_wifi_scan_r_sec`. -/
def rssiLabel : List UInt8 := chars "\"rssi\":"

/-- The label of column 2 in `RK_wifi_scan_softap`. -/
def signalLevelLabel : List UInt8 := chars "\"signalLevel\":"

/-- `RK_wifi_scan_r_sec` (Rk_wifi.c:1392-1520). -/
def rkWifiScanRSec (tbl : Fin 24080 → UInt16) (cols fuel : Nat) (heads : Heads)
    (file : Option (List UInt8)) : Outcome (Option (List UInt8) × Heads) :=
  scanFile tbl rssiLabel cols fuel heads file

/-- `RK_wifi_scan_softap` (Rk_wifi.c:1259-1384). -/
def rkWifiScanSoftap (tbl : Fin 24080 → UInt16) (cols fuel : Nat) (heads : Heads)
    (file : Option (List UInt8)) : Outcome (Option (List UInt8) × Heads) :=
  scanFile tbl signalLevelLabel cols fuel heads file

/-- `RK_wifi_scan_r` (Rk_wifi.c:1254-1257). -/
def rkWifiScanR (tbl : Fin 24080 → UInt16) (fuel : Nat) (heads : Heads)
    (file : Option (List UInt8)) : Outcome (Option (List UInt8) × Heads) :=
  rkWifiScanRSec tbl 0x1F fuel heads file

/-! ## Tokens that cannot go wrong -/

/-- Every `\\x` has at least two more characters behind it. -/
def HexClosed (tok : List UInt8) : Prop :=
  ∀ post, bslash :: lowerX :: post <:+ tok → 2 ≤ post.length

theorem hexClosed_iff (tok : List UInt8) :
    (∀ t ∈ tok.tails, [bslash, lowerX] <+: t → 4 ≤ t.length) ↔ HexClosed tok := by
  constructor
  · intro h post hpost
    have hlen := h _ ((List.mem_tails _ _).mpr hpost) ⟨post, rfl⟩
    simp only [List.length_cons] at hlen
    omega
  · rintro h t ht ⟨post, rfl⟩
    have hlen := h post ((List.mem_tails _ _).mp ht)
    simp only [List.length_append, List.length_cons, List.length_nil]
    omega

instance (tok : List UInt8) : Decidable (HexClosed tok) :=
  decidable_of_iff _ (hexClosed_iff tok)

theorem HexClosed.of_suffix {s t : List UInt8} (h : HexClosed t) (hs : s <:+ t) : HexClosed s :=
  fun post hp => h post (hp.trans hs)

theorem specChar_isSome_of_hexClosed {tok : List UInt8} (h : HexClosed tok) :
    (specCharConvers tok).isSome := by
  induction tok using specCharConvers.induct with
  | case1 => rfl
  | case2 b => rfl
  | case3 b c hbc x l rest ih =>
    rw [hbc.1, hbc.2, specChar_hex, Option.isSome_map]
    exact ih (h.of_suffix ⟨[b, c, x, l], rfl⟩)
  | case4 b c rest hbc hrest =>
    have hlen : 2 ≤ rest.length := by
      refine h rest ⟨[], ?_⟩
      rw [hbc.1, hbc.2]
      rfl
    obtain ⟨x, rest, rfl⟩ := List.exists_cons_of_length_pos (Nat.lt_of_succ_lt hlen)
    obtain ⟨l, r, rfl⟩ := List.exists_cons_of_length_pos (Nat.lt_of_succ_lt_succ hlen)
    exact absurd rfl (hrest x l r)
  | case5 b c rest hbc ih =>
    rw [specChar_cons (by simpa using hbc), Option.isSome_map]
    exact ih (h.of_suffix ⟨[b], rfl⟩)

/-- A token of printable characters that `spec_char_convers` expands to its end. -/
structure TokOk (tok : List UInt8) : Prop where
  printable : ∀ b ∈ tok, printable b = true
  expands : (specCharConvers tok).isSome

theorem unicodeToUtf8_length_le {c : Nat} (hc : c < 0x10000) : (unicodeToUtf8 c).length ≤ 3 := by
  unfold unicodeToUtf8
  split_ifs
  · exact (cstr_sublist _).length_le.trans (by simp)
  · simp
  · simp

theorem unicodeToUtf8_ascii_length_le {c : Nat} (hc : c < 0x80) :
    (unicodeToUtf8 c).length ≤ 1 := by
  unfold unicodeToUtf8
  rw [if_pos hc]
  exact (cstr_sublist _).length_le

/-- Bytes a text takes at most once it is converted: three for a byte that is not
printable, one for any other. -/
def shownWidth (o : List UInt8) : Nat := o.length + 2 * o.countP (fun b => !printable b)

theorem shownWidth_le_weight (o : List UInt8) : shownWidth o ≤ weight o := by
  unfold shownWidth weight
  omega

theorem shownWidth_cons (b : UInt8) (o : List UInt8) :
    shownWidth (b :: o) = shownWidth o + if printable b = true then 1 else 3 := by
  unfold shownWidth
  rw [List.countP_cons, List.length_cons]
  cases printable b <;> simp <;> omega

/-- A double byte becomes at most three bytes. -/
theorem gbkToUtf8_length_le (tbl : Fin 24080 → UInt16) (s : List UInt8) :
    (gbkToUtf8 tbl s).length ≤ shownWidth s := by
  have huni : ∀ u : UInt16, (unicodeToUtf8 u.toNat).length ≤ 3 := fun u =>
    unicodeToUtf8_length_le u.toNat_lt
  have hlow : ∀ {b : UInt8}, b < 0x80 → (unicodeToUtf8 b.toNat).length ≤ 1 := fun hb =>
    unicodeToUtf8_ascii_length_le (UInt8.lt_iff_toNat_lt.mp hb)
  have hhigh : ∀ b : UInt8, ¬ b < 0x80 → printable b = false := by
    intro b hb
    simp [printable, UInt8.le_iff_toNat_le, UInt8.lt_iff_toNat_lt] at hb ⊢
    omega
  have hcons : ∀ (b : UInt8) (s : List UInt8), shownWidth s + 1 ≤ shownWidth (b :: s) := by
    intro b s
    rw [shownWidth_cons]
    split <;> omega
  have hlead : ∀ {b : UInt8} (s : List UInt8), ¬ b < 0x80 →
      shownWidth (b :: s) = shownWidth s + 3 := by
    intro b s hb
    rw [shownWidth_cons, hhigh b hb]
    rfl
  induction s using gbkToUtf8.induct with
  | case1 => exact Nat.zero_le _
  | case2 b hb =>
    rw [gbkToUtf8, if_pos hb]
    have := hcons b []
    have := hlow hb
    omega
  | case3 b hb =>
    rw [gbkToUtf8, if_neg hb, hlead [] hb]
    have := huni (gbkToUnicode tbl b 0)
    omega
  | case4 b c rest hb ih =>
    rw [gbkToUtf8, if_pos hb, List.length_append]
    have := hcons b (c :: rest)
    have := hlow hb
    omega
  | case5 b c rest hb ih =>
    rw [gbkToUtf8, if_neg hb, List.length_append, hlead _ hb]
    have := huni (gbkToUnicode tbl b c)
    have := hcons c rest
    omega

/-- The text of the `ssid` member. -/
def ssidUtf8 (tbl : Fin 24080 → UInt16) (tok : List UInt8) : List UInt8 :=
  match specCharConvers tok with
  | none => []
  | some buf =>
    if rkEncodeIsUtf8 (cstr buf) then cstr buf else gbkToUtf8 tbl (cstr buf)

theorem ssidUtf8_length_le (tbl : Fin 24080 → UInt16) {tok : List UInt8} (h : TokOk tok) :
    (ssidUtf8 tbl tok).length ≤ tok.length := by
  obtain ⟨buf, hbuf⟩ := Option.isSome_iff_exists.mp h.expands
  have hw := (weight_cstr_le buf).trans (weight_specChar_le h.printable hbuf)
  unfold ssidUtf8
  rw [hbuf]
  show (if _ then _ else _ : List UInt8).length ≤ _
  split_ifs
  · have : (cstr buf).length ≤ weight (cstr buf) := Nat.le_add_right _ _
    omega
  · exact ((gbkToUtf8_length_le tbl _).trans (shownWidth_le_weight _)).trans hw

/-- The SSID column never takes the `continue` and never overruns `utf8`. -/
theorem ssidColumn_next (tbl : Fin 24080 → UInt16) {tok : List UInt8} (h : TokOk tok)
    (isNonpsk : Bool) (heads : Heads) :
    ∃ heads', ssidColumn tbl tok isNonpsk heads = .next (ssidUtf8 tbl tok, heads') := by
  have hlen := ssidUtf8_length_le tbl h
  obtain ⟨buf, hbuf⟩ := Option.isSome_iff_exists.mp h.expands
  by_cases hnil : tok = []
  · subst hnil
    exact ⟨heads, rfl⟩
  · have hutf8 : (!rkEncodeIsUtf8 (cstr buf) && !rkEncodeIsUtf8 (ssidUtf8 tbl tok)) = false := by
      unfold ssidUtf8
      rw [hbuf]
      show (!rkEncodeIsUtf8 (cstr buf) && !rkEncodeIsUtf8 (if _ then _ else _)) = false
      by_cases hd : rkEncodeIsUtf8 (cstr buf) = true
      · rw [hd]
        rfl
      · rw [if_neg hd, gbkToUtf8_isUtf8]
        simp
    have hdef : (if rkEncodeIsUtf8 (cstr buf) then cstr buf else gbkToUtf8 tbl (cstr buf))
        = ssidUtf8 tbl tok := by
      unfold ssidUtf8
      rw [hbuf]
    unfold ssidColumn
    rw [if_neg hnil]
    simp only [hbuf, hdef, hutf8, if_neg (Nat.not_lt.mpr hlen), Bool.false_eq_true, if_false]
    cases isNonpsk
    · exact ⟨_, rfl⟩
    · exact ⟨_, rfl⟩

/-! ## One line -/

section

variable (tbl : Fin 24080 → UInt16) (level : List UInt8) (cols : Nat)

/-- One pass of the inner loop, on the tokens left and the state. -/
inductive LineStep : List (List UInt8) × LineState → List (List UInt8) × LineState → Prop
  | next {tok toks st st'} : columnStep tbl level cols (dropTrailing 10 tok) st = .next st' →
      LineStep (tok :: toks, st) (toks, st')
  | again {tok toks st st'} : columnStep tbl level cols (dropTrailing 10 tok) st = .again st' →
      LineStep (tok :: toks, st) (dropTrailing 10 tok :: toks, st')

/-- What the column `index` adds to its object. -/
def column (index : Nat) (tok : List UInt8) : List UInt8 :=
  if cols.testBit index then columnText level cols index tok (ssidUtf8 tbl tok) else []

/-- The columns of the tokens from `index` on. -/
def columns : Nat → List (List UInt8) → List UInt8
  | _, [] => []
  | index, tok :: toks =>
    column tbl level cols index (dropTrailing 10 tok) ++ columns (index + 1) toks

/-- The object made of a line. -/
def lineItem (line : List UInt8) : List UInt8 :=
  closeItem (chars "\x7b" ++ columns tbl level cols 0 (fields isTab line))

/-- Characters the columns from `index` on can need besides their tokens. -/
def labelRoom : Nat → Nat
  | 0 => 82
  | 1 => 71
  | 2 => 47
  | 3 => 21
  | 4 => 10
  | _ => 0

variable {level}

theorem columnText_length_le (hlevel : level.length ≤ 14) (index : Nat)
    {tok utf8 : List UInt8} (hutf8 : utf8.length ≤ tok.length) :
    (columnText level cols index tok utf8).length + labelRoom (index + 1)
      ≤ tok.length + labelRoom index := by
  have hdec := decimal_length_le (atoi_range tok)
  unfold columnText
  refine (Nat.add_le_add_right (snprintf_length_le 128 _) _).trans ?_
  match index with
  | 0 => simp [chars, labelRoom]
  | 1 =>
    simp [chars, labelRoom]
    omega
  | 2 =>
    simp [chars, labelRoom]
    omega
  | 3 =>
    split_ifs
    · simp [chars, labelRoom]
    · simp [labelRoom]
  | 4 =>
    simp [chars, labelRoom]
    omega
  | n + 5 => simp [labelRoom]

/-- Only the SSID column prints its converted text. -/
theorem columnText_congr {index : Nat} (h : index ≠ 4) (tok u v : List UInt8) :
    columnText level cols index tok u = columnText level cols index tok v := by
  unfold columnText
  match index, h with
  | 0, _ => rfl
  | 1, _ => rfl
  | 2, _ => rfl
  | 3, _ => rfl
  | n + 5, _ => rfl

theorem catColumn_next {st : LineState} {col : List UInt8}
    (h : st.item.length + col.length < 384) :
    catColumn st col = .next { st with index := st.index + 1, item := st.item ++ col } :=
  if_neg (Nat.not_le.mpr h)

/-- **One token.** A well-formed token with room left in `item` is processed once,
and the loop moves on to the next. -/
theorem columnStep_next (hlevel : level.length ≤ 14) {tok : List UInt8} {st : LineState}
    (h : TokOk tok) (hroom : st.item.length + tok.length + labelRoom st.index ≤ 337) :
    ∃ st', columnStep tbl level cols tok st = .next st' ∧ st'.index = st.index + 1 ∧
      st'.item = st.item ++ column tbl level cols st.index tok := by
  have hcol := columnText_length_le cols hlevel st.index (ssidUtf8_length_le tbl h)
  have hfit : st.item.length +
      (columnText level cols st.index tok (ssidUtf8 tbl tok)).length < 384 := by omega
  unfold columnStep column
  by_cases h4 : st.index = 4
  · rw [h4] at hfit ⊢
    by_cases hbit : cols.testBit 4
    · obtain ⟨heads, hssid⟩ := ssidColumn_next tbl h st.isNonpsk st.heads
      simp only [hbit, hssid, Bool.true_or, if_true]
      exact ⟨_, catColumn_next hfit, rfl, rfl⟩
    · simp only [hbit]
      exact ⟨_, rfl, rfl, by simp⟩
  · rw [columnText_congr cols h4 tok _ []] at hfit
    rw [columnText_congr cols h4 tok (ssidUtf8 tbl tok) []]
    simp only [if_neg h4]
    by_cases h3 : st.index = 3
    · rw [h3] at hfit ⊢
      simp only [beq_self_eq_true, Bool.or_true, if_true]
      refine ⟨_, catColumn_next hfit, rfl, ?_⟩
      by_cases hbit : cols.testBit 3
      · rw [if_pos hbit]
      · rw [if_neg hbit]
        simp [columnText, hbit, snprintf]
    · have h3' : (st.index == 3) = false := by simpa using h3
      simp only [h3', Bool.or_false, if_neg h3]
      split_ifs with hbit
      · exact ⟨_, catColumn_next hfit, rfl, rfl⟩
      · exact ⟨_, rfl, rfl, by simp⟩

/-- What holds whenever the inner loop tests `p_strtok`: the tokens left are well
formed and there is room for them in `item`. -/
structure LineInv (toks : List (List UInt8)) (st : LineState) : Prop where
  toksOk : ∀ tok ∈ toks, TokOk (dropTrailing 10 tok)
  room : st.item.length + toks.flatten.length + labelRoom st.index ≤ 337

theorem lineInv_next (hlevel : level.length ≤ 14) {tok : List UInt8} {toks : List (List UInt8)}
    {st : LineState} (h : LineInv (tok :: toks) st) :
    ∃ st', columnStep tbl level cols (dropTrailing 10 tok) st = .next st' ∧
      st'.index = st.index + 1 ∧
      st'.item = st.item ++ column tbl level cols st.index (dropTrailing 10 tok) ∧
      LineInv toks st' := by
  have htok := h.toksOk tok (List.mem_cons_self ..)
  have hstrip := (dropTrailing_sublist 10 tok).length_le
  have hroom := h.room
  rw [List.flatten_cons, List.length_append] at hroom
  have hfit : st.item.length + (dropTrailing 10 tok).length + labelRoom st.index ≤ 337 := by
    omega
  obtain ⟨st', hst, hindex, hitem⟩ := columnStep_next tbl cols hlevel htok hfit
  refine ⟨st', hst, hindex, hitem, fun t ht => h.toksOk t (List.mem_cons_of_mem _ ht), ?_⟩
  have hcol := columnText_length_le cols hlevel st.index (ssidUtf8_length_le tbl htok)
  have hle : (column tbl level cols st.index (dropTrailing 10 tok)).length
      + labelRoom (st.index + 1) ≤ tok.length + labelRoom st.index := by
    unfold column
    split_ifs
    · omega
    · rw [List.length_nil]
      omega
  rw [hitem, hindex, List.length_append]
  omega

/-- Along the passes of the inner loop the invariant holds. -/
theorem lineInv_reach (hlevel : level.length ≤ 14)
    {p q : List (List UInt8) × LineState} (h : LineInv p.1 p.2)
    (hpq : Relation.ReflTransGen (LineStep tbl level cols) p q) : LineInv q.1 q.2 := by
  induction hpq with
  | refl => exact h
  | tail _ hstep ih =>
    cases hstep with
    | next hst =>
      obtain ⟨st', hst', -, -, hinv⟩ := lineInv_next tbl cols hlevel ih
      rw [hst] at hst'
      cases hst'
      exact hinv
    | again hst =>
      obtain ⟨st', hst', -⟩ := lineInv_next tbl cols hlevel ih
      rw [hst] at hst'
      cases hst'

/-- The inner loop makes one pass for each token, whatever tokens follow. -/
theorem lineLoop_append (hlevel : level.length ≤ 14) {toks : List (List UInt8)}
    {st : LineState} (h : LineInv toks st) (fuel : Nat) (rest : List (List UInt8)) :
    ∃ st', lineLoop tbl level cols (toks.length + fuel) (toks ++ rest) st
        = lineLoop tbl level cols fuel rest st' ∧
      st'.index = st.index + toks.length ∧
      st'.item = st.item ++ columns tbl level cols st.index toks ∧ st'.item.length ≤ 337 := by
  induction toks generalizing st with
  | nil =>
    refine ⟨st, by rw [List.length_nil, Nat.zero_add, List.nil_append], rfl, by simp [columns], ?_⟩
    have := h.room
    omega
  | cons tok toks ih =>
    obtain ⟨st₁, hst, hindex, hitem, hinv⟩ := lineInv_next tbl cols hlevel h
    obtain ⟨st₂, hloop, hindex₂, htext, hlen⟩ := ih hinv
    refine ⟨st₂, ?_, ?_, ?_, hlen⟩
    · rw [List.length_cons, Nat.add_right_comm, List.cons_append, lineLoop, hst]
      exact hloop
    · rw [hindex₂, hindex, List.length_cons]
      omega
    · rw [htext, hitem, hindex, List.append_assoc]
      rfl

/-- The inner loop ends. -/
theorem lineLoop_done (hlevel : level.length ≤ 14) {toks : List (List UInt8)} {st : LineState}
    {fuel : Nat} (h : LineInv toks st) (hfuel : toks.length ≤ fuel) :
    ∃ st', lineLoop tbl level cols fuel toks st = .done st' ∧
      st'.item = st.item ++ columns tbl level cols st.index toks ∧ st'.item.length ≤ 337 := by
  obtain ⟨n, rfl⟩ := Nat.exists_eq_add_of_le hfuel
  obtain ⟨st', hloop, -, hitem, hlen⟩ := lineLoop_append tbl cols hlevel h n []
  rw [List.append_nil] at hloop
  refine ⟨st', ?_, hitem, hlen⟩
  rw [hloop, lineLoop]

/-! ## The whole file -/

/-- The characters of a scan listing. -/
def listingByte (b : UInt8) : Bool := printable b || b = 9 || b = 10

/-- The lines the outer loop reads. -/
def scanLines (file : List UInt8) : List (List UInt8) :=
  readLines 255 file.length (afterHeader file)

/-- A line as the outer loop reads it, with tokens that can be expanded. -/
structure LineOk (line : List UInt8) : Prop where
  bytes : ∀ b ∈ line, listingByte b = true
  short : line.length ≤ 254
  newline : ∀ pre post, line = pre ++ 10 :: post → post = []
  expands : ∀ tok ∈ fields isTab line, (specCharConvers (dropTrailing 10 tok)).isSome

/-- Cutting the newline off a token of a line leaves printable characters. -/
theorem tokOk_of_lineOk {line tok : List UInt8} (h : LineOk line)
    (htok : tok ∈ fields isTab line) : TokOk (dropTrailing 10 tok) := by
  obtain ⟨⟨pre, post, hline⟩, hsep, -⟩ := mem_fields htok
  have hnl : ∀ a b, tok = a ++ 10 :: b → b = [] := by
    intro a b hab
    have hb : b ++ post = [] := h.newline (pre ++ a) (b ++ post) (by rw [← hline, hab]; simp)
    exact (List.append_eq_nil_iff.mp hb).1
  have hno : (10 : UInt8) ∉ dropTrailing 10 tok := by
    intro hmem
    unfold dropTrailing at hmem
    split_ifs at hmem with hlast
    · obtain ⟨t, rfl⟩ := List.getLast?_eq_some_iff.mp hlast
      rw [List.dropLast_concat] at hmem
      obtain ⟨a, b, rfl⟩ := List.append_of_mem hmem
      have := hnl a (b ++ [10]) (by simp)
      simp at this
    · obtain ⟨a, b, rfl⟩ := List.append_of_mem hmem
      rw [hnl a b rfl] at hlast
      exact hlast (by simp)
  refine ⟨fun b hb => ?_, h.expands tok htok⟩
  have hbtok : b ∈ tok := (dropTrailing_sublist 10 tok).subset hb
  have hbline : b ∈ line := by
    rw [← hline]
    simp [hbtok]
  have hbyte := h.bytes b hbline
  have htab : b ≠ 9 := by simpa [isTab] using hsep b hbtok
  have hten : b ≠ 10 := fun h10 => hno (h10 ▸ hb)
  simpa [listingByte, htab, hten] using hbyte

/-- A line as `fgets` returns it leaves room for its columns. -/
theorem lineInv_of_toks {line : List UInt8} (hshort : line.length ≤ 254)
    (htoks : ∀ tok ∈ fields isTab line, TokOk (dropTrailing 10 tok)) (heads : Heads) :
    LineInv (fields isTab line) (.start heads) := by
  refine ⟨htoks, ?_⟩
  have hflat := (flatten_fields_sublist isTab line).length_le
  show 1 + _ + 82 ≤ 337
  omega

theorem lineInv_start {line : List UInt8} (h : LineOk line) (heads : Heads) :
    LineInv (fields isTab line) (.start heads) :=
  lineInv_of_toks h.short (fun _ htok => tokOk_of_lineOk h htok) heads

theorem closeItem_length_le (item : List UInt8) : (closeItem item).length ≤ item.length + 2 := by
  have hdrop := (dropTrailing_sublist 44 item).length_le
  unfold closeItem
  rw [List.length_append]
  exact Nat.add_le_add_right hdrop 2

/-- An object of bounded length always fits after at most one reallocation. -/
theorem appendItem_done {st : ScanState} {ls : LineState} (hitem : ls.item.length ≤ 337)
    (hsize : st.scanR.length + 3 < st.size) :
    ∃ size, appendItem st ls = .done ⟨st.scanR ++ closeItem ls.item, size, ls.heads⟩ ∧
      (st.scanR ++ closeItem ls.item).length + 3 < size := by
  have hlen := closeItem_length_le ls.item
  unfold appendItem
  simp only [List.length_append]
  rw [if_neg (by omega)]
  by_cases hgrow : st.size ≤ st.scanR.length + (closeItem ls.item).length + 3
  · rw [if_pos hgrow, if_neg (by omega)]
    exact ⟨_, rfl, by omega⟩
  · rw [if_neg hgrow, if_neg (by omega)]
    exact ⟨_, rfl, by omega⟩

/-- A line has no more tokens than the file had bytes. -/
theorem fields_length_le_fgets {fp line rest : List UInt8} (h : fgets 255 fp = some (line, rest)) :
    (fields isTab line).length ≤ fp.length := by
  have happ := congrArg List.length (takeLine_append 254 fp)
  rw [show takeLine 254 fp = (line, rest) from fgets_eq h, List.length_append] at happ
  have := length_fields_le isTab line
  simp only at happ
  omega

/-- **All lines.** The outer loop reads every line and appends one object for it. -/
theorem scanLoop_done (hlevel : level.length ≤ 14) {lineFuel fuel : Nat} {fp : List UInt8}
    {st : ScanState} (hfuel : fp.length < fuel) (hline : fp.length ≤ lineFuel)
    (hok : ∀ line ∈ readLines 255 fuel fp, ∀ heads, LineInv (fields isTab line) (.start heads))
    (hsize : st.scanR.length + 3 < st.size) :
    ∃ st', scanLoop tbl level cols lineFuel fuel fp st = .done st' ∧
      st'.scanR = st.scanR ++ (readLines 255 fuel fp).flatMap (lineItem tbl level cols) ∧
      st'.scanR.length + 3 < st'.size := by
  induction fuel generalizing fp st with
  | zero => omega
  | succ fuel ih =>
    rw [readLines] at hok ⊢
    rw [scanLoop]
    cases hf : fgets 255 fp with
    | none => exact ⟨st, rfl, by simp, hsize⟩
    | some p =>
      obtain ⟨line, rest⟩ := p
      rw [hf] at hok
      have hlt := fgets_length_lt (by omega) hf
      have hinv := hok line (List.mem_cons_self ..) st.heads
      have htoks := (fields_length_le_fgets hf).trans hline
      obtain ⟨ls, hls, htext, hlen⟩ := lineLoop_done tbl cols hlevel hinv htoks
      obtain ⟨size, happ, hsize'⟩ := appendItem_done hlen hsize
      obtain ⟨st', hdone, hscan, hfin⟩ :=
        @ih rest ⟨st.scanR ++ closeItem ls.item, size, ls.heads⟩ (by omega) (by omega)
          (fun l hl => hok l (List.mem_cons_of_mem _ hl)) hsize'
      refine ⟨st', ?_, ?_, hfin⟩
      · simp only [hls, Outcome.bind, happ]
        exact hdone
      · rw [hscan, htext]
        simp [lineItem, LineState.start]

/-- The text returned for a file. -/
def scanText (level : List UInt8) (file : List UInt8) : List UInt8 :=
  closeArray (chars "[" ++ (scanLines file).flatMap (lineItem tbl level cols))

/-- The lines behind a header. -/
theorem scanLines_header {header : List UInt8} (hline : (10 : UInt8) ∉ header)
    (hshort : header.length < 254) {ls : List (List UInt8)}
    (hls : ∀ l ∈ ls, (10 : UInt8) ∉ l ∧ l.length < 254) :
    scanLines (header ++ 10 :: ls.flatMap (· ++ [10])) = ls.map (· ++ [10]) := by
  rw [scanLines, afterHeader, takeLine_line hline (by omega)]
  refine readLines_flatMap hls ?_
  simp only [List.length_append, List.length_cons]
  omega

theorem afterHeader_length_le (file : List UInt8) : (afterHeader file).length ≤ file.length := by
  have happ := congrArg List.length (takeLine_append 255 file)
  rw [List.length_append] at happ
  unfold afterHeader
  omega

theorem scanFile_done (hlevel : level.length ≤ 14) {fuel : Nat} {file : List UInt8}
    (heads : Heads) (hcols : cols &&& 0x1F ≠ 0) (hfuel : file.length < fuel)
    (hok : ∀ line ∈ scanLines file, ∀ heads, LineInv (fields isTab line) (.start heads)) :
    ∃ heads', scanFile tbl level cols fuel heads (some file)
      = .done (some (scanText tbl cols level file), heads') := by
  have hlen := afterHeader_length_le file
  have hlines : readLines 255 fuel (afterHeader file) = scanLines file :=
    readLines_fuel (by omega) (by omega) hlen
  obtain ⟨st, hdone, htext, hsize⟩ :=
    @scanLoop_done tbl level cols hlevel fuel fuel (afterHeader file)
      ⟨chars "[", 512, ⟨[], []⟩⟩ (by omega) (by omega) (by rwa [hlines])
      (show 1 + 3 < 512 by omega)
  have hdrop := (dropTrailing_sublist 44 st.scanR).length_le
  have hfit : (closeArray st.scanR).length ≤ st.scanR.length + 1 := by
    unfold closeArray
    rw [List.length_append]
    exact Nat.add_le_add_right hdrop 1
  have hclose : ¬ st.size ≤ (closeArray st.scanR).length := by omega
  refine ⟨st.heads, ?_⟩
  unfold scanFile scanText
  rw [if_neg hcols, ← hlines, ← htext]
  simp only [hdone, Outcome.bind, if_neg hclose]

theorem lineOk_of_file {file : List UInt8} (hbytes : ∀ b ∈ file, listingByte b = true)
    (hhex : ∀ line ∈ scanLines file, ∀ tok ∈ fields isTab line, HexClosed (dropTrailing 10 tok))
    {line : List UInt8} (hline : line ∈ scanLines file) : LineOk line := by
  obtain ⟨hin, hshort, hnl⟩ := mem_readLines hline
  refine ⟨fun b hb => hbytes b ?_, hshort, hnl, fun tok htok =>
    specChar_isSome_of_hexClosed (hhex line hline tok htok)⟩
  have happ := takeLine_append 255 file
  rw [← happ]
  exact List.mem_append_right _ (hin.subset hb)

end

/-- The call `scan` on `file` returns: with fuel beyond the length of the file it is
done, and its text has one object for each line. -/
def ScanReturns (scan : Nat → Heads → Option (List UInt8) → Outcome (Option (List UInt8) × Heads))
    (cols : Nat) (file text : List UInt8) : Prop :=
  ∀ heads fuel, file.length < fuel →
    ∃ r, scan fuel heads (some file) = .done r ∧ (cols &&& 0x1F ≠ 0 → r.1 = some text)

/-- Whatever token the inner loop has reached in a line of `file`, its pass fetches
the next one. -/
def ScanAdvances (tbl : Fin 24080 → UInt16) (level : List UInt8) (cols : Nat)
    (file : List UInt8) : Prop :=
  ∀ line ∈ scanLines file, ∀ heads tok toks st,
    Relation.ReflTransGen (LineStep tbl level cols) (fields isTab line, .start heads)
      (tok :: toks, st) →
    ∃ st', columnStep tbl level cols (dropTrailing 10 tok) st = .next st'

theorem scanFile_returns (tbl : Fin 24080 → UInt16) {level : List UInt8} (cols : Nat)
    {file : List UInt8} (hlevel : level.length ≤ 14)
    (hok : ∀ line ∈ scanLines file, ∀ heads, LineInv (fields isTab line) (.start heads)) :
    ScanReturns (scanFile tbl level cols) cols file (scanText tbl cols level file) := by
  intro heads fuel hfuel
  by_cases hcols : cols &&& 0x1F = 0
  · exact ⟨_, if_pos hcols, fun h => absurd hcols h⟩
  · obtain ⟨heads', hdone⟩ := scanFile_done tbl cols hlevel heads hcols hfuel hok
    exact ⟨_, hdone, fun _ => rfl⟩

theorem scanFile_advances (tbl : Fin 24080 → UInt16) {level : List UInt8} (cols : Nat)
    {file : List UInt8} (hlevel : level.length ≤ 14)
    (hok : ∀ line ∈ scanLines file, ∀ heads, LineInv (fields isTab line) (.start heads)) :
    ScanAdvances tbl level cols file := by
  intro line hline heads tok toks st hreach
  have hinv := lineInv_reach tbl cols hlevel (hok line hline heads) hreach
  obtain ⟨st', hst, -⟩ := lineInv_next tbl cols hlevel hinv
  exact ⟨st', hst⟩

/-- **The scan returns** on every listing of printable characters whose hex escapes
are closed, in both copies of the function and for every conversion table. -/
theorem scan_returns (tbl : Fin 24080 → UInt16) (cols : Nat) (file : List UInt8)
    (hbytes : ∀ b ∈ file, listingByte b = true)
    (hhex : ∀ line ∈ scanLines file, ∀ tok ∈ fields isTab line,
      HexClosed (dropTrailing 10 tok)) :
    (ScanReturns (rkWifiScanRSec tbl cols) cols file (scanText tbl cols rssiLabel file) ∧
      ScanAdvances tbl rssiLabel cols file) ∧
    ScanReturns (rkWifiScanSoftap tbl cols) cols file (scanText tbl cols signalLevelLabel file) ∧
      ScanAdvances tbl signalLevelLabel cols file := by
  have hok : ∀ line ∈ scanLines file, ∀ heads, LineInv (fields isTab line) (.start heads) :=
    fun line hline heads => lineInv_start (lineOk_of_file hbytes hhex hline) heads
  have hrssi : rssiLabel.length ≤ 14 := by decide
  have hlevel : signalLevelLabel.length ≤ 14 := by decide
  exact ⟨⟨scanFile_returns tbl cols hrssi hok, scanFile_advances tbl cols hrssi hok⟩,
    scanFile_returns tbl cols hlevel hok, scanFile_advances tbl cols hlevel hok⟩

/-- A listing with a double-byte SSID that stops after a lead byte. -/
def gbkListing : List UInt8 :=
  chars "bssid / ssid\n" ++ chars "02:00:00:00:00:01\t2412\t-40\t[ESS]\t\\xc4\\xe3\\xba\n"

/-- With the table of the source. -/
theorem gbkListing_returns :
    (ScanReturns (rkWifiScanRSec mbGb2uniTable 0x1F) 0x1F gbkListing
        (scanText mbGb2uniTable 0x1F rssiLabel gbkListing) ∧
      ScanAdvances mbGb2uniTable rssiLabel 0x1F gbkListing) ∧
    ScanReturns (rkWifiScanSoftap mbGb2uniTable 0x1F) 0x1F gbkListing
        (scanText mbGb2uniTable 0x1F signalLevelLabel gbkListing) ∧
      ScanAdvances mbGb2uniTable signalLevelLabel 0x1F gbkListing :=
  scan_returns mbGb2uniTable 0x1F gbkListing
    (List.all_eq_true.mp (by decide)) (by decide)

end ConnectApp.Wifi
