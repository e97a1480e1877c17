import ConnectApp.Wifi.Scan

/-!
# The buffers of a scan (Rk_wifi.c:1259-1520, gbk_to_utf8.c:1523-1580)

`scanFile` stops with `fault` where a text leaves its buffer. Here the texts themselves are
listed, call by call and in the order of the source: `scanFileAppends` has one entry for every
`strcat` into `item[384]` and into the growing `scan_r`, and for every text written to the
four arrays of `strlen(p_strtok) + 1` bytes that the SSID column declares.

- `columnAppends_fit`, `lineAppends_fit`, `scanAppends_fit`: the entries of a token, of a line
  and of all lines fit their buffers, by the invariants of the two loops.
- `scan_appends_fit`: so do all entries of a call, in both copies of the function.
-/

namespace ConnectApp.Wifi

open CString ConnectApp.Encode

/-! ## What is appended -/

/-- The buffers of the scan functions. -/
inductive ScanBuffer
  | scanR
  | item
  | dst
  | utf8
  | dstNoescape
  | utf8Noescape
  deriving DecidableEq

/-- `added` bytes and a terminator, written behind the first `before` bytes of a buffer that
has `size` bytes. -/
structure Appended where
  buffer : ScanBuffer
  before : Nat
  added : Nat
  size : Nat
  deriving DecidableEq

/-- The text and its terminator fit. -/
def Appended.Fits (a : Appended) : Prop := a.before + a.added + 1 ≤ a.size

theorem Appended.fits_mk (buffer : ScanBuffer) (before added size : Nat) :
    (Appended.mk buffer before added size).Fits ↔ before + added + 1 ≤ size := Iff.rfl

instance (a : Appended) : Decidable a.Fits := Nat.decLe _ _

section

variable (tbl : Fin 24080 → UInt16) (level : List UInt8) (cols : Nat)

/-- `gbk_to_utf8` into `utf8`: one `strcpy` at `dst + j` for each code point. -/
def gbkAppends (size : Nat) : Nat → List UInt8 → List Appended
  | _, [] => []
  | j, [b] =>
    if b < 0x80 then [⟨.utf8, j, (unicodeToUtf8 b.toNat).length, size⟩]
    else [⟨.utf8, j, (unicodeToUtf8 (gbkToUnicode tbl b 0).toNat).length, size⟩]
  | j, b :: c :: rest =>
    if b < 0x80 then
      let nLen := (unicodeToUtf8 b.toNat).length
      ⟨.utf8, j, nLen, size⟩ :: gbkAppends size (j + nLen) (c :: rest)
    else
      let nLen := (unicodeToUtf8 (gbkToUnicode tbl b c).toNat).length
      ⟨.utf8, j, nLen, size⟩ :: gbkAppends size (j + nLen) rest

/-- The SSID column up to its `snprintf`. -/
def ssidAppends (tok : List UInt8) : List Appended :=
  if tok = [] then []
  else
    match specCharConvers tok with
    | none => []
    | some buf =>
      let size := tok.length + 1
      let dst := cstr buf
      let utf8 := if rkEncodeIsUtf8 dst then dst else gbkToUtf8 tbl dst
      [⟨.dst, 0, buf.length, size⟩] ++
      (if rkEncodeIsUtf8 dst then [⟨.utf8, 0, dst.length, size⟩] else gbkAppends tbl size 0 dst) ++
      [⟨.dstNoescape, 0, (removeEscapeCharacter dst).length, size⟩,
        ⟨.utf8Noescape, 0, (removeEscapeCharacter utf8).length, size⟩]

/-- One pass of the inner loop. A token whose SSID ends in the `continue` adds nothing to
`item`. -/
def columnAppends (tok : List UInt8) (st : LineState) : List Appended :=
  if cols.testBit st.index || st.index == 3 then
    if st.index = 4 then
      ssidAppends tbl tok ++
        match ssidColumn tbl tok st.isNonpsk st.heads with
        | .next (utf8, _) =>
          [⟨.item, st.item.length, (columnText level cols 4 tok utf8).length, 384⟩]
        | _ => []
    else [⟨.item, st.item.length, (columnText level cols st.index tok []).length, 384⟩]
  else []

/-- The inner loop. -/
def lineAppends : Nat → List (List UInt8) → LineState → List Appended
  | _, [], _ => []
  | 0, _ :: _, _ => []
  | fuel + 1, tok :: toks, st =>
    columnAppends tbl level cols (dropTrailing 10 tok) st ++
      match columnStep tbl level cols (dropTrailing 10 tok) st with
      | .next st' => lineAppends fuel toks st'
      | .again st' => lineAppends fuel (dropTrailing 10 tok :: toks) st'
      | .fault => []

/-- Lines 1502-1511: `},` behind the object, and the object behind `scan_r` in the size it has
after the test for growth. -/
def itemAppends (st : ScanState) (ls : LineState) : List Appended :=
  let item := closeItem ls.item
  [⟨.item, (dropTrailing 44 ls.item).length, (chars "\x7d,").length, 384⟩,
    ⟨.scanR, st.scanR.length, item.length,
      if st.size ≤ st.scanR.length + item.length + 3 then st.size + 512 else st.size⟩]

/-- The outer loop. -/
def scanAppends (lineFuel : Nat) : Nat → List UInt8 → ScanState → List Appended
  | 0, _, _ => []
  | fuel + 1, fp, st =>
    match fgets 255 fp with
    | none => []
    | some (line, rest) =>
      ⟨.item, 0, (chars "\x7b").length, 384⟩ ::
      lineAppends tbl level cols lineFuel (fields isTab line) (.start st.heads) ++
        match lineLoop tbl level cols lineFuel (fields isTab line) (.start st.heads) with
        | .done ls =>
          itemAppends st ls ++
            match appendItem st ls with
            | .done st' => scanAppends lineFuel fuel rest st'
            | _ => []
        | _ => []

/-- A call, from the opening bracket to the closing one. -/
def scanFileAppends (fuel : Nat) (file : Option (List UInt8)) : List Appended :=
  if cols &&& 0x1F = 0 then [⟨.scanR, 0, (chars "[]").length, 3⟩]
  else
    match file with
    | none => []
    | some file =>
      let start : ScanState := ⟨chars "[", 512, ⟨[], []⟩⟩
      ⟨.scanR, 0, (chars "[").length, 512⟩ ::
      scanAppends tbl level cols fuel fuel (afterHeader file) start ++
        match scanLoop tbl level cols fuel fuel (afterHeader file) start with
        | .done st => [⟨.scanR, (dropTrailing 44 st.scanR).length, (chars "]").length, st.size⟩]
        | _ => []

end

/-! ## One token -/

section

variable (tbl : Fin 24080 → UInt16) {level : List UInt8} (cols : Nat)

/-- Every piece ends where the converted text has room for it. -/
theorem gbkAppends_fit {size : Nat} (s : List UInt8) :
    ∀ j, j + (gbkToUtf8 tbl s).length + 1 ≤ size → ∀ a ∈ gbkAppends tbl size j s, a.Fits := by
  induction s using gbkToUtf8.induct with
  | case1 =>
    intro j _ a ha
    cases ha
  | case2 b hb =>
    intro j h a ha
    rw [gbkToUtf8, if_pos hb] at h
    rw [gbkAppends, if_pos hb, List.mem_singleton] at ha
    rw [ha]
    exact h
  | case3 b hb =>
    intro j h a ha
    rw [gbkToUtf8, if_neg hb] at h
    rw [gbkAppends, if_neg hb, List.mem_singleton] at ha
    rw [ha]
    exact h
  | case4 b c rest hb ih =>
    intro j h a ha
    rw [gbkToUtf8, if_pos hb, List.length_append] at h
    rw [gbkAppends, if_pos hb] at ha
    rcases List.mem_cons.mp ha with rfl | ha
    · rw [Appended.fits_mk]
      omega
    · exact ih _ (by omega) a ha
  | case5 b c rest hb ih =>
    intro j h a ha
    rw [gbkToUtf8, if_neg hb, List.length_append] at h
    rw [gbkAppends, if_neg hb] at ha
    rcases List.mem_cons.mp ha with rfl | ha
    · rw [Appended.fits_mk]
      omega
    · exact ih _ (by omega) a ha

/-- **The arrays of the SSID column.** None of the four texts is longer than the token. -/
theorem ssidAppends_fit {tok : List UInt8} (h : TokOk tok) : ∀ a ∈ ssidAppends tbl tok, a.Fits := by
  intro a ha
  obtain ⟨buf, hbuf⟩ := Option.isSome_iff_exists.mp h.expands
  have hlen := ssidUtf8_length_le tbl h
  have hdst := specChar_length_le hbuf
  have hcstr := (cstr_sublist buf).length_le
  have hnoescape := fun t => (removeEscape_sublist t).length_le
  rw [ssidUtf8, hbuf] at hlen
  rw [ssidAppends] at ha
  split_ifs at ha with hnil
  · cases ha
  · rw [hbuf] at ha
    simp only [List.mem_append, List.mem_cons, List.not_mem_nil, or_false] at ha
    rcases ha with (rfl | ha) | rfl | rfl
    · rw [Appended.fits_mk]
      omega
    · -- the text itself: copied as it is, or converted code point by code point
      by_cases hutf8 : rkEncodeIsUtf8 (cstr buf) = true
      · rw [if_pos hutf8, List.mem_singleton] at ha
        rw [ha, Appended.fits_mk]
        omega
      · rw [if_neg hutf8] at ha
        simp only [hutf8] at hlen
        refine gbkAppends_fit tbl (cstr buf) 0 ?_ a ha
        simpa using hlen
    · have := hnoescape (cstr buf)
      rw [Appended.fits_mk]
      omega
    · have := hnoescape (if rkEncodeIsUtf8 (cstr buf) then cstr buf else gbkToUtf8 tbl (cstr buf))
      rw [Appended.fits_mk]
      simp only at hlen
      omega

/-- A token with room left in `item` fits there. -/
theorem columnAppends_fit (hlevel : level.length ≤ 14) {tok : List UInt8} {st : LineState}
    (h : TokOk tok) (hroom : st.item.length + tok.length + labelRoom st.index ≤ 337) :
    ∀ a ∈ columnAppends tbl level cols tok st, a.Fits := by
  intro a ha
  have hcol := columnText_length_le cols hlevel st.index (ssidUtf8_length_le tbl h)
  rw [columnAppends] at ha
  split_ifs at ha with hbit h4
  · rcases List.mem_append.mp ha with ha | ha
    · exact ssidAppends_fit tbl h a ha
    · obtain ⟨heads, hssid⟩ := ssidColumn_next tbl h st.isNonpsk st.heads
      rw [hssid, List.mem_singleton] at ha
      rw [h4] at hcol hroom
      rw [ha, Appended.fits_mk]
      omega
  · rw [List.mem_singleton] at ha
    rw [columnText_congr cols h4 tok _ []] at hcol
    rw [ha, Appended.fits_mk]
    omega
  · cases ha

/-! ## The loops -/

theorem lineAppends_fit (hlevel : level.length ≤ 14) {toks : List (List UInt8)}
    {st : LineState} (fuel : Nat) (h : LineInv toks st) :
    ∀ a ∈ lineAppends tbl level cols fuel toks st, a.Fits := by
  -- the invariant of the inner loop excludes the `continue`, so the tokens get fewer
  induction toks generalizing fuel st with
  | nil =>
    intro a ha
    rw [lineAppends] at ha
    cases ha
  | cons tok toks ih =>
    intro a ha
    cases fuel with
    | zero => cases ha
    | succ fuel =>
      obtain ⟨st', hst, -, -, hinv⟩ := lineInv_next tbl cols hlevel h
      rw [lineAppends, hst] at ha
      rcases List.mem_append.mp ha with ha | ha
      · have hstrip := (dropTrailing_sublist 10 tok).length_le
        have hroom := h.room
        rw [List.flatten_cons, List.length_append] at hroom
        exact columnAppends_fit tbl cols hlevel (h.toksOk tok (List.mem_cons_self ..))
          (by omega) a ha
      · exact ih fuel hinv a ha

/-- The growth by 512 bytes always suffices for one object. -/
theorem itemAppends_fit {st : ScanState} {ls : LineState} (hitem : ls.item.length ≤ 337)
    (hsize : st.scanR.length + 3 < st.size) : ∀ a ∈ itemAppends st ls, a.Fits := by
  intro a ha
  have hlen := closeItem_length_le ls.item
  have hdrop := (dropTrailing_sublist 44 ls.item).length_le
  rw [itemAppends] at ha
  simp only [List.mem_cons, List.not_mem_nil, or_false] at ha
  rcases ha with rfl | rfl
  · show (dropTrailing 44 ls.item).length + 2 + 1 ≤ 384
    omega
  · rw [Appended.fits_mk]
    split_ifs with hgrow
    · omega
    · omega

theorem scanAppends_fit (hlevel : level.length ≤ 14) {lineFuel fuel : Nat} {fp : List UInt8}
    {st : ScanState} (hline : fp.length ≤ lineFuel)
    (hok : ∀ line ∈ readLines 255 fuel fp, ∀ heads, LineInv (fields isTab line) (.start heads))
    (hsize : st.scanR.length + 3 < st.size) :
    ∀ a ∈ scanAppends tbl level cols lineFuel fuel fp st, a.Fits := by
  induction fuel generalizing fp st with
  | zero =>
    intro a ha
    cases ha
  | succ fuel ih =>
    intro a ha
    rw [readLines] at hok
    rw [scanAppends] at ha
    cases hf : fgets 255 fp with
    | none =>
      rw [hf] at ha
      cases ha
    | some p =>
      obtain ⟨line, rest⟩ := p
      rw [hf] at hok ha
      have hlt := fgets_length_lt (by omega) hf
      have hinv := hok line (List.mem_cons_self ..) st.heads
      have htoks := (fields_length_le_fgets hf).trans hline
      obtain ⟨ls, hls, -, hlen⟩ := lineLoop_done tbl cols hlevel hinv htoks
      obtain ⟨size, happ, hsize'⟩ := appendItem_done hlen hsize
      simp only [hls, happ, List.cons_append, List.mem_cons, List.mem_append] at ha
      rcases ha with rfl | ha | ha | ha
      · show 0 + 1 + 1 ≤ 384
        omega
      · exact lineAppends_fit tbl cols hlevel lineFuel hinv a ha
      · exact itemAppends_fit hlen hsize a ha
      · exact ih (by omega) (fun l hl => hok l (List.mem_cons_of_mem _ hl)) hsize' a ha

end

theorem scanFileAppends_fit (tbl : Fin 24080 → UInt16) {level : List UInt8} (cols : Nat)
    {fuel : Nat} {file : List UInt8} (hlevel : level.length ≤ 14) (hfuel : file.length < fuel)
    (hok : ∀ line ∈ scanLines file, ∀ heads, LineInv (fields isTab line) (.start heads)) :
    ∀ a ∈ scanFileAppends tbl level cols fuel (some file), a.Fits := by
  intro a ha
  rw [scanFileAppends] at ha
  split_ifs at ha with hcols
  · rw [List.mem_singleton] at ha
    rw [ha]
    exact Nat.le_refl 3
  · have hheader := afterHeader_length_le file
    have hlines : readLines 255 fuel (afterHeader file) = scanLines file :=
      readLines_fuel (by omega) (by omega) hheader
    have hstart : (chars "[").length + 3 < 512 := by decide
    obtain ⟨st, hdone, -, hsize⟩ :=
      @scanLoop_done tbl level cols hlevel fuel fuel (afterHeader file)
        ⟨chars "[", 512, ⟨[], []⟩⟩ (by omega) (by omega) (by rwa [hlines]) hstart
    simp only [hdone, List.cons_append, List.mem_cons, List.mem_append, List.not_mem_nil,
      or_false] at ha
    rcases ha with rfl | ha | rfl
    · show 0 + 1 + 1 ≤ 512
      omega
    · exact scanAppends_fit tbl cols hlevel (by omega) (by rwa [hlines]) hstart a ha
    · -- the three bytes kept free hold the bracket and the terminator
      have hdrop := (dropTrailing_sublist 44 st.scanR).length_le
      show (dropTrailing 44 st.scanR).length + 1 + 1 ≤ st.size
      omega

/-! ## The call -/

/-- The call `scan` ends on `file`, and all that its run appended (`appends`) fitted. -/
def ScanConfined
    (scan : Nat → Heads → Option (List UInt8) → Outcome (Option (List UInt8) × Heads))
    (appends : Nat → Option (List UInt8) → List Appended) (file : List UInt8) : Prop :=
  ∀ fuel, file.length < fuel →
    (∀ heads, ∃ r, scan fuel heads (some file) = .done r) ∧ ∀ a ∈ appends fuel (some file), a.Fits

/-- **No buffer of the scan overflows** on a listing of printable characters whose hex escapes
are closed: every text appended to `item`, to `scan_r` or to an array of the SSID column has
room there with its terminator. -/
theorem scan_appends_fit (tbl : Fin 24080 → UInt16) (cols : Nat) (file : List UInt8)
    (hbytes : ∀ b ∈ file, listingByte b = true)
    (hhex : ∀ line ∈ scanLines file, ∀ tok ∈ fields isTab line,
      HexClosed (dropTrailing 10 tok)) :
    ScanConfined (rkWifiScanRSec tbl cols) (scanFileAppends tbl rssiLabel cols) file ∧
    ScanConfined (rkWifiScanSoftap tbl cols) (scanFileAppends tbl signalLevelLabel cols) file := by
  have hok : ∀ line ∈ scanLines file, ∀ heads, LineInv (fields isTab line) (.start heads) :=
    fun line hline heads => lineInv_start (lineOk_of_file hbytes hhex hline) heads
  have hconfined : ∀ level : List UInt8, level.length ≤ 14 →
      ScanConfined (scanFile tbl level cols) (scanFileAppends tbl level cols) file := by
    intro level hlevel fuel hfuel
    refine ⟨fun heads => ?_, scanFileAppends_fit tbl cols hlevel hfuel hok⟩
    obtain ⟨r, hr, -⟩ := scanFile_returns tbl cols hlevel hok heads fuel hfuel
    exact ⟨r, hr⟩
  exact ⟨hconfined rssiLabel (by decide), hconfined signalLevelLabel (by decide)⟩

/-- A line whose SSID is a double byte and an escaped quote. -/
def quotedListing : List UInt8 :=
  chars "bssid / ssid\n" ++ chars "02:00:00:00:00:01\t2412\t-40\t[ESS]\t\\xc4\\xe3\\\"\n"

/-- With the table of the source. -/
theorem quotedListing_appends_fit :
    ScanConfined (rkWifiScanRSec mbGb2uniTable 0x1F)
      (scanFileAppends mbGb2uniTable rssiLabel 0x1F) quotedListing ∧
    ScanConfined (rkWifiScanSoftap mbGb2uniTable 0x1F)
      (scanFileAppends mbGb2uniTable signalLevelLabel 0x1F) quotedListing :=
  scan_appends_fit mbGb2uniTable 0x1F quotedListing
    (List.all_eq_true.mp (by decide)) (by decide)

end ConnectApp.Wifi
