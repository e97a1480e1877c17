import ConnectApp.Wifi.EscapeBounds
import ConnectApp.Wifi.SavedInfo

/-!
# Which saved ssids come back (Rk_wifi.c:455-669)

Of every row of `list_network` the id, the bssid and the flags are read back as they
were printed; the ssid is the decoding of `SavedNet.shown`, the text
`get_ssid_from_list_network` takes for the ssid column. That text is the column with
blanks cut off at its ends and, once the column has several words, with everything cut
off from the first place on where the bssid's own text occurs.

`zeroedName_eq_iff` says when the decoding of such a part is the decoding of the whole,
`saved_info_iff` when `RK_wifi_getSavedInfo` returns every ssid as printed.
-/

namespace ConnectApp.Wifi

open CString TextTools ConnectApp.Utility

/-- What the code takes for the ssid column. -/
def SavedNet.shown (n : SavedNet) : List UInt8 :=
  match fields isBlank n.column with
  | [] => n.bssid.text
  | [w] => w
  | _ => rkPropertyTrim (cutAt n.bssid.text n.column)

/-- `get_ssid_from_list_network` with any conversion of the text that it finds. -/
def ssidWith (decode : List UInt8 → Option (List UInt8)) (file : List UInt8) (row : Nat) (id : Int)
    (state bssid : List UInt8) (columns : Int) : Option (List UInt8) :=
  if getSsidDirectly state columns then decode (captureRow file row (awkField 2) 256).dropLast
  else
    let str := execCommand (sedLine (row - 1) file) 256
    let start := (decimal id).length
    match strstr bssid str with
    | none => some []
    | some fin =>
      if fin < start then none
      else decode (rkPropertyTrim ((str.drop start).take (fin - start)))

theorem getSsid_eq_with (file : List UInt8) (row : Nat) (gbk : List GbkEntry) :
    getSsidFromListNetwork file row gbk = ssidWith (decodeSsid gbk) file row := rfl

theorem rkPropertyTrim_sublist (t : List UInt8) : (rkPropertyTrim t).Sublist t := by
  have hrtrim : (rtrim t).Sublist t := by
    have := List.reverse_sublist.mpr (List.dropWhile_sublist isSpace (l := t.reverse))
    rwa [List.reverse_reverse] at this
  exact (List.dropWhile_sublist isSpace).trans hrtrim

/-- The record of a network. -/
def SavedNet.record (gbk : List GbkEntry) (replies : NetworkReplies) (n : SavedNet) :
    Option SavedInfo :=
  (decodeSsid gbk n.shown).map fun ssid =>
    ⟨n.id, n.bssid.text, ssid, n.flags.text, keyMgmtText replies n.id⟩

section

variable {L : SavedList} {n : SavedNet} {i : Nat} (hi : L.nets[i]? = some n)

/-- The bssid's text is not found in the id; behind the column it always is. -/
theorem strstr_row (n : SavedNet) : strstr n.bssid.text (n.row ++ [10]) =
    some ((match strstr n.bssid.text n.column with
      | some k => k
      | none => n.column.length + 1) + ((decimal n.id).length + 1)) := by
  have htab : (9 : UInt8) ∉ n.bssid.text := fun h =>
    (bssidByte_ne 9 (n.bssid.text_byte 9 h)).2.2.1 rfl
  have hne := n.bssid.text_ne_nil
  have hid : strstr n.bssid.text (decimal n.id) = none := by
    rw [strstr_eq_none_iff]
    intro hin
    obtain ⟨c, hc, hdig⟩ := n.bssid.text_not_digits
    rw [n.id_digits c (hin.subset hc)] at hdig
    cases hdig
  have hrow : n.row ++ [10] = decimal n.id ++ 9 ::
      (n.column ++ 9 :: (n.bssid.text ++ (9 :: n.flags.text ++ [10]))) := by
    unfold SavedNet.row
    simp
  rw [hrow, strstr_append htab hne, hid, strstr_append htab hne, strstr_append_self hne]
  cases strstr n.bssid.text n.column with
  | some k => rfl
  | none =>
    show some (0 + (n.column.length + 1) + _) = _
    rw [Nat.zero_add]

/-- The text between the id and the bssid's text is the cut column between blanks. -/
theorem getSsid_cut (n : SavedNet) :
    rkPropertyTrim (((n.row ++ [10]).drop (decimal n.id).length).take
      ((match strstr n.bssid.text n.column with
        | some k => k
        | none => n.column.length + 1) + 1)) =
      rkPropertyTrim (cutAt n.bssid.text n.column) := by
  have hdrop : (n.row ++ [10]).drop (decimal n.id).length = 9 ::
      (n.column ++ 9 :: (n.bssid.text ++ (9 :: n.flags.text ++ [10]))) := by
    unfold SavedNet.row
    rw [List.append_assoc, List.drop_left]
    simp
  rw [hdrop, List.take_succ_cons]
  unfold rkPropertyTrim cutAt
  rw [trim_cons rfl]
  cases h : strstr n.bssid.text n.column with
  | some k =>
    have hk := (strstr_eq_some h).1
    simp only [List.take_append_of_le_length hk]
  | none =>
    have htake : (n.column ++ 9 :: (n.bssid.text ++ (9 :: n.flags.text ++ [10]))).take
        (n.column.length + 1) = n.column ++ [9] := by
      rw [List.take_length_add_append]
      rfl
    have hspace : ∀ b ∈ ([9] : List UInt8), isSpace b = true := by
      intro b hb
      obtain rfl := List.mem_singleton.mp hb
      rfl
    simp only [htake, rtrim_append hspace]

include hi

theorem captureLine_eq : execCommand (sedLine (i + 1) L.text) 256 = n.row ++ [10] := by
  have hlen := n.row_length
  have hsed : sedLine (i + 1) L.text = n.row ++ [10] := sedLine_unlines L.lines_ok (line_eq hi)
  rw [hsed]
  refine execCommand_short ?_
  rw [List.length_append, List.length_singleton]
  omega

/-- Up to one word: the second word of the row is taken. -/
theorem captureRow_shown (h : (fields isBlank n.column).length ≤ 1) :
    (captureRow L.text (i + 2) (awkField 2) 256).dropLast = n.shown := by
  have hrow := n.fields_row
  have hbssid := n.bssid.text_length
  unfold SavedNet.shown
  match hw : fields isBlank n.column, h with
  | [], _ =>
    have hsplit : fields isBlank n.row = [decimal n.id] ++ n.bssid.text :: n.flags.fields := by
      rw [hrow, hw]
      rfl
    rw [captureRow_field hi hsplit (show 2 = _ from rfl) (by omega), List.dropLast_concat]
  | [w], _ =>
    have hsplit : fields isBlank n.row =
        [decimal n.id] ++ w :: (n.bssid.text :: n.flags.fields) := by
      rw [hrow, hw]
      rfl
    have hin : w <:+: n.column := (mem_fields (hw ▸ List.mem_singleton_self w)).1
    have hlen := hin.length_le.trans n.column_length
    rw [captureRow_field hi hsplit (show 2 = _ from rfl) (by omega), List.dropLast_concat]

theorem ssidWith_eq (decode : List UInt8 → Option (List UInt8)) :
    ssidWith decode L.text (i + 2) n.id n.flags.text n.bssid.text n.columns = decode n.shown := by
  unfold ssidWith
  rw [getSsidDirectly_eq]
  by_cases h : (fields isBlank n.column).length ≤ 1
  · rw [if_pos (decide_eq_true h), captureRow_shown hi h]
  · have hshown : n.shown = rkPropertyTrim (cutAt n.bssid.text n.column) := by
      unfold SavedNet.shown
      match hw : fields isBlank n.column with
      | [] => rw [hw] at h; simp at h
      | [w] => rw [hw] at h; simp at h
      | _ :: _ :: _ => rfl
    rw [if_neg (by simpa using h), show i + 2 - 1 = i + 1 from rfl, captureLine_eq hi]
    simp only [strstr_row]
    rw [if_neg (by omega), hshown, ← getSsid_cut n]
    congr 3
    omega

/-- One round of the loop reads one row. -/
theorem savedRecord_eq (gbk : List GbkEntry) (replies : NetworkReplies) :
    savedRecord L.text (i + 2) gbk replies = n.record gbk replies := by
  unfold savedRecord
  simp only [getColumns_eq hi, getId_eq hi, getFlags_eq hi, getBssid_eq hi, getSsid_eq_with,
    ssidWith_eq hi]
  rfl

end

/-- A loop over the indices of a list that reads one element a round. -/
theorem mapM_range {α β : Type} {l : List α} {f : Nat → Option β} {g : α → Option β}
    (h : ∀ i a, l[i]? = some a → f i = g a) : (List.range l.length).mapM f = l.mapM g := by
  induction l generalizing f with
  | nil => rfl
  | cons a l ih =>
    have htail := @ih (fun i => f (i + 1)) fun i b hb => h (i + 1) b hb
    rw [List.length_cons, List.range_succ_eq_map, List.mapM_cons, List.mapM_map,
      List.mapM_cons, h 0 a rfl]
    exact congrArg _ (funext fun b => congrArg (· >>= _) htail)

/-- The function reads every row and no other. -/
theorem getSavedInfo_eq (L : SavedList) (gbk : List GbkEntry) (replies : NetworkReplies) :
    rkWifiGetSavedInfo gbk replies L.text =
      if L.nets = [] then some (-1, [])
      else (L.nets.mapM (SavedNet.record gbk replies)).map (0, ·) := by
  have hlen := L.nets_int
  have hrange : -2 ^ 31 ≤ ((L.nets.length + 1 : Nat) : Int) ∧
      ((L.nets.length + 1 : Nat) : Int) < 2 ^ 31 := by omega
  have hdec := decimal_length_le hrange
  have hcnt : atoi (execCommand (wcLines L.text) 128) - 1 = L.nets.length := by
    have hcount : L.text.count 10 = L.nets.length + 1 := by
      unfold SavedList.text
      rw [count_unlines L.lines_ok, List.length_cons, List.length_map]
    unfold wcLines
    rw [hcount, execCommand_short (by rw [List.length_append, List.length_singleton]; omega),
      atoi_decimal_append hrange newline_head]
    omega
  unfold rkWifiGetSavedInfo
  simp only [hcnt, Int.toNat_natCast]
  by_cases hnil : L.nets = []
  · rw [if_pos hnil, hnil]
    rfl
  · have hpos := List.length_pos_iff.mpr hnil
    rw [if_neg hnil, if_neg (by omega),
      mapM_range fun i n hi => savedRecord_eq hi gbk replies]

/-! ## The decoding of a part of the column -/

/-- What `spec_char_convers` makes of a text that goes on: the bytes it has written, and the hex
escape it has not read to its end. -/
def specCharCut : List UInt8 → List UInt8 × List UInt8
  | [] => ([], [])
  | [b] => ([b], [])
  | b :: c :: rest =>
    if b = bslash ∧ c = lowerX then
      match rest with
      | h :: l :: rest' => (specCharCut rest').map (strtoul16 h l :: ·) id
      | _ => ([], b :: c :: rest)
    else (specCharCut (c :: rest)).map (b :: ·) id

/-- A text is decoded to what the cut has written, and to what the unfinished escape is decoded to
with the rest of the text behind it. -/
theorem specCharZeroed_append (t : List UInt8) {r : List UInt8} (hr : r.head? ≠ some lowerX) :
    specCharZeroed (t ++ r) =
      (specCharCut t).1 ++ specCharZeroed ((specCharCut t).2 ++ r) := by
  induction t using specCharCut.induct with
  | case1 => rfl
  | case2 b => exact specCharZeroed_cons fun hc => hr hc.2
  | case3 b c hbc h l rest ih =>
    rw [specCharCut, if_pos hbc, hbc.1, hbc.2]
    show specCharZeroed (bslash :: lowerX :: (h :: l :: (rest ++ r))) = _
    rw [specCharZeroed_escape]
    exact congrArg (strtoul16 h l :: ·) ih
  | case4 b c rest hbc hrest =>
    rw [specCharCut.eq_def]
    simp only [if_pos hbc]
    match rest with
    | [] => rfl
    | [_] => rfl
    | h :: l :: rest => exact absurd rfl (hrest h l rest)
  | case5 b c rest hbc ih =>
    rw [specCharCut.eq_def]
    simp only [if_neg hbc]
    show specCharZeroed (b :: (c :: rest ++ r)) = _
    rw [specCharZeroed_cons (by simpa using hbc), ih]
    rfl

/-- An escape that is not read to its end has at most one digit. -/
theorem specCharCut_cases (t : List UInt8) : (specCharCut t).2 = [] ∨
    (specCharCut t).2 = [bslash, lowerX] ∨ ∃ h, (specCharCut t).2 = [bslash, lowerX, h] := by
  induction t using specCharCut.induct with
  | case1 => exact .inl rfl
  | case2 b => exact .inl rfl
  | case3 b c hbc h l rest ih =>
    rw [specCharCut, if_pos hbc]
    exact ih
  | case4 b c rest hbc hrest =>
    rw [specCharCut.eq_def]
    simp only [hbc.1, hbc.2]
    match rest with
    | [] => exact .inr (.inl rfl)
    | [h] => exact .inr (.inr ⟨h, rfl⟩)
    | h :: l :: rest => exact absurd rfl (hrest h l rest)
  | case5 b c rest hbc ih =>
    rw [specCharCut.eq_def]
    simp only [if_neg hbc]
    exact ih

/-- A text without characters, or with an escape of the zero byte at its start. -/
def ShowsNothing (t : List UInt8) : Prop :=
  t = [] ∨ [bslash, lowerX] <+: t ∧ hexAt (t.drop 2) = 0

theorem cstr_cons_eq_nil_iff {b : UInt8} {t : List UInt8} : cstr (b :: t) = [] ↔ b = 0 := by
  by_cases hb : b = 0
  · rw [hb, cstr_cons_zero]
    exact iff_of_true rfl rfl
  · rw [cstr_cons_of_ne hb]
    exact iff_of_false (List.cons_ne_nil _ _) hb

theorem showsNothing_iff {t : List UInt8} (h0 : 0 ∉ t) :
    cstr (specCharZeroed t) = [] ↔ ShowsNothing t := by
  cases t with
  | nil => exact iff_of_true rfl (.inl rfl)
  | cons b t =>
    rw [ShowsNothing, or_iff_right (List.cons_ne_nil b t), pair_prefix_iff]
    by_cases hx : b = bslash ∧ t.head? = some lowerX
    · obtain ⟨rfl, hx⟩ := hx
      obtain ⟨r, rfl⟩ := List.head?_eq_some_iff.mp hx
      rw [specCharZeroed_escape, cstr_cons_eq_nil_iff]
      exact (and_iff_right ⟨rfl, rfl⟩).symm
    · rw [specCharZeroed_cons hx, cstr_cons_eq_nil_iff]
      exact iff_of_false (fun hb => h0 (hb ▸ List.mem_cons_self ..)) fun h => hx h.1

/-- With `r` behind it instead of zeros, the unfinished escape `e` shows the same. -/
def EscapeHides (e r : List UInt8) : Prop :=
  e = [bslash, lowerX] ∧ hexAt r = 0 ∨
    ∃ h, e = [bslash, lowerX, h] ∧ hexAt (h :: r) = hexAt [h] ∧
      (hexAt [h] = 0 ∨ ShowsNothing r.tail)

/-- The rest `r` of a text is not seen behind the part `x`: that part is decoded to a zero byte, or
it ends in an escape that `r` does not change. -/
def LossHidden (x r : List UInt8) : Prop :=
  0 ∈ (specCharCut x).1 ∨ EscapeHides (specCharCut x).2 r

theorem cstr_pair_eq_iff {v w : UInt8} {t : List UInt8} :
    cstr [v] = cstr (w :: t) ↔ w = v ∧ (v = 0 ∨ cstr t = []) := by
  by_cases hv : v = 0
  · rw [hv, cstr_cons_zero, eq_comm, cstr_cons_eq_nil_iff]
    simp
  · by_cases hw : w = 0
    · rw [hw, cstr_cons_zero, cstr_cons_of_ne hv]
      exact iff_of_false (List.cons_ne_nil _ _) fun h => hv h.1.symm
    · rw [cstr_cons_of_ne hv, cstr_cons_of_ne hw, List.cons.injEq, eq_comm (a := v),
        or_iff_right hv, eq_comm (a := cstr [])]
      rfl

/-- A character that neither pass takes for a part of an escape. -/
def Plain (b : UInt8) : Prop := b ≠ bslash ∧ b ≠ quote ∧ b ≠ lowerX ∧ b ≠ 0

theorem escapeHides_iff {t r : List UInt8} (hr : ∀ b ∈ r.head?, Plain b) (h0 : 0 ∉ r) :
    cstr (specCharZeroed (specCharCut t).2) = cstr (specCharZeroed ((specCharCut t).2 ++ r)) ↔
      r = [] ∨ EscapeHides (specCharCut t).2 r := by
  rcases specCharCut_cases t with he | he | ⟨h, he⟩ <;> rw [he]
  · -- no escape: the first character of the rest is seen
    have hnone : ¬ EscapeHides [] r := by simp [EscapeHides]
    have hrest : ¬ ([bslash, lowerX] <+: r ∧ hexAt (r.drop 2) = 0) := by
      rintro ⟨⟨u, rfl⟩, -⟩
      exact (hr bslash rfl).1 rfl
    rw [or_iff_left hnone, List.nil_append, eq_comm]
    exact (showsNothing_iff h0).trans (or_iff_left hrest)
  · -- an escape without digits shows nothing
    have hhex : EscapeHides [bslash, lowerX] r ↔ hexAt r = 0 := by simp [EscapeHides]
    have hnil : r = [] → hexAt r = 0 := by
      rintro rfl
      rfl
    rw [hhex, or_iff_right_of_imp hnil, eq_comm]
    show cstr (specCharZeroed (bslash :: lowerX :: r)) = [] ↔ _
    rw [specCharZeroed_escape, cstr_cons_eq_nil_iff]
  · have hhex : EscapeHides [bslash, lowerX, h] r ↔
        hexAt (h :: r) = hexAt [h] ∧ (hexAt [h] = 0 ∨ ShowsNothing r.tail) := by
      simp [EscapeHides]
    have hnil : r = [] → hexAt (h :: r) = hexAt [h] ∧ (hexAt [h] = 0 ∨ ShowsNothing r.tail) := by
      rintro rfl
      exact ⟨rfl, .inr (.inl rfl)⟩
    rw [hhex, or_iff_right_of_imp hnil,
      ← showsNothing_iff fun h => h0 (List.mem_of_mem_tail h)]
    show cstr [hexAt [h]] = cstr (specCharZeroed (bslash :: lowerX :: (h :: r))) ↔ _
    rw [specCharZeroed_escape, cstr_pair_eq_iff, List.drop_succ_cons, List.drop_one]

/-- What the loop shows of an unfinished escape is no space. -/
theorem space_not_mem_cut (t : List UInt8) : 32 ∉ cstr (specCharZeroed (specCharCut t).2) := by
  have hdigit : ∀ h, hexAt [h] ≠ 32 := by decide +kernel
  intro hmem
  have hmem := (cstr_sublist _).subset hmem
  rcases specCharCut_cases t with he | he | ⟨h, he⟩ <;> rw [he] at hmem
  · cases hmem
  · exact absurd hmem (by decide)
  · exact hdigit h (List.mem_singleton.mp hmem).symm

/-- Spaces in front of a text make it longer by spaces. -/
theorem append_eq_iff {a o u w : List UInt8} (ha : ∀ b ∈ a, b = 32) (hu : 32 ∉ u) :
    o ++ u = a ++ (o ++ w) ↔ a = [] ∧ u = w := by
  constructor
  · intro h
    have hcount := congrArg (List.count 32) h
    rw [List.count_append, List.count_append, List.count_append, List.count_eq_zero.mpr hu,
      List.count_eq_length.mpr fun b hb => (ha b hb).symm] at hcount
    obtain rfl := List.eq_nil_of_length_eq_zero (show a.length = 0 by omega)
    exact ⟨rfl, List.append_cancel_left h⟩
  · rintro ⟨rfl, rfl⟩
    rfl

theorem zeroedName_cons {b : UInt8} (hb : Plain b) (t : List UInt8) :
    zeroedName (b :: t) = b :: zeroedName t := by
  rw [zeroedName, removeEscape_cons hb.1, specCharZeroed_cons fun h => hb.1 h.1,
    cstr_cons_of_ne hb.2.2.2]
  rfl

theorem zeroedName_plain {a : List UInt8} (ha : ∀ b ∈ a, Plain b) (t : List UInt8) :
    zeroedName (a ++ t) = a ++ zeroedName t := by
  induction a with
  | nil => rfl
  | cons b a ih =>
    rw [List.forall_mem_cons] at ha
    rw [List.cons_append, zeroedName_cons ha.1, ih ha.2]
    rfl

theorem plain_space : Plain 32 := by
  refine ⟨?_, ?_, ?_, ?_⟩ <;> decide

/-- **Parts of a text.** A part decodes to what the text decodes to exactly when nothing stands in
front of it and the rest is empty or hidden. -/
theorem zeroedName_eq_iff {a x r : List UInt8} (ha : ∀ b ∈ a, b = 32)
    (hr : ∀ b ∈ r.head?, Plain b) (h0 : 0 ∉ r) :
    zeroedName x = zeroedName (a ++ x ++ r) ↔
      a = [] ∧ (r = [] ∨ LossHidden (removeEscapeCharacter x) (removeEscapeCharacter r)) := by
  have hhead : ∀ b ∈ (removeEscapeCharacter r).head?, Plain b := by
    cases r with
    | nil => exact fun b hb => nomatch hb
    | cons b r =>
      rw [removeEscape_cons (hr b rfl).1]
      exact hr
  have hnil : r = [] ↔ removeEscapeCharacter r = [] := by
    cases r with
    | nil => exact iff_of_true rfl rfl
    | cons b r =>
      rw [removeEscape_cons (hr b rfl).1]
      exact iff_of_false (List.cons_ne_nil _ _) (List.cons_ne_nil _ _)
  have hx : (removeEscapeCharacter r).head? ≠ some lowerX := fun h => (hhead _ h).2.2.1 rfl
  have hwhole := specCharZeroed_append (removeEscapeCharacter x) hx
  have hpart := specCharZeroed_append (removeEscapeCharacter x) (r := []) (by simp)
  rw [List.append_nil, List.append_nil] at hpart
  rw [List.append_assoc, zeroedName_plain fun b hb => ha b hb ▸ plain_space, zeroedName, zeroedName,
    removeEscape_append x fun b hb => ⟨(hr b hb).1, (hr b hb).2.1⟩, hwhole, hpart, cstr_append,
    cstr_append, hnil, LossHidden]
  by_cases hzero : 0 ∈ (specCharCut (removeEscapeCharacter x)).1
  · -- both texts end at the zero byte
    rw [if_pos hzero, if_pos hzero, and_iff_left (.inr (.inl hzero)), eq_comm]
    exact List.append_left_eq_self
  · rw [if_neg hzero, if_neg hzero, append_eq_iff ha (space_not_mem_cut _),
      escapeHides_iff hhead fun h => h0 ((removeEscape_sublist r).subset h),
      or_iff_right hzero]

/-! ## The part that is taken for the column -/

theorem plain_of_bssid {b : UInt8} (h : bssidByte b = true) : Plain b := by
  obtain ⟨-, -, -, -, -, h1, h2, h3, h4⟩ := bssidByte_ne b h
  exact ⟨h1, h2, h3, h4⟩

/-- The only blank in a column is the space. -/
theorem SavedNet.blank_eq (n : SavedNet) {b : UInt8} (hb : b ∈ n.column) :
    (isBlank b = true → b = 32) ∧ (isSpace b = true → b = 32) := by
  have hspace : ∀ b, printable b = true →
      (isBlank b = true → b = 32) ∧ (isSpace b = true → b = 32) := by
    intro b hb
    simp [printable, isBlank, isSpace, UInt8.le_iff_toNat_le, ← UInt8.toNat_inj] at hb ⊢
    omega
  exact hspace b (n.column_printable b hb)

/-- How the part taken for the column lies in it. -/
structure ColumnSplit (n : SavedNet) (a r : List UInt8) : Prop where
  eq : n.column = a ++ n.shown ++ r
  front : ∀ b ∈ a, b = 32
  next : ∀ b ∈ r.head?, Plain b
  start : a = [] ↔ n.column.head? ≠ some 32
  rest : a = [] → (r = [] ↔
    n.column.getLast? ≠ some 32 ∧ (32 ∈ n.column → ¬ n.bssid.text <:+: n.column))

/-- The front part is empty exactly when the column does not start with a space. -/
theorem front_eq_nil_iff {c a x r : List UInt8} (hc : c = a ++ x ++ r) (ha : ∀ b ∈ a, b = 32)
    (hx : ∀ b ∈ (x ++ r).head?, b ≠ 32) : a = [] ↔ c.head? ≠ some 32 := by
  cases a with
  | nil =>
    refine iff_of_true rfl fun h => ?_
    rw [hc, List.nil_append] at h
    exact hx 32 h rfl
  | cons b a =>
    refine iff_of_false (List.cons_ne_nil _ _) fun h => h ?_
    rw [hc, ha b (List.mem_cons_self ..)]
    rfl

/-- The last character of a nonempty end of the column. -/
theorem getLast_of_spaces {c x r : List UInt8} (hc : c = x ++ r) (hr : ∀ b ∈ r, b = 32)
    (hne : r ≠ []) : c.getLast? = some 32 := by
  rw [hc, List.getLast?_append_of_ne_nil _ hne, List.getLast?_eq_some_getLast hne]
  exact congrArg some (hr _ (List.getLast_mem hne))

/-- One word: it is taken without the spaces around it. -/
theorem split_word {n : SavedNet} {w : List UInt8} (hw : fields isBlank n.column = [w]) :
    ∃ a r, ColumnSplit n a r := by
  obtain ⟨a, r, hc, ha, hr, -⟩ := fields_cons_split hw
  obtain ⟨-, hword, hne⟩ := mem_fields (hw ▸ List.mem_singleton_self w)
  have hshown : n.shown = w := by
    unfold SavedNet.shown
    rw [hw]
  have ha32 : ∀ b ∈ a, b = 32 := fun b hb => (n.blank_eq (by rw [hc]; simp [hb])).1 (ha b hb)
  have hr32 : ∀ b ∈ r, b = 32 := fun b hb =>
    (n.blank_eq (by rw [hc]; simp [hb])).1 (fields_eq_nil hr b hb)
  have hw32 : ∀ b ∈ w, b ≠ 32 := by
    rintro b hb rfl
    cases hword 32 hb
  refine ⟨a, r, ?_, ha32, ?_, ?_, ?_⟩
  · rw [hshown]
    exact hc
  · intro b hb
    rw [hr32 b (List.mem_of_mem_head? hb)]
    exact plain_space
  · refine front_eq_nil_iff hc ha32 fun b hb => ?_
    rw [List.head?_append_of_ne_nil _ hne] at hb
    exact hw32 b (List.mem_of_mem_head? hb)
  · rintro rfl
    rw [List.nil_append] at hc
    constructor
    · rintro rfl
      rw [List.append_nil] at hc
      have h32 : 32 ∉ n.column := fun h => hw32 32 (hc ▸ h) rfl
      exact ⟨fun h => h32 (List.mem_of_getLast? h), fun h => absurd h h32⟩
    · rintro ⟨hlast, -⟩
      by_contra hne
      exact hlast (getLast_of_spaces hc hr32 hne)

/-- Several words: the column is cut at the bssid's text and trimmed. -/
theorem split_words {n : SavedNet} {v w : List UInt8} {ws : List (List UInt8)}
    (hw : fields isBlank n.column = v :: w :: ws) : ∃ a r, ColumnSplit n a r := by
  have hshown : n.shown = rkPropertyTrim (cutAt n.bssid.text n.column) := by
    unfold SavedNet.shown
    rw [hw]
  have h32 : 32 ∈ n.column := by
    by_contra hno
    have hnone : ∀ b ∈ n.column, isBlank b = false := by
      intro b hb
      rw [Bool.eq_false_iff]
      exact fun h => hno ((n.blank_eq hb).1 h ▸ hb)
    rw [fields_of_none hnone n.column_ne_nil] at hw
    cases hw
  obtain ⟨z, hz, hzin, hzhead⟩ := cutAt_split (t := n.column) n.bssid.text_ne_nil
  obtain ⟨a, r, hy, ha, hr, hhead, hlast, hnil⟩ := trim_split (cutAt n.bssid.text n.column)
  have hzb : ∀ b ∈ z.head?, bssidByte b = true := fun b hb => n.bssid.text_byte b (hzhead b hb)
  rw [show ltrim (rtrim (cutAt n.bssid.text n.column)) = n.shown from hshown.symm]
    at hy hhead hlast hnil
  have hc : n.column = a ++ n.shown ++ (r ++ z) := by
    rw [← List.append_assoc, ← hy]
    exact hz
  have ha32 : ∀ b ∈ a, b = 32 := fun b hb => (n.blank_eq (by rw [hc]; simp [hb])).2 (ha b hb)
  have hr32 : ∀ b ∈ r, b = 32 := fun b hb => (n.blank_eq (by rw [hc]; simp [hb])).2 (hr b hb)
  have hne32 : ∀ b, isSpace b = false → b ≠ 32 := by
    rintro b hb rfl
    cases hb
  refine ⟨a, r ++ z, hc, ha32, ?_, ?_, ?_⟩
  · intro b hb
    cases r with
    | nil => exact plain_of_bssid (hzb b hb)
    | cons d r =>
      obtain rfl := Option.some.inj hb
      rw [hr32 d (List.mem_cons_self ..)]
      exact plain_space
  · refine front_eq_nil_iff hc ha32 fun b hb => ?_
    by_cases hx : n.shown = []
    · rw [hx, hnil hx] at hb
      exact hne32 b (bssidByte_ne b (hzb b hb)).2.1
    · rw [List.head?_append_of_ne_nil _ hx] at hb
      exact hne32 b (hhead b hb)
  · rintro rfl
    rw [List.nil_append] at hc
    constructor
    · intro hrz
      obtain ⟨rfl, rfl⟩ := List.append_eq_nil_iff.mp hrz
      rw [List.append_nil, List.append_nil] at hc
      refine ⟨fun h => ?_, fun _ => hzin.mp rfl⟩
      rw [hc] at h
      exact hne32 32 (hlast 32 h) rfl
    · rintro ⟨hend, hin⟩
      obtain rfl := hzin.mpr (hin h32)
      rw [List.append_nil] at hc ⊢
      by_contra hne
      exact hend (getLast_of_spaces hc hr32 hne)

/-! ## When the column is read as printed -/

/-- The part of the column behind the text that is taken for it. -/
def SavedNet.lost (n : SavedNet) : List UInt8 := n.column.drop n.shown.length

/-- The ssid column of a network survives: `spec_char_convers` keeps to `buf_temp`, the column does
not start with a space, and it neither ends with a space nor, having a space, contains the text of
the bssid, unless what is lost is not seen. -/
structure ColumnKept (n : SavedNet) : Prop where
  fits : TempFits (removeEscapeCharacter n.shown)
  front : n.column.head? ≠ some 32
  behind : (n.column.getLast? ≠ some 32 ∧ (32 ∈ n.column → ¬ n.bssid.text <:+: n.column)) ∨
    LossHidden (removeEscapeCharacter n.shown) (removeEscapeCharacter n.lost)

theorem SavedNet.shown_length (n : SavedNet) : n.shown.length ≤ 128 := by
  have hcol := n.column_length
  rw [SavedNet.shown]
  split
  · exact n.bssid.text_length.trans (by decide)
  · next w hw =>
    have hin : w <:+: n.column := (mem_fields (hw ▸ List.mem_singleton_self w)).1
    exact hin.length_le.trans hcol
  · refine (rkPropertyTrim_sublist _).length_le.trans ?_
    rw [cutAt]
    split
    · rw [List.length_take]
      omega
    · exact hcol

/-- On the text of a row the call is defined exactly if `buf_temp` is long enough. -/
theorem SavedNet.conversDefined_iff (n : SavedNet) :
    ConversDefined (removeEscapeCharacter n.shown) ↔ TempFits (removeEscapeCharacter n.shown) := by
  have hshown := n.shown_length
  have hlen := (removeEscape_sublist n.shown).length_le
  exact ConnectApp.Wifi.conversDefined_iff (by omega)

/-- A column of spaces is lost: the bssid is taken for it. -/
theorem not_kept_of_blank {n : SavedNet} (hw : fields isBlank n.column = []) :
    ¬ (zeroedName n.shown = zeroedName n.column) ∧ n.column.head? = some 32 := by
  have h32 : ∀ b ∈ n.column, b = 32 := fun b hb => (n.blank_eq hb).1 (fields_eq_nil hw b hb)
  obtain ⟨b, t, hc⟩ := List.exists_cons_of_ne_nil n.column_ne_nil
  have hb : b = 32 := h32 b (by rw [hc]; exact List.mem_cons_self ..)
  have hshown : n.shown = n.bssid.text := by
    rw [SavedNet.shown, hw]
  have hself : ∀ t : List UInt8, (∀ b ∈ t, Plain b) → zeroedName t = t := by
    intro t ht
    have := zeroedName_plain ht []
    rwa [List.append_nil, show zeroedName [] = [] from rfl, List.append_nil] at this
  refine ⟨fun heq => ?_, by rw [hc, hb]; rfl⟩
  rw [hshown, hself _ fun b hb => plain_of_bssid (n.bssid.text_byte b hb),
    hself _ fun b hb => h32 b hb ▸ plain_space] at heq
  have hmem : (32 : UInt8) ∈ n.bssid.text := by
    rw [heq, hc, hb]
    exact List.mem_cons_self ..
  cases n.bssid.text_byte 32 hmem

/-- **Column kept.** The text taken for the column decodes to what the printed column
decodes to. -/
theorem columnKept_iff (n : SavedNet) :
    (ConversDefined (removeEscapeCharacter n.shown) ∧ zeroedName n.shown = zeroedName n.column) ↔
      ColumnKept n := by
  rw [n.conversDefined_iff]
  have hsplit : fields isBlank n.column = [] ∨ ∃ a r, ColumnSplit n a r := by
    match hw : fields isBlank n.column with
    | [] => exact .inl rfl
    | [w] => exact .inr (split_word hw)
    | v :: w :: ws => exact .inr (split_words hw)
  rcases hsplit with hw | ⟨a, r, hs⟩
  · obtain ⟨hne, hhead⟩ := not_kept_of_blank hw
    exact iff_of_false (fun h => hne h.2) fun h => h.front hhead
  · have hnul : 0 ∉ r := fun h => absurd
      (n.column_printable 0 (by rw [hs.eq]; exact List.mem_append_right _ h)) (by decide)
    have hdec := zeroedName_eq_iff (x := n.shown) hs.front hs.next hnul
    rw [← hs.eq] at hdec
    -- without spaces in front, the rest is what is lost
    have hlost : a = [] → r = n.lost := by
      rintro rfl
      rw [SavedNet.lost, hs.eq, List.nil_append, List.drop_left]
    rw [hdec]
    constructor
    · rintro ⟨hfits, ha, hr⟩
      exact ⟨hfits, hs.start.mp ha, hr.imp (hs.rest ha).mp fun h => hlost ha ▸ h⟩
    · rintro ⟨hfits, hfront, hbehind⟩
      have ha := hs.start.mpr hfront
      exact ⟨hfits, ha, hbehind.imp (hs.rest ha).mpr fun h => hlost ha ▸ h⟩

/-- The record of a network as it should be: id, bssid and flags as printed, the ssid
the decoding of exactly the printed column. -/
structure RightRecord (gbk : List GbkEntry) (n : SavedNet) (info : SavedInfo) : Prop where
  id : info.id = n.id
  bssid : info.bssid = n.bssid.text
  state : info.state = n.flags.text
  ssid : info.ssid = decodeZeroed gbk n.column

/-- `RK_wifi_getSavedInfo` returns one right record per network, in order, whatever
names the GBK table holds. -/
def ParsesList (L : SavedList) : Prop :=
  ∀ gbk replies, ∃ ret infos, rkWifiGetSavedInfo gbk replies L.text = some (ret, infos) ∧
    List.Forall₂ (RightRecord gbk) L.nets infos

theorem record_right {n : SavedNet} (h : ColumnKept n) (gbk : List GbkEntry)
    (replies : NetworkReplies) : ∃ info, n.record gbk replies = some info ∧
      RightRecord gbk n info := by
  obtain ⟨hdefined, heq⟩ := (columnKept_iff n).mpr h
  refine ⟨⟨n.id, n.bssid.text, decodeZeroed gbk n.shown, n.flags.text, keyMgmtText replies n.id⟩,
    ?_, rfl, rfl, rfl, ?_⟩
  · rw [SavedNet.record, decodeSsid, if_pos hdefined]
    rfl
  · exact congrArg (getEncodeGbkUtf8 gbk) heq

/-- Without GBK names the decoding is the saved name itself. -/
theorem kept_of_record {n : SavedNet} {replies : NetworkReplies} {info : SavedInfo}
    (h : n.record [] replies = some info) (hr : RightRecord [] n info) : ColumnKept n := by
  obtain ⟨ssid, hssid, rfl⟩ := Option.map_eq_some_iff.mp h
  rw [decodeSsid] at hssid
  split_ifs at hssid with hdefined
  exact (columnKept_iff n).mp ⟨hdefined, (Option.some.inj hssid).trans hr.ssid⟩

theorem mapM_forall₂ {α β : Type} {R : α → β → Prop} {f : α → Option β} {l : List α}
    (h : ∀ a ∈ l, ∃ b, f a = some b ∧ R a b) : ∃ bs, l.mapM f = some bs ∧ List.Forall₂ R l bs := by
  induction l with
  | nil => exact ⟨[], rfl, .nil⟩
  | cons a l ih =>
    rw [List.forall_mem_cons] at h
    obtain ⟨b, hb, hab⟩ := h.1
    obtain ⟨bs, hbs, hall⟩ := ih h.2
    exact ⟨b :: bs, by rw [List.mapM_cons, hb, hbs]; rfl, .cons hab hall⟩

theorem forall₂_of_mapM {α β : Type} {f : α → Option β} {l : List α} {bs : List β}
    (h : l.mapM f = some bs) : List.Forall₂ (fun a b => f a = some b) l bs := by
  induction l generalizing bs with
  | nil =>
    obtain rfl := Option.some.inj h
    exact .nil
  | cons a l ih =>
    rw [List.mapM_cons] at h
    obtain ⟨b, hb, h⟩ := Option.bind_eq_some_iff.mp h
    obtain ⟨bs', hbs, h⟩ := Option.bind_eq_some_iff.mp h
    obtain rfl := Option.some.inj h
    exact .cons hb (ih hbs)

/-- **Saved list.** The records are right for exactly the lists of which every ssid
column is kept. -/
theorem saved_info_iff (L : SavedList) : ParsesList L ↔ ∀ n ∈ L.nets, ColumnKept n := by
  constructor
  · intro h n hn
    obtain ⟨ret, infos, heq, hall⟩ := h [] ⟨fun _ => [], fun _ => []⟩
    rw [getSavedInfo_eq, if_neg (List.ne_nil_of_mem hn)] at heq
    obtain ⟨infos', hmap, hpair⟩ := Option.map_eq_some_iff.mp heq
    obtain ⟨-, rfl⟩ := Prod.mk.inj hpair
    obtain ⟨i, hi, rfl⟩ := List.getElem_of_mem hn
    have hrec := (forall₂_of_mapM hmap).get hi (hall.length_eq ▸ hi)
    exact kept_of_record hrec (hall.get hi (hall.length_eq ▸ hi))
  · intro h gbk replies
    rw [getSavedInfo_eq]
    by_cases hnil : L.nets = []
    · rw [if_pos hnil, hnil]
      exact ⟨-1, [], rfl, .nil⟩
    · rw [if_neg hnil]
      obtain ⟨infos, hmap, hall⟩ := mapM_forall₂ fun n hn => record_right (h n hn) gbk replies
      exact ⟨0, infos, by rw [hmap]; rfl, hall⟩

/-- One saved network called `many nets`, for any bssid. -/
def manyNets : SavedList where
  header := chars "network id / ssid / bssid / flags"
  header_line := by decide +kernel
  nets := [⟨0, by decide, chars "many nets", by decide, by decide, .any, .none⟩]
  nets_int := by decide

/-- The bssid column `any` is found inside the name: the network comes back as `m`. -/
theorem manyNets_lost : ¬ ∀ L : SavedList, ParsesList L := by
  intro h
  obtain ⟨ret, infos, hret, hall⟩ := h manyNets [] ⟨fun _ => [], fun _ => []⟩
  have hrun : rkWifiGetSavedInfo [] ⟨fun _ => [], fun _ => []⟩ manyNets.text =
      some (0, [⟨0, chars "any", chars "m", [], []⟩]) := by decide +kernel
  rw [hrun] at hret
  obtain ⟨-, rfl⟩ := Prod.mk.inj (Option.some.inj hret)
  cases hall with
  | cons hright _ =>
    have hssid := hright.ssid
    have hcol : decodeZeroed [] (printfEncode (chars "many nets")) = chars "many nets" := by
      decide +kernel
    exact absurd (hssid.trans hcol) (by decide)

end ConnectApp.Wifi
