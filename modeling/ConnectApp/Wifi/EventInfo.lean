import ConnectApp.Wifi.EventPrefix

/-!
# The parameters of an event (Rk_wifi.c:2675-2747)

`get_wifi_info_by_event` takes the id and the name of a network that was disabled for a wrong
key, and the bssid and the reason of a disconnection, out of the event text. It finds them by
their tags and copies as many characters as lie between two tags.

`event_parameters_recovered` says when the fields are the ones the supplicant printed. Four
things stand in the way of a text of the supplicant:

- a name that contains `" auth_failures`, the tag behind the name: it is cut there, and has a
  negative length if it begins with ` auth_failures`;
- the name `\x`, for which `spec_char_convers` writes past its `buf_temp`;
- a reason of three digits or more, of which two are read;
- a longer text in the record, which the status has put there: names and bssids are copied
  without a terminator.
-/

namespace ConnectApp.Wifi

open CString

/-- `get_wifi_info_by_event` on the record `_RK_wifi_running_getConnectionInfo` has filled. -/
def getWifiInfoByEvent (gbk : List GbkEntry) (connectBssid event : List UInt8) (info : ConnInfo) :
    RunningState → Option ConnInfo
  | .disconnected => some (disconnectedInfo event info)
  | .connectFailedWrongKey => wrongKeyInfo gbk connectBssid event info
  | _ => some info

/-! ## The texts of the supplicant -/

/-- The tag behind the name. -/
def endTag : List UInt8 := chars "\" auth_failures"

/-- The text in front of `ssid="`. -/
def idPart (n : Nat) : List UInt8 :=
  chars "CTRL-EVENT-SSID-TEMP-DISABLED " ++ (chars "id=" ++ (natDec n ++ [32]))

/-- The text behind `" auth_failures`. -/
def failurePart (failures duration : Nat) : List UInt8 :=
  chars "=" ++ natDec failures ++ chars " duration=" ++ natDec duration ++
    chars " reason=WRONG_KEY"

/-- `CTRL-EVENT-SSID-TEMP-DISABLED` for a network with a wrong key. -/
def tempDisabled (n : Nat) (s : List UInt8) (failures duration : Nat) : List UInt8 :=
  idPart n ++ (chars "ssid=\"" ++ (printfEncode s ++ (endTag ++ failurePart failures duration)))

/-- `CTRL-EVENT-DISCONNECTED` with the bssid of the access point and a reason code. -/
def disconnection (b : List UInt8) (reason : Nat) : List UInt8 :=
  chars "CTRL-EVENT-DISCONNECTED " ++ (chars "bssid=" ++ (b ++ 32 :: (chars "reason=" ++
    natDec reason)))

/-! ## Finding a tag -/

/-- A tag whose first character does not come back in it is found where it stands, unless it
stands in front as well. -/
theorem strstr_behind {c : UInt8} {w x : List UInt8} (hc : c ∉ w) (hx : ¬ c :: w <:+: x)
    (t : List UInt8) : strstr (c :: w) (x ++ (c :: w ++ t)) = some x.length := by
  induction x with
  | nil => exact strstr_append_self (List.cons_ne_nil c w) t
  | cons b x ih =>
    rw [List.infix_cons_iff, not_or] at hx
    have hnot : ¬ c :: w <+: b :: (x ++ (c :: w ++ t)) := by
      intro hpre
      rcases List.prefix_or_prefix_of_prefix hpre
        (show b :: x <+: b :: (x ++ (c :: w ++ t)) from ⟨c :: w ++ t, rfl⟩) with h | h
      · exact hx.1 h
      · -- the tag would reach into its own occurrence, where its first character stands again
        obtain ⟨z, hz⟩ := h
        obtain ⟨u, hu⟩ := hpre
        have hzu : z ++ u = c :: w ++ t := by
          have hcut : (b :: x) ++ (z ++ u) = (b :: x) ++ (c :: w ++ t) := by
            rw [← List.append_assoc, hz, hu]
            rfl
          exact List.append_cancel_left hcut
        cases z with
        | nil => exact hx.1 (by rw [← hz, List.append_nil])
        | cons d z =>
          obtain ⟨rfl, -⟩ := List.cons.inj hzu
          exact hc (by rw [← (List.cons.inj hz).2]; simp)
    rw [List.cons_append, strstr, if_neg hnot, ih hx.2]
    rfl

/-- A tag is found where the text in front of the first one ends. -/
theorem strstr_cutAt {c : UInt8} {w : List UInt8} (hc : c ∉ w) (x t : List UInt8) :
    strstr (c :: w) (x ++ (c :: w ++ t)) = some (cutAt (c :: w) x).length := by
  cases hx : strstr (c :: w) x with
  | none =>
    rw [strstr_behind hc (strstr_eq_none_iff.mp hx), cutAt, hx]
  | some k =>
    rw [strstr_append_of_some hx, cutAt, hx, List.length_take_of_le (strstr_eq_some hx).1]

/-- A tag is found behind a text without its first character. -/
theorem strstr_after {c : UInt8} {pre : List UInt8} (h : c ∉ pre) (w t : List UInt8) :
    strstr (c :: w) (pre ++ (c :: w ++ t)) = some pre.length := by
  rw [strstr_append_of_head h, strstr_append_self (List.cons_ne_nil c w), Option.map_some,
    Nat.zero_add]

/-- The value behind a tag. -/
theorem take_behind {x w v : List UInt8} {n k : Nat} (hn : n = x.length + w.length)
    (hk : k = v.length) (t : List UInt8) : ((x ++ (w ++ (v ++ t))).drop n).take k = v := by
  rw [hn, hk, ← List.append_assoc, ← List.length_append, List.drop_left, List.take_left]

/-! ## A wrong key -/

/-- What the record shows for a printed name. -/
def nameOf (gbk : List GbkEntry) (text : List UInt8) : List UInt8 :=
  getEncodeGbkUtf8 gbk (eventName text)

/-- The record after a wrong key has the id `n` and the decoded name. -/
def WrongKeyRecovered (gbk : List GbkEntry) (connectBssid : List UInt8) (info : ConnInfo)
    (n : Nat) (s : List UInt8) (failures duration : Nat) : Prop :=
  ∃ got, getWifiInfoByEvent gbk connectBssid (tempDisabled n s failures duration) info
      .connectFailedWrongKey = some got ∧
    got.id = n ∧ got.ssid = nameOf gbk (printfEncode s)

theorem natDec_not_mem {c : UInt8} (hc : isDigit c = false) (n : Nat) : c ∉ natDec n := fun h => by
  rw [(natDec_digits n).digits c h] at hc
  cases hc

theorem idPart_length (n : Nat) : (idPart n).length = 34 + (natDec n).length := by
  have h1 : (chars "CTRL-EVENT-SSID-TEMP-DISABLED ").length = 30 := by decide
  have h2 : (chars "id=").length = 3 := by decide
  simp only [idPart, List.length_append, h1, h2, List.length_singleton]
  omega

section

variable (n : Nat) (s : List UInt8) (failures duration : Nat)

theorem ssidTag_tempDisabled :
    strstr (chars "ssid=\"") (tempDisabled n s failures duration) = some (idPart n).length := by
  refine strstr_after (c := 115) ?_ _ _
  have hfront : (115 : UInt8) ∉ chars "CTRL-EVENT-SSID-TEMP-DISABLED " ++ chars "id=" := by decide
  rw [List.mem_append, not_or] at hfront
  simp [idPart, hfront.1, hfront.2, natDec_not_mem (c := 115) rfl]

theorem idTag_tempDisabled :
    strstr (chars "id=") (tempDisabled n s failures duration) = some 30 := by
  obtain ⟨t, ht⟩ : ∃ t, tempDisabled n s failures duration =
      chars "CTRL-EVENT-SSID-TEMP-DISABLED " ++ (chars "id=" ++ t) :=
    ⟨_, by rw [tempDisabled, idPart, List.append_assoc, List.append_assoc]⟩
  rw [ht]
  exact strstr_after (c := 105) (by decide) _ t

/-- The digits of the id. -/
theorem id_tempDisabled :
    ((tempDisabled n s failures duration).drop (30 + 3)).take (natDec n).length = natDec n := by
  obtain ⟨t, ht⟩ : ∃ t, tempDisabled n s failures duration =
      chars "CTRL-EVENT-SSID-TEMP-DISABLED " ++ (chars "id=" ++ (natDec n ++ t)) :=
    ⟨_, by rw [tempDisabled, idPart, List.append_assoc, List.append_assoc, List.append_assoc]⟩
  rw [ht]
  exact take_behind (by decide) rfl t

/-- The part of the name in front of the first tag. -/
theorem ssid_tempDisabled :
    ((tempDisabled n s failures duration).drop ((idPart n).length + 6)).take
      (cutAt endTag (printfEncode s)).length = cutAt endTag (printfEncode s) := by
  have htag : (chars "ssid=\"").length = 6 := by decide
  obtain ⟨z, hz, -⟩ := cutAt_split (w := endTag) (t := printfEncode s) (by decide)
  have hevent : tempDisabled n s failures duration = idPart n ++ (chars "ssid=\"" ++
      (cutAt endTag (printfEncode s) ++ (z ++ (endTag ++ failurePart failures duration)))) := by
    rw [tempDisabled, ← List.append_assoc (cutAt _ _), ← hz]
  rw [hevent]
  exact take_behind (by rw [htag]) rfl _

/-- The tag behind the name is looked for from the quote in front of the name on. -/
theorem endTag_tempDisabled : strstr endTag (tempDisabled n s failures duration) =
    some ((idPart n).length + 5 + (cutAt endTag (quote :: printfEncode s)).length) := by
  have hevent : tempDisabled n s failures duration = (idPart n ++ chars "ssid=") ++
      ((quote :: printfEncode s) ++ (endTag ++ failurePart failures duration)) := by
    have htag : chars "ssid=\"" = chars "ssid=" ++ [quote] := by decide
    rw [tempDisabled, htag, List.append_assoc, List.append_assoc]
    rfl
  have hquote : quote ∉ idPart n ++ chars "ssid=" := by
    have h1 : quote ∉ chars "CTRL-EVENT-SSID-TEMP-DISABLED " := by decide
    have h2 : quote ∉ chars "id=" ∧ quote ∉ chars "ssid=" ∧ quote ≠ 32 := by decide
    simp [idPart, h1, h2.1, h2.2.1, h2.2.2, natDec_not_mem (c := quote) rfl]
  have hssid : (chars "ssid=").length = 5 := by decide
  have htag : endTag = quote :: chars " auth_failures" := by decide
  rw [hevent, htag, strstr_append_of_head hquote, strstr_cutAt (by decide), Option.map_some,
    List.length_append, hssid, Nat.add_comm]

end

/-- What is read of the event: the part of the name in front of the first tag, unless that is
the quote in front of the name or the part is too short for `buf_temp`. -/
theorem keyText_tempDisabled {n : Nat} (hn : n < 10 ^ 9) (s : Ssid) (failures duration : Nat) :
    keyText (tempDisabled n s.bytes failures duration) =
      if ¬ endTag <+: quote :: printfEncode s.bytes ∧ TempFits (cutAt endTag (printfEncode s.bytes))
      then .named (eventName (cutAt endTag (printfEncode s.bytes))) (some n) else .faulty := by
  have henc := printfEncode_length_le s.bytes
  have hshort := s.short
  have hdigits : (natDec n).length ≤ 9 := natDec_length_le hn
  have hid := idPart_length n
  have hcut := (cutAt_front endTag (printfEncode s.bytes)).length_le
  have hread : (idPart n).length - (30 + 4) = (natDec n).length := by omega
  have hatoi : atoi (natDec n) = n := by
    have h := atoi_decimal (z := n) (by omega)
    rwa [decimal, if_neg (by omega), Int.natAbs_natCast] at h
  have hnumber : wrongKeyId (tempDisabled n s.bytes failures duration) (idPart n).length 30 =
      some (n : Int) := by
    rw [wrongKeyId, if_pos (by omega), hread, id_tempDisabled, hatoi]
  have hend := endTag_tempDisabled n s.bytes failures duration
  rw [endTag] at hend
  rw [keyText, ssidTag_tempDisabled, idTag_tempDisabled]
  simp only [hend, Option.map_some, hnumber]
  rw [← endTag]
  by_cases hfront : endTag <+: quote :: printfEncode s.bytes
  · -- the tag begins with the quote in front of the name, and the length is negative
    have hstop : cutAt endTag (quote :: printfEncode s.bytes) = [] := by
      rw [cutAt, strstr, if_pos hfront]
      rfl
    rw [wrongKeyName, hstop, if_neg (by simp), if_neg fun h => h.1 hfront]
  · have hstop : cutAt endTag (quote :: printfEncode s.bytes) =
        quote :: cutAt endTag (printfEncode s.bytes) := cutAt_cons hfront
    have hlen : (idPart n).length + 5 + (cutAt endTag (printfEncode s.bytes)).length.succ -
        ((idPart n).length + 6) = (cutAt endTag (printfEncode s.bytes)).length := by omega
    have hdefined : ConversDefined (cutAt endTag (printfEncode s.bytes)) ↔ _ :=
      conversDefined_iff (by omega)
    rw [wrongKeyName, hstop, List.length_cons, hlen, ssid_tempDisabled]
    by_cases hfits : TempFits (cutAt endTag (printfEncode s.bytes))
    · rw [if_pos ⟨by omega, by omega, hdefined.mpr hfits⟩, if_pos ⟨hfront, hfits⟩]
    · rw [if_neg fun h => hfits (hdefined.mp h.2.2), if_neg fun h => hfits h.2]

/-- The name in the record is the whole name: the tag is not found in front of it,
`spec_char_convers` keeps to `buf_temp`, and the name covers that of the status; or the tag has cut
the name, what is left begins the whole name, and the status has the rest in its place. -/
structure NameKept (gbk : List GbkEntry) (info : ConnInfo) (s : List UInt8) : Prop where
  behind : ¬ endTag <+: quote :: printfEncode s
  fits : TempFits (cutAt endTag (printfEncode s))
  whole : ¬ endTag <:+: printfEncode s ∧
      info.ssid.length ≤ (nameOf gbk (printfEncode s)).length ∨
    endTag <:+: printfEncode s ∧
      nameOf gbk (cutAt endTag (printfEncode s)) <+: nameOf gbk (printfEncode s) ∧
      info.ssid.drop (nameOf gbk (cutAt endTag (printfEncode s))).length =
        (nameOf gbk (printfEncode s)).drop (nameOf gbk (cutAt endTag (printfEncode s))).length

/-- `encode_gbk_insert` keeps every name below 128 bytes. -/
def ShortNames (gbk : List GbkEntry) : Prop := ∀ e ∈ gbk, e.utf8.length < 128

theorem ShortNames.insert {gbk : List GbkEntry} (h : ShortNames gbk) (ori utf8 : List UInt8) :
    ShortNames (encodeGbkInsert gbk ori utf8) := by
  rw [encodeGbkInsert]
  split_ifs with hnil hlong
  · exact h
  · exact h
  · rw [not_or] at hlong
    exact List.forall_mem_cons.mpr ⟨Nat.not_le.mp hlong.2, h⟩

/-- A name of 32 bytes fits into `info->ssid`. -/
theorem shown_length_le {gbk : List GbkEntry} (hgbk : ShortNames gbk) {value : List UInt8}
    (h : value.length ≤ 128) : (nameOf gbk value).length ≤ 129 := by
  have hname : (eventName value).length ≤ value.length :=
    ((removeEscape_sublist _).trans (cstr_sublist _)).length_le.trans (specCharZeroed_length_le _)
  rw [nameOf, getEncodeGbkUtf8]
  split
  next e he =>
    have := hgbk e (List.mem_of_find?_eq_some he)
    omega
  next => omega

/-- A text over another gives `w` exactly if it begins `w` and the other has the rest. -/
theorem overwrite_eq_iff {text old w : List UInt8} : overwrite text old = w ↔
    text <+: w ∧ old.drop text.length = w.drop text.length := by
  rw [overwrite]
  constructor
  · rintro rfl
    exact ⟨List.prefix_append _ _, List.drop_left.symm⟩
  · rintro ⟨⟨u, rfl⟩, hrest⟩
    rw [hrest, List.drop_left]

theorem overwrite_self_iff {text old : List UInt8} :
    overwrite text old = text ↔ old.length ≤ text.length := by
  rw [overwrite, List.append_right_eq_self, List.drop_eq_nil_iff]

/-- The copied name is the whole one: it covers the old text, or the old text goes on with it. -/
theorem overwrite_name_iff (gbk : List GbkEntry) (info : ConnInfo) (text : List UInt8) :
    overwrite (nameOf gbk (cutAt endTag text)) info.ssid = nameOf gbk text ↔
      ¬ endTag <:+: text ∧ info.ssid.length ≤ (nameOf gbk text).length ∨
        endTag <:+: text ∧ nameOf gbk (cutAt endTag text) <+: nameOf gbk text ∧
          info.ssid.drop (nameOf gbk (cutAt endTag text)).length =
            (nameOf gbk text).drop (nameOf gbk (cutAt endTag text)).length := by
  by_cases htag : endTag <:+: text
  · rw [overwrite_eq_iff, or_iff_right fun h => h.1 htag, and_iff_right htag]
  · have hself : cutAt endTag text = text := by
      rw [cutAt, strstr_eq_none_iff.mpr htag]
    rw [hself, overwrite_self_iff, or_iff_left fun h => htag h.1, and_iff_right htag]

theorem wrongKey_recovered_iff {gbk : List GbkEntry} (hgbk : ShortNames gbk)
    (connectBssid : List UInt8) (info : ConnInfo) {n : Nat} (hn : n < 10 ^ 9) (s : Ssid)
    (failures duration : Nat) :
    WrongKeyRecovered gbk connectBssid info n s.bytes failures duration ↔
      NameKept gbk info s.bytes := by
  have henc := printfEncode_length_le s.bytes
  have hshort := s.short
  have hcut := (cutAt_front endTag (printfEncode s.bytes)).length_le
  have hwhole := overwrite_name_iff gbk info (printfEncode s.bytes)
  have hlen := shown_length_le hgbk (hcut.trans (by omega))
  rw [nameOf] at hlen
  rw [WrongKeyRecovered, getWifiInfoByEvent, wrongKeyInfo, keyText_tempDisabled hn]
  by_cases h : ¬ endTag <+: quote :: printfEncode s.bytes ∧
      TempFits (cutAt endTag (printfEncode s.bytes))
  · rw [if_pos h]
    simp only [if_pos hlen, Option.getD_some]
    constructor
    · rintro ⟨got, hgot, -, hssid⟩
      obtain rfl := Option.some.inj hgot
      exact ⟨h.1, h.2, hwhole.mp hssid⟩
    · exact fun hkept => ⟨_, rfl, rfl, hwhole.mpr hkept.whole⟩
  · rw [if_neg h]
    refine iff_of_false ?_ fun hkept => h ⟨hkept.behind, hkept.fits⟩
    rintro ⟨got, hgot, -⟩
    cases hgot

/-! ## A disconnection -/

/-- The record after a disconnection has the bssid and the reason of the text. -/
def DisconnectRecovered (gbk : List GbkEntry) (connectBssid : List UInt8) (info : ConnInfo)
    (b : List UInt8) (reason : Nat) : Prop :=
  ∃ got, getWifiInfoByEvent gbk connectBssid (disconnection b reason) info .disconnected =
    some got ∧ got.bssid = b ∧ got.reason = reason

theorem disconnected_tags {b : List UInt8} (hb : ¬ chars "reason=" <:+: b) (reason : Nat) :
    strstr (chars "bssid=") (disconnection b reason) = some 24 ∧
      strstr (chars "reason=") (disconnection b reason) = some (31 + b.length) := by
  constructor
  · exact strstr_after (c := 98) (by decide) _ _
  · have hinside : strstr (chars "reason=") (b ++ 32 :: (chars "reason=" ++ natDec reason)) =
        some (b.length + 1) := by
      rw [strstr_append (by decide) (by decide), strstr_eq_none_iff.mpr hb,
        strstr_append_self (by decide), Option.map_some, Nat.zero_add]
    have hfront : disconnection b reason = chars "CTRL-EVENT-DISCONNECTED bssid=" ++
        (b ++ 32 :: (chars "reason=" ++ natDec reason)) := by
      have hname : chars "CTRL-EVENT-DISCONNECTED bssid=" =
        chars "CTRL-EVENT-DISCONNECTED " ++ chars "bssid=" := by decide
      rw [disconnection, hname, List.append_assoc]
    have hlen : (chars "CTRL-EVENT-DISCONNECTED bssid=").length = 30 := by decide
    rw [hfront]
    refine (strstr_append_of_head (c := 114) (by decide) (chars "eason=") _).trans ?_
    rw [show 114 :: chars "eason=" = chars "reason=" by decide, hinside, Option.map_some, hlen]
    congr 1
    omega

theorem disconnection_reason {b : List UInt8} (reason : Nat) :
    (disconnection b reason).drop (31 + b.length + 7) = natDec reason := by
  have hfront : disconnection b reason =
      (chars "CTRL-EVENT-DISCONNECTED bssid=" ++ b ++ chars " reason=") ++ natDec reason := by
    have hname : chars "CTRL-EVENT-DISCONNECTED bssid=" =
      chars "CTRL-EVENT-DISCONNECTED " ++ chars "bssid=" := by decide
    have htag : chars " reason=" = 32 :: chars "reason=" := by decide
    rw [disconnection, hname, htag]
    simp
  have hlen : (chars "CTRL-EVENT-DISCONNECTED bssid=" ++ b ++ chars " reason=").length =
      31 + b.length + 7 := by
    have h1 : (chars "CTRL-EVENT-DISCONNECTED bssid=").length = 30 := by decide
    have h2 : (chars " reason=").length = 8 := by decide
    simp only [List.length_append, h1, h2]
    omega
  rw [hfront, ← hlen, List.drop_left]

theorem disconnect_recovered_iff {gbk : List GbkEntry} {connectBssid : List UInt8}
    {info : ConnInfo} {b : List UInt8} (hb : b.length = 17) (hreason : ¬ chars "reason=" <:+: b)
    (r : Nat) :
    DisconnectRecovered gbk connectBssid info b r ↔ r < 100 ∧ info.bssid.length ≤ 17 := by
  obtain ⟨hbssidTag, hreasonTag⟩ := disconnected_tags hreason r
  have hbssid : ((disconnection b r).drop (24 + 6)).take 17 = b :=
    take_behind (by decide) hb.symm _
  have hlong : ¬ ((disconnection b r).drop (24 + 6)).length < 17 := by
    have hle := List.length_take_le' 17 ((disconnection b r).drop (24 + 6))
    rw [hbssid] at hle
    omega
  have hinfo : disconnectedInfo (disconnection b r) info =
      ⟨info.id, info.ssid, overwrite b info.bssid, atoi ((natDec r).take 2)⟩ := by
    rw [disconnectedInfo, hbssidTag, hreasonTag]
    simp only [copyBssid, if_neg hlong, hbssid, disconnection_reason]
  have hread : atoi ((natDec r).take 2) = r ↔ r < 100 := atoi_take_natDec (k := 1) (by omega) r
  rw [DisconnectRecovered, getWifiInfoByEvent, hinfo]
  constructor
  · rintro ⟨got, hgot, hcopied, hvalue⟩
    obtain rfl := Option.some.inj hgot
    exact ⟨hread.mp hvalue, hb ▸ overwrite_self_iff.mp hcopied⟩
  · rintro ⟨hr, hold⟩
    exact ⟨_, rfl, overwrite_self_iff.mpr (hb.symm ▸ hold), hread.mpr hr⟩

/-! ## Both events -/

/-- **Event parameters.** The id and the name of a network with a wrong key are recovered exactly
if the name is kept; the bssid and the reason of a disconnection are recovered exactly if the
reason is below 100 and the status has shown no longer bssid. -/
theorem event_parameters_recovered {gbk : List GbkEntry} (hgbk : ShortNames gbk)
    (connectBssid : List UInt8) (info : ConnInfo) :
    (∀ (n : Nat) (s : Ssid) (failures duration : Nat), n < 10 ^ 9 →
      (WrongKeyRecovered gbk connectBssid info n s.bytes failures duration ↔
        NameKept gbk info s.bytes)) ∧
    ∀ (b : List UInt8) (r : Nat), b.length = 17 → ¬ chars "reason=" <:+: b →
      (DisconnectRecovered gbk connectBssid info b r ↔ r < 100 ∧ info.bssid.length ≤ 17) :=
  ⟨fun _ s failures duration hn =>
      wrongKey_recovered_iff hgbk connectBssid info hn s failures duration,
    fun _ r hb hreason => disconnect_recovered_iff hb hreason r⟩

/-- The network `ab\\x`, whose last two characters are taken for an escape, over a shorter name in
the status, and a disconnection with reason 3. -/
theorem event_parameters_unfinished :
    WrongKeyRecovered [] [] ⟨0, chars "a", [], 0⟩ 7 (chars "ab\\x") 1 10 ∧
      DisconnectRecovered [] [] ⟨0, chars "a", [], 0⟩ (chars "02:00:00:00:00:01") 3 := by
  obtain ⟨hkey, hdisconnect⟩ := @event_parameters_recovered [] (List.forall_mem_nil _) []
    ⟨0, chars "a", [], 0⟩
  refine ⟨(hkey 7 ⟨chars "ab\\x", by decide, by decide, by decide⟩ 1 10 (by decide)).mpr
    ⟨by decide, by decide, .inl (by decide)⟩, (hdisconnect _ 3 (by decide) (by decide)).mpr ?_⟩
  decide

/-- Of the reason 258 two digits are read. -/
theorem reason_cut : ¬ ∀ (b : List UInt8) (r : Nat), b.length = 17 → r ≤ 65535 →
    DisconnectRecovered [] [] ⟨0, [], [], 0⟩ b r := by
  intro h
  obtain ⟨got, hgot, -, hvalue⟩ := h (chars "02:00:00:00:00:01") 258 (by decide) (by decide)
  have hinfo : getWifiInfoByEvent [] [] (disconnection (chars "02:00:00:00:00:01") 258)
      ⟨0, [], [], 0⟩ .disconnected = some ⟨0, [], chars "02:00:00:00:00:01", 25⟩ := by
    decide
  obtain rfl := Option.some.inj (hinfo.symm.trans hgot)
  exact absurd hvalue (by decide)

end ConnectApp.Wifi
