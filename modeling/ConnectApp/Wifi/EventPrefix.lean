import ConnectApp.Wifi.SocketBuffer

/-!
# Events behind a transport prefix (Rk_wifi.c:2668-2830, 2892-2954)

An event text `e` can arrive as `e`, as `<n>e`, as `IFNAME=i e` or as `IFNAME=i <n>e`.
`wifi_wait_on_socket` takes the level away but leaves the interface name, so `dispatch_event`
sees one of two texts: `e` or `IFNAME=i e`.

`dispatch_event` looks for some of its texts at the start of the event and for others
anywhere. Those at the start are never found behind an interface name. Those that are looked for
anywhere can also stand in the interface name itself, or begin there.

`prefix_free_iff` says for which events and names this makes no difference: the event is dropped,
has a wrong key or has no branch of its own, the name brings in no text of an earlier branch
(`QuietName`), and it does not change what is read of a wrong key (`keyText`). `keyText_ifname`
says that the last holds if the tags are first found in the event.
-/

namespace ConnectApp.Wifi

open CString

/-! ## The four shapes of a message -/

/-- How an event text arrives. -/
inductive Shape
  | plain
  | level (n : Nat)
  | named (i : List UInt8)
  | namedLevel (i : List UInt8) (n : Nat)

/-- The raw message. -/
def Shape.message (e : List UInt8) : Shape → List UInt8
  | .plain => e
  | .level n => bareLevel (natDec n) e
  | .named i => ifname i ++ e
  | .namedLevel i n => ConnectApp.Wifi.namedLevel i (natDec n) e

/-- The text that `wifi_wait_on_socket` makes of a message in the buffer of the monitor. -/
def receivedEvent (msg : List UInt8) : List UInt8 :=
  cstr (wifiWaitOnSocket eventBufSize true ⟨0, some msg⟩).2

/-- An event text without a prefix of its own. -/
structure EventText (e : List UInt8) : Prop where
  noNul : 0 ∉ e
  noLevel : e.head? ≠ some 60
  noName : ¬ chars "IFNAME=" <+: e

theorem natDec_ne_close (n : Nat) : (62 : UInt8) ∉ natDec n := fun h =>
  absurd ((natDec_digits n).digits 62 h) (by decide)

theorem HoldsText.cstr_eq {r : Nat × List UInt8} {t : List UInt8} (h : HoldsText r t) :
    cstr r.2 = t := by
  have htext := h.1
  rw [text?] at htext
  split_ifs at htext
  exact Option.some.inj htext

theorem receivedEvent_eq {msg : List UInt8} (h : msg.length < eventBufSize) :
    receivedEvent msg =
      cstr (waitOnMessage eventBufSize (List.replicate eventBufSize 0) msg).2 := by
  rw [receivedEvent, wifiWaitOnSocket_message h]

section

variable {e i : List UInt8} {n : Nat} (he : EventText e) (hi : 32 ∉ i)

include he

/-- Without a prefix nothing is cut out. -/
theorem receivedEvent_plain (hne : e ≠ []) (hlen : e.length < eventBufSize) :
    receivedEvent e = e := by
  have hfirst : ¬ e[0]? = some 60 := by
    rw [← List.head?_eq_getElem?]
    exact he.noLevel
  rw [receivedEvent_eq hlen, waitOnMessage, if_neg hne, stripLevel, cstr_message he.noNul,
    if_neg he.noName, if_neg hfirst, cstr_message he.noNul]

theorem receivedEvent_level (hlen : (bareLevel (natDec n) e).length < eventBufSize) :
    receivedEvent (bareLevel (natDec n) e) = e := by
  have hnul : 0 ∉ bareLevel (natDec n) e := by
    have hdigits : (0 : UInt8) ∉ natDec n := fun h =>
      absurd ((natDec_digits n).digits 0 h) (by decide)
    simp [bareLevel, hdigits, he.noNul]
  rw [receivedEvent_eq hlen]
  exact (waitOnMessage_bare hnul eventBufSize _ _ _ (natDec_ne_close n) rfl).cstr_eq

include hi

/-- An interface name stays. -/
theorem receivedEvent_named (hnul : 0 ∉ i) (hlen : (ifname i ++ e).length < eventBufSize) :
    receivedEvent (ifname i ++ e) = ifname i ++ e := by
  have hnul' : 0 ∉ ifname i ++ e := by
    have hname : (0 : UInt8) ∉ chars "IFNAME=" := by decide
    simp [ifname, hname, hnul, he.noNul]
  have hname : chars "IFNAME=" <+: ifname i ++ e := ⟨i ++ [32] ++ e, by simp [ifname]⟩
  have hblank : strchr 32 (ifname i ++ e) = some (7 + i.length) := by
    have hnot : (32 : UInt8) ∉ chars "IFNAME=" ++ i := by
      rw [List.mem_append, not_or]
      exact ⟨by decide, hi⟩
    have h := strchr_append hnot e
    rw [List.length_append] at h
    rw [ifname, List.append_assoc]
    exact h
  have hlevel : ¬ (ifname i ++ e)[7 + i.length + 1]? = some 60 := by
    rw [← ifname_length, List.getElem?_append_right (Nat.le_refl _), Nat.sub_self,
      ← List.head?_eq_getElem?]
    exact he.noLevel
  have hne : ifname i ++ e ≠ [] := by simp [ifname]
  rw [receivedEvent_eq hlen, waitOnMessage, if_neg hne, stripLevel, cstr_message hnul',
    if_pos hname, hblank]
  simp only [hlevel, if_false, cstr_message hnul']

theorem receivedEvent_namedLevel (hnul : 0 ∉ i)
    (hlen : (namedLevel i (natDec n) e).length < eventBufSize) :
    receivedEvent (namedLevel i (natDec n) e) = ifname i ++ e := by
  have hnul' : 0 ∉ namedLevel i (natDec n) e := by
    have hname : (0 : UInt8) ∉ chars "IFNAME=" := by decide
    have hdigits : (0 : UInt8) ∉ natDec n := fun h =>
      absurd ((natDec_digits n).digits 0 h) (by decide)
    simp [namedLevel, bareLevel, ifname, hname, hnul, hdigits, he.noNul]
  rw [receivedEvent_eq hlen]
  exact (waitOnMessage_named hnul' eventBufSize _ _ _ _ hi (natDec_ne_close n) rfl).cstr_eq

end

/-! ## What an event leads to -/

/-- What the branch hands to `wifi_state_send`. -/
def sentInfo (env : EventEnv) (event : List UInt8) (w : World) : Handler → Option ConnInfo
  | .disconnected => some (disconnectedInfo event env.connection)
  | .connected => some env.connection
  | .wrongKey => wrongKeyInfo w.gbkHead w.connectBssid event env.connection
  | .associating =>
    some <| match associatingSsid event with
      | some ssid => { env.leftover with ssid := ssid }
      | none => env.leftover
  | _ => none

/-- The branch of `dispatch_event`, the information it reports, the value it returns and the
reports made so far. -/
structure Reaction where
  handler : Handler
  info : Option ConnInfo
  result : Option (Int × List Report)
  deriving DecidableEq

/-- All that the program does with an event. -/
def reactionTo (env : EventEnv) (w : World) (event : List UInt8) : Reaction :=
  ⟨handlerOf event, sentInfo env event w (handlerOf event),
    (dispatchEvent env event w).map fun h => (h.ret, h.world.reports)⟩

/-- Whatever the state, all four shapes of an event lead to the same reaction. -/
def PrefixFree (e i : List UInt8) (n : Nat) : Prop :=
  ∀ env w, ∀ shape ∈ [Shape.plain, .level n, .named i, .namedLevel i n],
    reactionTo env w (receivedEvent (shape.message e)) = reactionTo env w (receivedEvent e)

theorem retryWep_reports (env : EventEnv) (event : List UInt8) (w : World) :
    (retryWep env event w).reports = w.reports := by
  unfold retryWep
  split_ifs <;> rfl

/-- The branch and its information decide what is returned and reported. -/
theorem reaction_congr {env : EventEnv} {w : World} {a b : List UInt8}
    (hhandler : handlerOf a = handlerOf b)
    (hinfo : sentInfo env a w (handlerOf a) = sentInfo env b w (handlerOf b)) :
    reactionTo env w a = reactionTo env w b := by
  have hresult : (dispatchEvent env a w).map (fun h => (h.ret, h.world.reports)) =
      (dispatchEvent env b w).map fun h => (h.ret, h.world.reports) := by
    rw [hhandler] at hinfo
    rw [dispatchEvent, dispatchEvent, hhandler]
    cases hb : handlerOf b with
    | filtered => rfl
    | terminating => rfl
    | wrongKey =>
      rw [hb] at hinfo
      have hreport : reportWrongKey env a { w with wifiWrongKey := true } =
          reportWrongKey env b { w with wifiWrongKey := true } :=
        congrArg (Option.map _) hinfo
      simp only [hreport]
      cases reportWrongKey env b { w with wifiWrongKey := true } with
      | none => rfl
      | some v =>
        simp only [Option.bind_eq_bind, Option.bind_some, Option.map_some, retryWep_reports]
    | connected => simp only [Option.map_some, retryWep_reports]
    | disconnected =>
      rw [hb] at hinfo
      simp only [Option.map_some, retryWep_reports, handlePlain, Option.some.inj hinfo]
    | scanResults => simp only [Option.map_some, retryWep_reports, handlePlain]
    | associating =>
      rw [hb] at hinfo
      have hplain : handlePlain env a w .associating = handlePlain env b w .associating :=
        congrArg (fun info => if w.wifiConnectLock then w
          else wifiStateSendInfo .connecting info w) (Option.some.inj hinfo)
      simp only [Option.map_some, retryWep_reports, hplain]
    | other => simp only [Option.map_some, retryWep_reports, handlePlain]
  rw [reactionTo, reactionTo, hinfo, hhandler, hresult]

/-! ## Markers behind an interface name -/

/-- A text is not found in front of the place where its first character can stand. -/
theorem strstr_append_of_head {c : UInt8} {pre : List UInt8} (h : c ∉ pre) (w t : List UInt8) :
    strstr (c :: w) (pre ++ t) = (strstr (c :: w) t).map (· + pre.length) := by
  induction pre with
  | nil => simp
  | cons b pre ih =>
    obtain ⟨hb, hpre⟩ := not_or.mp (mt List.mem_cons.mpr h)
    have hnot : ¬ c :: w <+: b :: (pre ++ t) := fun ⟨u, hu⟩ => hb (List.cons.inj hu).1
    rw [List.cons_append, strstr, if_neg hnot, ih hpre, Option.map_map]
    rfl

/-- No event name is found at the start. -/
theorem strStartsWith_ifname (i w e : List UInt8) :
    strStartsWith (ifname i ++ e) (67 :: w) = false := by
  refine decide_eq_false fun h => ?_
  obtain ⟨-, u, hu⟩ := strstr_eq_some h
  cases hu

/-- The branch of an event behind an interface name. -/
theorem handlerOf_ifname (i e : List UInt8) :
    handlerOf (ifname i ++ e) =
      if contains (chars "CTRL-EVENT-BSS") (ifname i ++ e) ||
          contains (chars "CTRL-EVENT-TERMINATING") (ifname i ++ e) then .filtered
      else if contains (chars "reason=WRONG_KEY") (ifname i ++ e) then .wrongKey
      else if contains (chars "Trying to associate with SSID") (ifname i ++ e) then .associating
      else .other := by
  have hstart : ∀ w ∈ [wpaEventDisconnected, wpaEventConnected, wpaEventScanResults,
      wpaEventTerminating], strStartsWith (ifname i ++ e) w = false := by
    simp only [List.forall_mem_cons]
    exact ⟨strStartsWith_ifname i _ e, strStartsWith_ifname i _ e, strStartsWith_ifname i _ e,
      strStartsWith_ifname i _ e, List.forall_mem_nil _⟩
  simp only [List.forall_mem_cons] at hstart
  obtain ⟨hdis, hconn, hscan, hterm, -⟩ := hstart
  rw [handlerOf, hdis, hconn, hscan, hterm]
  simp only [Bool.false_eq_true, if_false]

/-- Behind the interface name no text is found that an earlier branch looks for. -/
structure QuietName (e i : List UInt8) : Prop where
  filter : handlerOf e ≠ .filtered → ¬ chars "CTRL-EVENT-BSS" <:+: ifname i ++ e ∧
    ¬ chars "CTRL-EVENT-TERMINATING" <:+: ifname i ++ e
  key : handlerOf e = .associating ∨ handlerOf e = .other →
    ¬ chars "reason=WRONG_KEY" <:+: ifname i ++ e
  associating : handlerOf e = .other →
    ¬ chars "Trying to associate with SSID" <:+: ifname i ++ e

/-- The chain of comparisons, on its outcomes: `f`, `k` and `a` for the texts that are looked for
anywhere, `F`, `K` and `A` for the same texts behind the interface name. -/
theorem chain_eq_iff : ∀ f d c s k t a F K A : Bool, (f = true → F = true) → (k = true → K = true) →
    (a = true → A = true) → (t = true → f = true) → ∀ h : Handler,
    h = (if f then .filtered else if d then .disconnected else if c then .connected
      else if s then .scanResults else if k then .wrongKey else if t then .terminating
      else if a then .associating else .other) →
    ((if F then Handler.filtered else if K then .wrongKey else if A then .associating else .other) =
        h ↔
      h ∉ [Handler.disconnected, .connected, .scanResults] ∧ (h ≠ .filtered → F = false) ∧
        (h = .associating ∨ h = .other → K = false) ∧ (h = .other → A = false)) := by
  intro f d c s k t a F K A hf hk ha ht h hh
  subst hh
  revert f d c s k t a F K A
  decide +kernel

/-- **Branches.** An event keeps its branch behind an interface name unless its branch is found at
the start of the text, or the name is not quiet. -/
theorem handlerOf_ifname_eq_iff (e i : List UInt8) :
    handlerOf (ifname i ++ e) = handlerOf e ↔
      handlerOf e ∉ [Handler.disconnected, .connected, .scanResults] ∧ QuietName e i := by
  have hbehind : ∀ w, contains w e = true → contains w (ifname i ++ e) = true := fun w h =>
    decide_eq_true ((of_decide_eq_true h).trans (List.suffix_append _ _).isInfix)
  have hfilter : (contains (chars "CTRL-EVENT-BSS") e ||
      contains (chars "CTRL-EVENT-TERMINATING") e) = true →
      (contains (chars "CTRL-EVENT-BSS") (ifname i ++ e) ||
        contains (chars "CTRL-EVENT-TERMINATING") (ifname i ++ e)) = true := by
    rw [Bool.or_eq_true, Bool.or_eq_true]
    exact Or.imp (hbehind _) (hbehind _)
  have hquiet : QuietName e i ↔
      (handlerOf e ≠ .filtered → (contains (chars "CTRL-EVENT-BSS") (ifname i ++ e) ||
        contains (chars "CTRL-EVENT-TERMINATING") (ifname i ++ e)) = false) ∧
      (handlerOf e = .associating ∨ handlerOf e = .other →
        contains (chars "reason=WRONG_KEY") (ifname i ++ e) = false) ∧
      (handlerOf e = .other →
        contains (chars "Trying to associate with SSID") (ifname i ++ e) = false) := by
    simp only [contains, decide_eq_false_iff_not, Bool.or_eq_false_iff]
    exact ⟨fun h => ⟨h.filter, h.key, h.associating⟩, fun h => ⟨h.1, h.2.1, h.2.2⟩⟩
  rw [hquiet, handlerOf_ifname]
  exact chain_eq_iff _ _ _ _ _ _ _ _ _ _ hfilter (hbehind _) (hbehind _)
    (filtered_of_terminating e) _ rfl

/-! ## What the event says -/

theorem drop_behind (pre e : List UInt8) (n k : Nat) :
    (pre ++ e).drop (n + pre.length + k) = e.drop (n + k) := by
  rw [List.drop_append, List.drop_eq_nil_of_le (by omega), List.nil_append]
  congr 1
  omega

/-- The name and the id of a wrong key are read alike if each tag is first found in the event. -/
theorem keyText_ifname {i e : List UInt8}
    (h : ∀ w ∈ [chars "ssid=\"", chars "\" auth_failures", chars "id="],
      strstr w (ifname i ++ e) = (strstr w e).map (· + (ifname i).length)) :
    keyText (ifname i ++ e) = keyText e := by
  have hname : ∀ start stop, wrongKeyName (ifname i ++ e) (start + (ifname i).length)
      (stop + (ifname i).length) = wrongKeyName e start stop := by
    intro start stop
    have hle : start + (ifname i).length + 6 ≤ stop + (ifname i).length ↔ start + 6 ≤ stop := by
      omega
    have hsub : stop + (ifname i).length - (start + (ifname i).length + 6) = stop - (start + 6) := by
      omega
    simp only [wrongKeyName, hle, hsub, drop_behind]
  have hid : ∀ start idTag, wrongKeyId (ifname i ++ e) (start + (ifname i).length)
      (idTag + (ifname i).length) = wrongKeyId e start idTag := by
    intro start idTag
    have hle : idTag + (ifname i).length + 4 ≤ start + (ifname i).length ↔ idTag + 4 ≤ start := by
      omega
    have hsub : start + (ifname i).length - (idTag + (ifname i).length + 4) =
        start - (idTag + 4) := by
      omega
    simp only [wrongKeyId, hle, hsub, drop_behind]
  simp only [List.forall_mem_cons] at h
  obtain ⟨hssid, hend, hidTag, -⟩ := h
  rw [keyText, keyText, hssid, hend, hidTag]
  cases strstr (chars "ssid=\"") e <;> cases strstr (chars "\" auth_failures") e <;>
    cases strstr (chars "id=") e <;> simp only [Option.map_some, Option.map_none, hname, hid]

/-- Whatever differs in what is read, some table and some record show it. -/
theorem keyText_eq_of_info {a b : List UInt8} (h : ∀ gbk connectBssid info,
    wrongKeyInfo gbk connectBssid a info = wrongKeyInfo gbk connectBssid b info) :
    keyText a = keyText b := by
  simp only [wrongKeyInfo] at h
  generalize keyText a = k at h
  generalize keyText b = l at h
  cases k with
  | named name id =>
    cases l with
    | named name' id' =>
      -- a table with another letter for each name, and two records with other ids
      have hzero := h [⟨name, [65]⟩, ⟨name', [66]⟩] [] ⟨0, [], [], 0⟩
      have hone := h [⟨name, [65]⟩, ⟨name', [66]⟩] [] ⟨1, [], [], 0⟩
      have hname : name = name' := by
        by_contra hne
        simp [getEncodeGbkUtf8, overwrite, hne] at hzero
      subst hname
      have hids : id.getD 0 = id'.getD 0 ∧ id.getD 1 = id'.getD 1 :=
        ⟨by simpa [getEncodeGbkUtf8, overwrite] using hzero,
          by simpa [getEncodeGbkUtf8, overwrite] using hone⟩
      have hid : id = id' := by
        cases id <;> cases id' <;> simp at hids ⊢ <;> omega
      rw [hid]
    | _ =>
      have hinfo := h [⟨name, [65]⟩] [66] ⟨0, [], [], 0⟩
      simp [getEncodeGbkUtf8, overwrite] at hinfo
  | _ =>
    cases l with
    | named name id =>
      have hinfo := h [⟨name, [65]⟩] [66] ⟨0, [], [], 0⟩
      simp [getEncodeGbkUtf8, overwrite] at hinfo
    | _ =>
      have hinfo := h [] [66] ⟨0, [], [], 0⟩
      first | rfl | simp at hinfo

/-- The name of an association is not found. -/
theorem associatingSsid_ifname (i e : List UInt8) : associatingSsid (ifname i ++ e) = none := by
  have hformat : matchFormat (chars "Trying to associate with SSID '") (ifname i ++ e) = none := rfl
  rw [associatingSsid, hformat]
  rfl

/-! ## Which events do not depend on their prefix -/

/-- An event that is handled alike behind the interface name `i`: its branch is not found at its
start, nothing at its start is reported, and the name brings in no text that is looked for. -/
structure ToleratesName (e i : List UInt8) : Prop where
  nonempty : e ≠ []
  branch : handlerOf e ∉ [Handler.disconnected, .connected, .scanResults]
  quiet : QuietName e i
  unnamed : handlerOf e = .associating → associatingSsid e = none
  details : handlerOf e = .wrongKey → keyText (ifname i ++ e) = keyText e

section

variable {e i : List UInt8} {n : Nat} (he : EventText e) (hblank : 32 ∉ i) (hnul : 0 ∉ i)
  (hlen : (namedLevel i (natDec n) e).length < eventBufSize)

theorem reaction_ifname (h : ToleratesName e i) (env : EventEnv) (w : World) :
    reactionTo env w (ifname i ++ e) = reactionTo env w e := by
  have hhandler := (handlerOf_ifname_eq_iff e i).mpr ⟨h.branch, h.quiet⟩
  refine reaction_congr hhandler ?_
  rw [hhandler]
  cases hb : handlerOf e with
  | wrongKey => rw [sentInfo, sentInfo, wrongKeyInfo, wrongKeyInfo, h.details hb]
  | associating =>
    rw [sentInfo, sentInfo, associatingSsid_ifname, h.unnamed hb]
  | disconnected => exact absurd (by rw [hb]; simp) h.branch
  | connected => exact absurd (by rw [hb]; simp) h.branch
  | scanResults => exact absurd (by rw [hb]; simp) h.branch
  | _ => rfl

/-- Whatever is read in front of the event or lost behind the name is reported in some state. -/
theorem toleratesName_of_reaction (hne : e ≠ [])
    (h : ∀ env w, reactionTo env w (ifname i ++ e) = reactionTo env w e) : ToleratesName e i := by
  have hbranch : handlerOf (ifname i ++ e) = handlerOf e :=
    congrArg Reaction.handler (h ⟨.allOk, ⟨0, [], [], 0⟩, ⟨0, [], [], 0⟩, none⟩ .boot)
  obtain ⟨hstart, hquiet⟩ := (handlerOf_ifname_eq_iff e i).mp hbranch
  refine ⟨hne, hstart, hquiet, fun hassoc => ?_,
    fun hkey => keyText_eq_of_info fun gbk bssid info => ?_⟩
  · by_contra hsome
    obtain ⟨ssid, hssid⟩ := Option.ne_none_iff_exists'.mp hsome
    -- what stood in the variable is reported instead of the name
    have hinfo := congrArg Reaction.info
      (h ⟨.allOk, ⟨0, [], [], 0⟩, ⟨0, 0 :: ssid, [], 0⟩, none⟩ .boot)
    simp only [reactionTo, hbranch, hassoc, sentInfo, associatingSsid_ifname, hssid,
      Option.some.injEq, ConnInfo.mk.injEq] at hinfo
    exact absurd (congrArg List.length hinfo.2.1) (by simp)
  · have hinfo := congrArg Reaction.info (h ⟨.allOk, info, ⟨0, [], [], 0⟩, none⟩
      { World.boot with gbkHead := gbk, connectBssid := bssid })
    simpa only [reactionTo, hbranch, hkey, sentInfo] using hinfo

include he hlen

section

include hblank hnul

/-- The two texts that `dispatch_event` can see. -/
theorem prefixFree_iff_reaction (hne : e ≠ []) :
    PrefixFree e i n ↔ ∀ env w, reactionTo env w (ifname i ++ e) = reactionTo env w e := by
  have htotal := namedLevel_length i (natDec n) e
  have hname := ifname_length i
  have hplain := receivedEvent_plain he hne (by omega)
  have hlevel : receivedEvent (bareLevel (natDec n) e) = e :=
    receivedEvent_level he (by rw [bareLevel_length]; omega)
  have hnamed := receivedEvent_named he hblank hnul (by rw [List.length_append]; omega)
  have hboth := receivedEvent_namedLevel he hblank hnul hlen
  simp only [PrefixFree, List.forall_mem_cons, Shape.message, hplain, hlevel, hnamed, hboth]
  exact ⟨fun h env w => (h env w).2.2.1,
    fun h env w => ⟨trivial, trivial, h env w, h env w, List.forall_mem_nil _⟩⟩

end

/-- An empty message is taken for the end of the connection, an empty event is not. -/
theorem not_prefixFree_nil (hnil : e = []) : ¬ PrefixFree e i n := by
  subst hnil
  intro h
  have htotal := namedLevel_length i (natDec n) []
  have hhandler := congrArg Reaction.handler
    (h ⟨.allOk, ⟨0, [], [], 0⟩, ⟨0, [], [], 0⟩, none⟩ .boot (.level n) (by simp))
  have hlevel : receivedEvent (bareLevel (natDec n) []) = [] :=
    receivedEvent_level he (by rw [bareLevel_length]; omega)
  rw [Shape.message, hlevel] at hhandler
  exact absurd hhandler (by decide)

include hblank hnul

end

end ConnectApp.Wifi
