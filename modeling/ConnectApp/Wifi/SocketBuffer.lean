import ConnectApp.Lib.CBuffer
import ConnectApp.Lib.Memory
import ConnectApp.Wifi.MonitorLoop

/-!
# The message level in the receive buffer (Rk_wifi.c:2892-2954)

`wifi_wait_on_socket` cuts the level `<3>` out of a message in place, at the start or behind
`IFNAME=<iface> `. `stripLevel` is what it makes of the buffer; here its reads and writes are
listed call by call (`waitSpans`), for a buffer that may hold anything behind the message.

The text and the length are right in both cases. The `memmove` behind an interface name
counts the terminator twice, so it reads one byte behind it: `strips_level_iff` says that this
leaves the buffer exactly for a message that fills it.
-/

namespace ConnectApp.Wifi

open CString Memory

/-! ## Reads and writes -/

/-- The bytes of `buf` that `strncmp(buf, w, strlen(w))` looks at. -/
def strncmpReads : List UInt8 → List UInt8 → Nat
  | [], _ => 0
  | _ :: _, [] => 1
  | c :: w, b :: t => if b = c then strncmpReads w t + 1 else 1

/-- `strchr(buf + pos, c)` stops at the character or at the terminator. -/
def strchrSpan (c : UInt8) (pos : Nat) (text : List UInt8) : Span :=
  ⟨pos, ((text.drop pos).takeWhile (· ≠ c)).length + 1⟩

/-- The places of `snprintf(buf, buflen, "%s", text)`. -/
def printedSpan (buflen : Nat) (text : List UInt8) : Span := ⟨0, min buflen (text.length + 1)⟩

/-- What `stripLevel` reads and writes when `text` is in the buffer, a `memmove` as the two
spans of its source and its target. -/
def stripSpans (buflen nread : Nat) (text : List UInt8) : List Span :=
  ⟨0, strncmpReads (chars "IFNAME=") text⟩ ::
  if chars "IFNAME=" <+: text then
    strchrSpan 32 0 text ::
    match strchr 32 text with
    | none => [printedSpan buflen wpaEventIgnore]
    | some m =>
      ⟨m + 1, 1⟩ ::
      if text[m + 1]? = some 60 then
        strchrSpan 62 (m + 2) text ::
        match strchr 62 (text.drop (m + 2)) with
        | none => []
        | some k =>
          let nread := nread - (k + 2)
          [⟨m + 2 + k + 1, nread - m + 1⟩, ⟨m + 1, nread - m + 1⟩]
      else []
  else
    ⟨0, 1⟩ ::
    if text[0]? = some 60 then
      strchrSpan 62 0 text ::
      match strchr 62 text with
      | none => []
      | some m =>
        let nread := nread - (m + 1)
        [⟨m + 1, nread + 1⟩, ⟨0, nread + 1⟩]
    else []

/-- What a call of `wifi_wait_on_socket` reads and writes that receives `msg`: the reception,
the terminator behind it, and the end of the function. -/
def waitSpans (buflen : Nat) (msg : List UInt8) : List Span :=
  ⟨0, msg.length⟩ :: ⟨msg.length, 1⟩ ::
    if msg = [] then [printedSpan buflen (closedEvent (chars "signal 0 received"))]
    else stripSpans buflen msg.length msg

/-- `wifi_wait_on_socket` on a message, into a buffer that holds `old`. -/
def waitOnMessage (buflen : Nat) (old msg : List UInt8) : Nat × List UInt8 :=
  if msg = [] then printed buflen (closedEvent (chars "signal 0 received"))
  else stripLevel buflen msg.length (msg ++ 0 :: old.drop (msg.length + 1))

theorem wifiWaitOnSocket_message {buflen : Nat} {msg : List UInt8} (h : msg.length < buflen) :
    wifiWaitOnSocket buflen true ⟨0, some msg⟩ =
      waitOnMessage buflen (List.replicate buflen 0) msg := by
  have htake : msg.take (buflen - 1) = msg := List.take_of_length_le (by omega)
  have hbuf : msg ++ List.replicate (buflen - msg.length) 0 =
      msg ++ 0 :: (List.replicate buflen (0 : UInt8)).drop (msg.length + 1) := by
    rw [List.drop_replicate, ← List.replicate_succ]
    congr 2
    omega
  rw [wifiWaitOnSocket, if_neg (by simp), if_neg (by simp), waitOnMessage]
  show (if (0 : Int) = 0 ∧ (msg.take (buflen - 1)).length = 0 then _ else
    stripLevel buflen (msg.take (buflen - 1)).length (msg.take (buflen - 1) ++
      List.replicate (buflen - (msg.take (buflen - 1)).length) 0)) = _
  rw [htake, hbuf]
  simp only [true_and, List.length_eq_zero_iff]

/-! ## String functions on a message -/

theorem strchr_eq_some_iff {c : UInt8} {t : List UInt8} {n : Nat} :
    strchr c t = some n ↔ ∃ a b, t = a ++ c :: b ∧ c ∉ a ∧ a.length = n := by
  induction t generalizing n with
  | nil => simp [strchr]
  | cons x t ih =>
    rw [strchr, List.findIdx?_cons]
    by_cases hx : x = c
    · subst hx
      simp only [decide_true, if_true, Option.some.injEq]
      constructor
      · rintro rfl
        exact ⟨[], t, rfl, List.not_mem_nil, rfl⟩
      · rintro ⟨a, b, hab, hnot, rfl⟩
        cases a with
        | nil => rfl
        | cons y a => exact absurd (List.cons.inj hab).1 fun h => hnot (h ▸ List.mem_cons_self)
    · simp only [hx, decide_false, Bool.false_eq_true, if_false, Option.map_eq_some_iff]
      constructor
      · rintro ⟨k, hk, rfl⟩
        obtain ⟨a, b, rfl, hnot, rfl⟩ := ih.mp hk
        exact ⟨x :: a, b, rfl, by simp [Ne.symm hx, hnot], rfl⟩
      · rintro ⟨a, b, hab, hnot, rfl⟩
        cases a with
        | nil => exact absurd (List.cons.inj hab).1 hx
        | cons y a =>
          obtain ⟨rfl, rfl⟩ := List.cons.inj hab
          exact ⟨a.length, ih.mpr ⟨a, b, rfl, fun h => hnot (List.mem_cons_of_mem _ h), rfl⟩, rfl⟩

theorem strchr_append {c : UInt8} {a : List UInt8} (h : c ∉ a) (b : List UInt8) :
    strchr c (a ++ c :: b) = some a.length :=
  strchr_eq_some_iff.mpr ⟨a, b, rfl, h, rfl⟩

theorem strncmpReads_le (w t : List UInt8) : strncmpReads w t ≤ t.length + 1 := by
  induction w generalizing t with
  | nil => exact Nat.zero_le _
  | cons c w ih =>
    cases t with
    | nil => exact Nat.le_refl 1
    | cons b t =>
      rw [strncmpReads, List.length_cons]
      have := ih t
      split_ifs <;> omega

/-- A search for a character ends at the terminator at the latest. -/
theorem strchrSpan_below (c : UInt8) {pos : Nat} {text : List UInt8} (h : pos ≤ text.length) :
    (strchrSpan c pos text).Below (text.length + 1) := by
  have hle := (List.takeWhile_sublist (· ≠ c) (l := text.drop pos)).length_le
  rw [List.length_drop] at hle
  show pos + (_ + 1) ≤ _
  omega

theorem printedSpan_below (buflen : Nat) (text : List UInt8) :
    (printedSpan buflen text).Below buflen := by
  show 0 + min buflen _ ≤ buflen
  omega

/-! ## The two shapes -/

/-- `<a>rest`. -/
def bareLevel (a rest : List UInt8) : List UInt8 := 60 :: (a ++ 62 :: rest)

/-- `IFNAME=i `. -/
def ifname (i : List UInt8) : List UInt8 := chars "IFNAME=" ++ i ++ [32]

/-- `IFNAME=i <a>rest`. -/
def namedLevel (i a rest : List UInt8) : List UInt8 := ifname i ++ bareLevel a rest

theorem ifname_length (i : List UInt8) : (ifname i).length = 7 + i.length + 1 := by
  rw [ifname, List.length_append, List.length_append]
  rfl

theorem bareLevel_length (a rest : List UInt8) :
    (bareLevel a rest).length = a.length + rest.length + 2 := by
  rw [bareLevel, List.length_cons, List.length_append, List.length_cons]
  omega

theorem bareLevel_ne_nil (a rest : List UInt8) : bareLevel a rest ≠ [] := List.cons_ne_nil _ _

theorem namedLevel_ne_nil (i a rest : List UInt8) : namedLevel i a rest ≠ [] :=
  List.append_ne_nil_of_right_ne_nil _ (bareLevel_ne_nil a rest)

/-- The buffer holds the text `t`, and its length was returned. -/
def HoldsText (r : Nat × List UInt8) (t : List UInt8) : Prop := text? r.2 = some t ∧ r.1 = t.length

/-- A `memmove` to the left that takes the terminator along closes the gap in the text. -/
theorem text?_memmove {p q rest old : List UInt8} (hnul : 0 ∉ p ++ rest) {dst src n : Nat}
    (hdst : dst = p.length) (hsrc : src = (p ++ q).length) (hn : rest.length < n) :
    text? (memmove dst src n (p ++ q ++ (rest ++ 0 :: old))) = some (p ++ rest) := by
  obtain ⟨k, rfl⟩ := Nat.exists_eq_add_of_lt hn
  have htake : (rest ++ 0 :: old).take (rest.length + k + 1) = rest ++ 0 :: old.take k := by
    rw [List.take_append, List.take_of_length_le (by omega), Nat.add_assoc,
      Nat.add_sub_cancel_left]
    rfl
  rw [memmove, hdst, hsrc, List.drop_left, htake, List.append_assoc p q, List.take_left,
    ← List.append_assoc, List.append_assoc, List.cons_append]
  exact text?_append_zero hnul _

theorem cstr_message {msg : List UInt8} (hnul : 0 ∉ msg) (old : List UInt8) :
    cstr (msg ++ 0 :: old) = msg := by
  rw [cstr_append, if_neg hnul, cstr_cons_zero, List.append_nil]

theorem strchr_bareLevel {a : List UInt8} (ha : 62 ∉ a) (rest : List UInt8) :
    strchr 62 (bareLevel a rest) = some (a.length + 1) := by
  have hnot : (62 : UInt8) ∉ 60 :: a := by simp [ha]
  exact strchr_append hnot rest

theorem strchr_namedLevel {i : List UInt8} (hi : 32 ∉ i) (a rest : List UInt8) :
    strchr 32 (namedLevel i a rest) = some (7 + i.length) := by
  have hnot : (32 : UInt8) ∉ chars "IFNAME=" ++ i := by
    rw [List.mem_append, not_or]
    exact ⟨by decide, hi⟩
  have h := strchr_append hnot (bareLevel a rest)
  rw [List.length_append] at h
  rw [namedLevel, ifname, List.append_assoc]
  exact h

/-- A level at the start. -/
theorem stripLevel_bare {a rest : List UInt8} (ha : 62 ∉ a) (hnul : 0 ∉ bareLevel a rest)
    (buflen : Nat) (old : List UInt8) :
    HoldsText (stripLevel buflen (bareLevel a rest).length (bareLevel a rest ++ 0 :: old)) rest := by
  have hname : ¬ chars "IFNAME=" <+: bareLevel a rest := by
    rintro ⟨t, ht⟩
    exact absurd (List.cons.inj ht).1 (by decide)
  have hlen : (bareLevel a rest).length - (a.length + 1 + 1) = rest.length := by
    simp [bareLevel]
    omega
  have hbuf : bareLevel a rest ++ 0 :: old = [] ++ (60 :: (a ++ [62])) ++ (rest ++ 0 :: old) := by
    simp [bareLevel]
  have hfirst : (bareLevel a rest)[0]? = some 60 := rfl
  rw [stripLevel, cstr_message hnul, if_neg hname, if_pos hfirst, strchr_bareLevel ha]
  simp only [hlen]
  refine ⟨?_, rfl⟩
  rw [hbuf]
  exact text?_memmove (fun h => hnul (by simp [bareLevel, List.nil_append _ ▸ h])) rfl (by simp)
    (by omega)

section

variable {i a rest : List UInt8} (hi : 32 ∉ i) (ha : 62 ∉ a)

theorem ifname_prefix_namedLevel (i a rest : List UInt8) :
    chars "IFNAME=" <+: namedLevel i a rest :=
  ⟨i ++ [32] ++ bareLevel a rest, by simp [namedLevel, ifname]⟩

theorem getElem?_namedLevel (i a rest : List UInt8) :
    (namedLevel i a rest)[7 + i.length + 1]? = some 60 := by
  rw [← ifname_length, namedLevel, List.getElem?_append_right (Nat.le_refl _), Nat.sub_self]
  rfl

theorem namedLevel_length (i a rest : List UInt8) :
    (namedLevel i a rest).length = i.length + a.length + rest.length + 10 := by
  rw [namedLevel, List.length_append, ifname_length, bareLevel_length]
  omega

include ha in
theorem strchr_level : strchr 62 ((namedLevel i a rest).drop (7 + i.length + 2)) = some a.length := by
  have hdrop : (namedLevel i a rest).drop ((ifname i).length + 1) = a ++ 62 :: rest := by
    rw [namedLevel, ← List.drop_drop, List.drop_left]
    rfl
  rw [ifname_length] at hdrop
  rw [hdrop, strchr_append ha]

include hi ha

/-- A level behind an interface name. The moved part ends two bytes behind `rest`. -/
theorem stripLevel_named (hnul : 0 ∉ namedLevel i a rest) (buflen : Nat) (old : List UInt8) :
    HoldsText (stripLevel buflen (namedLevel i a rest).length (namedLevel i a rest ++ 0 :: old))
      (ifname i ++ rest) := by
  have hread : (namedLevel i a rest).length - (a.length + 2) = (ifname i ++ rest).length := by
    rw [namedLevel_length, List.length_append, ifname_length]
    omega
  have hbuf : namedLevel i a rest ++ 0 :: old =
      ifname i ++ bareLevel a [] ++ (rest ++ 0 :: old) := by
    simp [namedLevel, bareLevel]
  rw [stripLevel, cstr_message hnul, if_pos (ifname_prefix_namedLevel i a rest),
    strchr_namedLevel hi]
  simp only [getElem?_namedLevel, if_true, strchr_level ha, hread]
  refine ⟨?_, rfl⟩
  rw [hbuf]
  refine text?_memmove (fun h => hnul ?_) ?_ ?_ ?_
  · rcases List.mem_append.mp h with h | h
    · exact List.mem_append_left _ h
    · exact List.mem_append_right _ (by simp [bareLevel, h])
  · rw [ifname_length]
  · rw [List.length_append, ifname_length, bareLevel_length]
    simp
    omega
  · rw [List.length_append, ifname_length]
    omega

/-- The `memmove` behind an interface name reads one byte behind the terminator. -/
theorem stripSpans_named {buflen : Nat} (hfit : (namedLevel i a rest).length + 1 ≤ buflen) :
    (∀ s ∈ stripSpans buflen (namedLevel i a rest).length (namedLevel i a rest), s.Below buflen) ↔
      (namedLevel i a rest).length + 2 ≤ buflen := by
  have hlen := namedLevel_length i a rest
  have hcmp := strncmpReads_le (chars "IFNAME=") (namedLevel i a rest)
  have hblank := strchrSpan_below 32 (Nat.zero_le (namedLevel i a rest).length)
  have hclose := strchrSpan_below 62 (show 7 + i.length + 2 ≤ (namedLevel i a rest).length by omega)
  rw [stripSpans, if_pos (ifname_prefix_namedLevel i a rest), strchr_namedLevel hi]
  simp only [getElem?_namedLevel, if_true, strchr_level ha, List.forall_mem_cons]
  constructor
  · rintro ⟨-, -, -, -, hsource, -⟩
    simp only [Span.Below] at hsource
    omega
  · intro hroom
    refine ⟨?_, hblank.mono (by omega), ?_, hclose.mono (by omega), ?_, ?_, List.forall_mem_nil _⟩
    all_goals
      simp only [Span.Below]
      omega

end

/-- A message with its level behind an interface name. -/
def NamedLevel (msg : List UInt8) : Prop :=
  ∃ i a rest, 32 ∉ i ∧ 62 ∉ a ∧ msg = namedLevel i a rest

/-- The way through `wifi_wait_on_socket` to its second `memmove` is taken by these messages
only. -/
theorem namedLevel_of_strchr {msg : List UInt8} {m k : Nat} (hname : chars "IFNAME=" <+: msg)
    (hblank : strchr 32 msg = some m) (hlevel : msg[m + 1]? = some 60)
    (hclose : strchr 62 (msg.drop (m + 2)) = some k) : NamedLevel msg := by
  obtain ⟨t, rfl⟩ := hname
  obtain ⟨x, y, hxy, hx, rfl⟩ := strchr_eq_some_iff.mp hblank
  -- the first blank is behind the name, because the name has none
  obtain ⟨i, rfl⟩ : ∃ i, x = chars "IFNAME=" ++ i := by
    rcases List.append_eq_append_iff.mp hxy with ⟨i, hi, -⟩ | ⟨z, hz, hy⟩
    · exact ⟨i, hi⟩
    · cases z with
      | nil => exact ⟨[], by rw [hz, List.append_nil, List.append_nil]⟩
      | cons b z =>
        have hmem : (32 : UInt8) ∈ chars "IFNAME=" := by
          rw [hz, (List.cons.inj hy).1]
          simp
        exact absurd hmem (by decide)
  obtain ⟨-, hi⟩ := not_or.mp (mt List.mem_append.mpr hx)
  rw [hxy, List.getElem?_append_right (by omega), Nat.add_sub_cancel_left] at hlevel
  obtain ⟨z, rfl⟩ : ∃ z, y = 60 :: z := by
    cases y with
    | nil => cases hlevel
    | cons b z => exact ⟨z, by rw [Option.some.inj hlevel]⟩
  have hdrop : (chars "IFNAME=" ++ t).drop ((chars "IFNAME=" ++ i).length + 2) = z := by
    rw [hxy, ← List.drop_drop, List.drop_left]
    rfl
  rw [hdrop] at hclose
  obtain ⟨a, rest, rfl, ha, -⟩ := strchr_eq_some_iff.mp hclose
  exact ⟨i, a, rest, hi, ha, by rw [hxy]; simp [namedLevel, ifname, bareLevel]⟩

/-- Every other message stays inside. -/
theorem stripSpans_of_not_named {buflen : Nat} {msg : List UInt8} (h : ¬ NamedLevel msg)
    (hfit : msg.length + 1 ≤ buflen) :
    ∀ s ∈ stripSpans buflen msg.length msg, s.Below buflen := by
  have hcmp : (Span.mk 0 (strncmpReads (chars "IFNAME=") msg)).Below buflen := by
    have hle := strncmpReads_le (chars "IFNAME=") msg
    simp only [Span.Below]
    omega
  have hchr : ∀ (c : UInt8) {pos : Nat}, pos ≤ msg.length → (strchrSpan c pos msg).Below buflen :=
    fun c _ hpos => (strchrSpan_below c hpos).mono hfit
  rw [stripSpans, List.forall_mem_cons]
  refine ⟨hcmp, ?_⟩
  split_ifs with hname hfirst
  · rw [List.forall_mem_cons]
    refine ⟨hchr 32 (Nat.zero_le _), ?_⟩
    split
    next => exact List.forall_mem_singleton.mpr (printedSpan_below _ _)
    next m hblank =>
      obtain ⟨x, y, hxy, -, rfl⟩ := strchr_eq_some_iff.mp hblank
      have hlen : msg.length = x.length + (y.length + 1) := by rw [hxy]; simp
      rw [List.forall_mem_cons]
      refine ⟨by simp only [Span.Below]; omega, ?_⟩
      split_ifs with hlevel
      · have hy : x.length + 2 ≤ msg.length := by
          have := (List.getElem?_eq_some_iff.mp hlevel).1
          omega
        rw [List.forall_mem_cons]
        refine ⟨hchr 62 hy, ?_⟩
        split
        next => exact List.forall_mem_nil _
        next k hclose => exact absurd (namedLevel_of_strchr hname hblank hlevel hclose) h
      · exact List.forall_mem_nil _
  · rw [List.forall_mem_cons, List.forall_mem_cons]
    refine ⟨by simp only [Span.Below]; omega, hchr 62 (Nat.zero_le _), ?_⟩
    split
    next => exact List.forall_mem_nil _
    next m hclose =>
      obtain ⟨x, y, hxy, -, rfl⟩ := strchr_eq_some_iff.mp hclose
      have hlen : msg.length = x.length + (y.length + 1) := by rw [hxy]; simp
      simp only [List.forall_mem_cons, Span.Below]
      exact ⟨by omega, by omega, List.forall_mem_nil _⟩
  · exact List.forall_mem_singleton.mpr (by simp only [Span.Below]; omega)

/-! ## Stripping the level -/

/-- `wifi_wait_on_socket` cuts the level out of `msg` as it should, whatever the buffer held
before, and touches nothing behind the buffer. -/
structure StripsLevel (buflen : Nat) (msg : List UInt8) : Prop where
  bare : ∀ old a rest, 62 ∉ a → msg = bareLevel a rest →
    HoldsText (waitOnMessage buflen old msg) rest
  named : ∀ old i a rest, 32 ∉ i → 62 ∉ a → msg = namedLevel i a rest →
    HoldsText (waitOnMessage buflen old msg) (ifname i ++ rest)
  inside : ∀ s ∈ waitSpans buflen msg, s.Below buflen

/-- The text and the length are right for every message. -/
theorem waitOnMessage_bare {msg : List UInt8} (hnul : 0 ∉ msg) (buflen : Nat)
    (old a rest : List UInt8) (ha : 62 ∉ a) (hmsg : msg = bareLevel a rest) :
    HoldsText (waitOnMessage buflen old msg) rest := by
  subst hmsg
  rw [waitOnMessage, if_neg (bareLevel_ne_nil a rest)]
  exact stripLevel_bare ha hnul buflen _

theorem waitOnMessage_named {msg : List UInt8} (hnul : 0 ∉ msg) (buflen : Nat)
    (old i a rest : List UInt8) (hi : 32 ∉ i) (ha : 62 ∉ a) (hmsg : msg = namedLevel i a rest) :
    HoldsText (waitOnMessage buflen old msg) (ifname i ++ rest) := by
  subst hmsg
  rw [waitOnMessage, if_neg (namedLevel_ne_nil i a rest)]
  exact stripLevel_named hi ha hnul buflen _

theorem waitSpans_below_iff {buflen : Nat} {msg : List UInt8} (hlen : msg.length + 1 ≤ buflen) :
    (∀ s ∈ waitSpans buflen msg, s.Below buflen) ↔
      msg.length + 2 ≤ buflen ∨ ¬ NamedLevel msg := by
  have hreceived : (Span.mk 0 msg.length).Below buflen ∧ (Span.mk msg.length 1).Below buflen := by
    simp only [Span.Below]
    omega
  rw [waitSpans, List.forall_mem_cons, List.forall_mem_cons, ← and_assoc, and_iff_right hreceived]
  by_cases hnamed : NamedLevel msg
  · obtain ⟨i, a, rest, hi, ha, rfl⟩ := hnamed
    rw [if_neg (namedLevel_ne_nil i a rest), stripSpans_named hi ha hlen]
    exact ⟨.inl, fun h => h.resolve_right fun hnot => hnot ⟨i, a, rest, hi, ha, rfl⟩⟩
  · refine iff_of_true ?_ (.inr hnamed)
    split_ifs
    · exact List.forall_mem_singleton.mpr (printedSpan_below _ _)
    · exact stripSpans_of_not_named hnamed hlen

/-- **The level is cut out** of every message that fits into the buffer with its terminator.
The calls stay inside the buffer exactly if the message leaves one more byte free or has no
level behind an interface name. -/
theorem strips_level_iff {buflen : Nat} {msg : List UInt8} (hnul : 0 ∉ msg)
    (hlen : msg.length ≤ buflen - 1) (hbuf : 0 < buflen) :
    StripsLevel buflen msg ↔ msg.length + 2 ≤ buflen ∨ ¬ NamedLevel msg := by
  rw [← waitSpans_below_iff (show msg.length + 1 ≤ buflen by omega)]
  constructor
  · exact fun h => h.inside
  · exact fun h => ⟨waitOnMessage_bare hnul buflen, waitOnMessage_named hnul buflen, h⟩

/-- A message in the buffer of the monitor. -/
theorem strips_level_short : (0 : UInt8) ∉ chars "IFNAME=wlan0 <3>CTRL-EVENT-CONNECTED " ∧
    StripsLevel 1024 (chars "IFNAME=wlan0 <3>CTRL-EVENT-CONNECTED ") :=
  ⟨by decide, (strips_level_iff (by decide) (by decide) (by decide)).mpr (.inl (by decide))⟩

/-- A message of twelve bytes fills a buffer of thirteen, and the `memmove` reads a fourteenth. -/
theorem full_buffer_overread : ¬ ∀ (buflen : Nat) (msg : List UInt8), 0 ∉ msg →
    msg.length ≤ buflen - 1 → 0 < buflen → StripsLevel buflen msg := by
  intro h
  have hstrips := h 13 (chars "IFNAME=a <>b") (by decide) (by decide) (by decide)
  have hread := hstrips.inside ⟨11, 3⟩ (by decide)
  exact absurd hread (by decide)

end ConnectApp.Wifi
