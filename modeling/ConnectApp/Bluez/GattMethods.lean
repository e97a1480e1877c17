import ConnectApp.Lib.CBuffer
import Mathlib.Data.List.Basic

/-!
# The D-Bus methods of the local attributes (gatt_config.c:192-236, 335-368, 536-714, 873-925)

`ReadValue` and `WriteValue` have an options dictionary, which `parse_options` reads entry by
entry. It stores each value at once and stops at the first one of a wrong type, so what stood in
front of that entry has taken effect (`parse_options_atomic_iff`); and it follows the pointer for
the MTU without asking, which is NULL for descriptors.

`WriteValue` gives it the iterator that `parse_value` has looked through and not moved. So it
finds the bytes of the value in place of the options. It also copies the value into a buffer of 513
bytes, and `ReadValue` takes the number of its bytes from the application, or from a variable that
is not set when there is none (`write_honours_iff`).

`Set("Value")` of a characteristic takes the result of `parse_value` the wrong way round
(`set_value_right_iff`).
-/

namespace ConnectApp.Bluez

open CString

/-! ## Messages -/

/-- The content of a variant, by the types that `parse_options` asks for. -/
inductive Variant
  | uint16 (n : UInt16)
  | objectPath (path : List UInt8)
  | string (text : List UInt8)
  | boolean (b : Bool)
  | other
  deriving DecidableEq

/-- An argument of a message: a dictionary, an array of bytes, or no array. -/
inductive Arg
  | dict (entries : List (List UInt8 × Variant))
  | bytes (value : List UInt8)
  | basic
  deriving DecidableEq

/-- A `DBusMessageIter`: the arguments from where it stands. -/
abbrev Iter := List Arg

/-! ## `parse_options` -/

/-- What the entry of a dictionary asks for. -/
inductive Setting
  | offset (n : UInt16)
  | mtu (n : UInt16)
  | device (path : List UInt8)
  | link (name : List UInt8)
  | prepAuthorize (b : Bool)
  | unknown
  deriving DecidableEq

/-- The comparisons of the key and of the type; `none` for a value of a wrong type. An MTU of 517
counts as 512. -/
def setting (key : List UInt8) (value : Variant) : Option Setting :=
  if eqIgnoringCase key (chars "offset") then
    match value with
    | .uint16 n => some (.offset n)
    | _ => none
  else if eqIgnoringCase key (chars "MTU") then
    match value with
    | .uint16 tmp => some (.mtu (if tmp = 517 then 512 else tmp))
    | _ => none
  else if eqIgnoringCase key (chars "device") then
    match value with
    | .objectPath path => some (.device path)
    | _ => none
  else if eqIgnoringCase key (chars "link") then
    match value with
    | .string name => some (.link name)
    | _ => none
  else if eqIgnoringCase key (chars "prepare-authorize") then
    match value with
    | .boolean b => some (.prepAuthorize b)
    | _ => none
  else some .unknown

/-- The variables behind the five pointers of `parse_options`; `none` is a NULL pointer. A text
variable is itself a pointer, `none` if it was not set. -/
@[ext] structure Outputs where
  offset : Option UInt16
  mtu : Option UInt16
  device : Option (Option (List UInt8))
  link : Option (Option (List UInt8))
  prepAuthorize : Option Bool
  deriving DecidableEq

/-- The outputs, and the values reported with `RK_BLE_GATT_MTU`. -/
structure Parse where
  out : Outputs
  mtuCallbacks : List UInt16
  deriving DecidableEq

section

variable (registered : Bool)

/-- What an entry does; `none` when it goes through a NULL pointer. Only the MTU is stored
without a test of its pointer. `registered` says that there is a `cb_ble_recv_fun`. -/
def Parse.apply (s : Parse) : Setting → Option Parse
  | .offset n => some { s with out := { s.out with offset := s.out.offset.map fun _ => n } }
  | .mtu tmp => s.out.mtu.map fun mtu =>
    if mtu ≠ tmp then
      ⟨{ s.out with mtu := some tmp }, s.mtuCallbacks ++ if registered then [tmp] else []⟩
    else s
  | .device path =>
    some { s with out := { s.out with device := s.out.device.map fun _ => some path } }
  | .link name => some { s with out := { s.out with link := s.out.link.map fun _ => some name } }
  | .prepAuthorize b =>
    some { s with out := { s.out with prepAuthorize := s.out.prepAuthorize.map fun _ => b } }
  | .unknown => some s

/-- How `parse_options` ends. -/
inductive Parsed
  | returned (ret : Int) (s : Parse)
  | nullPointer
  deriving DecidableEq

/-- `-EINVAL`. -/
def einval : Int := -22

/-- The `while` loop over the entries. -/
def parseEntries (s : Parse) : List (List UInt8 × Variant) → Parsed
  | [] => .returned 0 s
  | e :: es =>
    match setting e.1 e.2 with
    | none => .returned einval s
    | some x =>
      match s.apply registered x with
      | none => .nullPointer
      | some s => parseEntries s es

/-- `parse_options` (gatt_config.c:536-607). An array of bytes has no dictionary entries. -/
def parseOptions (out : Outputs) : Iter → Parsed
  | .dict entries :: _ => parseEntries registered ⟨out, []⟩ entries
  | .bytes _ :: _ => .returned 0 ⟨out, []⟩
  | _ => .returned einval ⟨out, []⟩

end

/-! ## What is left in the outputs -/

/-- The settings in front of the first entry of a wrong type. -/
def goodSettings : List (List UInt8 × Variant) → List Setting
  | [] => []
  | e :: es =>
    match setting e.1 e.2 with
    | none => []
    | some x => x :: goodSettings es

/-- No entry has a wrong type. -/
def accepted (entries : List (List UInt8 × Variant)) : Bool :=
  entries.all fun e => (setting e.1 e.2).isSome

namespace Setting

/-- The offset that an entry gives. -/
def offset? : Setting → Option UInt16
  | .offset n => some n
  | _ => none

/-- The MTU that an entry gives. -/
def mtu? : Setting → Option UInt16
  | .mtu n => some n
  | _ => none

/-- The device that an entry gives. -/
def device? : Setting → Option (List UInt8)
  | .device path => some path
  | _ => none

/-- The link that an entry gives. -/
def link? : Setting → Option (List UInt8)
  | .link name => some name
  | _ => none

/-- The authorization that an entry gives. -/
def prepAuthorize? : Setting → Option Bool
  | .prepAuthorize b => some b
  | _ => none

end Setting

/-- The MTUs of the settings, in their order. -/
def mtus (xs : List Setting) : List UInt16 := xs.filterMap Setting.mtu?

/-- Each output has the last value given for it. -/
def Outputs.after (o : Outputs) (xs : List Setting) : Outputs where
  offset := o.offset.map (xs.filterMap Setting.offset?).getLastD
  mtu := o.mtu.map (mtus xs).getLastD
  device := o.device.map ((xs.filterMap Setting.device?).map some).getLastD
  link := o.link.map ((xs.filterMap Setting.link?).map some).getLastD
  prepAuthorize := o.prepAuthorize.map (xs.filterMap Setting.prepAuthorize?).getLastD

/-- The values that differ from the one in front of them. -/
def changes (cur : UInt16) : List UInt16 → List UInt16
  | [] => []
  | v :: vs => if cur ≠ v then v :: changes v vs else changes cur vs

/-- No value differs from the one before it exactly if all are the first one. -/
theorem changes_eq_nil_iff {cur : UInt16} {vs : List UInt16} :
    changes cur vs = [] ↔ ∀ v ∈ vs, v = cur := by
  induction vs with
  | nil => simp [changes]
  | cons v vs ih =>
    rw [changes, List.forall_mem_cons]
    split_ifs with hv
    · exact iff_of_false not_false fun h => hv h.1.symm
    · rw [ih, not_not.mp hv]
      simp

theorem changes_cons (cur v : UInt16) (vs : List UInt16) :
    changes cur (v :: vs) = changes cur [v] ++ changes v vs := by
  rw [changes, changes, changes]
  by_cases hv : cur ≠ v
  · rw [if_pos hv, if_pos hv, List.singleton_append]
  · rw [if_neg hv, if_neg hv, not_not.mp hv]
    rfl

/-- The settings one after another. -/
def Parse.applyAll (registered : Bool) : Parse → List Setting → Option Parse
  | s, [] => some s
  | s, x :: xs => (s.apply registered x).bind fun s => s.applyAll registered xs

/-- **The loop**: the good settings take effect, and then the first wrong one is reported. -/
theorem parseEntries_eq (registered : Bool) (s : Parse) (entries : List (List UInt8 × Variant)) :
    parseEntries registered s entries =
      match s.applyAll registered (goodSettings entries) with
      | none => .nullPointer
      | some s => .returned (if accepted entries then 0 else einval) s := by
  induction entries generalizing s with
  | nil => rfl
  | cons e es ih =>
    rw [parseEntries, goodSettings, accepted, List.all_cons]
    cases hx : setting e.1 e.2 with
    -- a wrong type: the loop ends, and no later entry is looked at
    | none => rfl
    | some x =>
      cases hs : s.apply registered x with
      | none => simp only [Parse.applyAll, hs, Option.bind_none]
      | some s' =>
        simp only [Parse.applyAll, hs, Option.bind_some, Option.isSome_some, Bool.true_and]
        exact ih s'

/-- The last value of two parts, with a default. -/
theorem map_getLastD_append {α : Type} (x : Option α) (l l' : List α) :
    x.map (l ++ l').getLastD = (x.map l.getLastD).map l'.getLastD := by
  cases x with
  | none => rfl
  | some d =>
    rw [Option.map_some, Option.map_some, Option.map_some, List.getLastD_eq_getLast?,
      List.getLastD_eq_getLast?, List.getLastD_eq_getLast?, List.getLast?_append]
    cases l'.getLast? <;> rfl

/-- Two parts of the settings, one after the other. -/
theorem Outputs.after_append (o : Outputs) (xs ys : List Setting) :
    o.after (xs ++ ys) = (o.after xs).after ys := by
  simp only [after, mtus, List.filterMap_append, List.map_append, map_getLastD_append]

theorem map_getLastD_nil {α : Type} (x : Option α) : x.map (List.getLastD []) = x := by
  cases x <;> rfl

/-- Without settings the outputs stay. -/
theorem Outputs.after_nil (o : Outputs) : o.after [] = o := by
  simp only [after, mtus, List.filterMap_nil, List.map_nil, map_getLastD_nil]

/-- A setting other than the MTU is stored if there is a variable for it. -/
theorem Parse.apply_of_mtu?_none {registered : Bool} (s : Parse) {x : Setting}
    (hx : x.mtu? = none) : s.apply registered x = some ⟨s.out.after [x], s.mtuCallbacks⟩ := by
  cases x with
  | mtu n => simp [Setting.mtu?] at hx
  | unknown => rw [apply, show s.out.after [.unknown] = s.out from s.out.after_nil]
  | offset n | device path | link name | prepAuthorize b =>
    simp only [apply, Outputs.after, mtus, List.filterMap_cons, List.filterMap_nil,
      Setting.offset?, Setting.mtu?, Setting.device?, Setting.link?, Setting.prepAuthorize?,
      List.map_cons, List.map_nil, map_getLastD_nil]
    rfl

/-- The MTU is stored and reported if it is new. -/
theorem Parse.apply_mtu {registered : Bool} {s : Parse} {cur : UInt16}
    (hmtu : s.out.mtu = some cur) (n : UInt16) :
    s.apply registered (.mtu n) = some ⟨s.out.after [.mtu n],
      s.mtuCallbacks ++ if registered then changes cur [n] else []⟩ := by
  rw [apply, hmtu, Option.map_some]
  have hafter : s.out.after [.mtu n] = { s.out with mtu := some n } := by
    simp only [Outputs.after, mtus, List.filterMap_cons, List.filterMap_nil, Setting.offset?,
      Setting.mtu?, Setting.device?, Setting.link?, Setting.prepAuthorize?, List.map_nil,
      map_getLastD_nil, hmtu]
    rfl
  rw [hafter, changes, changes]
  by_cases hne : cur ≠ n
  · rw [if_pos hne, if_pos hne]
  · have hsame : { s.out with mtu := some n } = s.out := by rw [← not_not.mp hne, ← hmtu]
    rw [if_neg hne, if_neg hne, hsame, changes, ite_self, List.append_nil]

/-- **The outputs.** After the settings each variable has its last value. The MTUs that are new
have been reported; without a variable for it there must have been none. -/
theorem Parse.applyAll_eq (registered : Bool) (xs : List Setting) : ∀ s : Parse,
    s.applyAll registered xs =
      match s.out.mtu with
      | none => if mtus xs = [] then some ⟨s.out.after xs, s.mtuCallbacks⟩ else none
      | some cur => some ⟨s.out.after xs,
          s.mtuCallbacks ++ if registered then changes cur (mtus xs) else []⟩ := by
  induction xs with
  | nil =>
    intro s
    rw [applyAll, Outputs.after_nil]
    cases s.out.mtu with
    | none => rfl
    | some cur => simp [mtus, changes]
  | cons x xs ih =>
    intro s
    have hafter : s.out.after (x :: xs) = (s.out.after [x]).after xs := s.out.after_append [x] xs
    rw [applyAll]
    cases hx : x.mtu? with
    | none =>
      have hmtus : mtus (x :: xs) = mtus xs := List.filterMap_cons_none hx
      have hkeep : (s.out.after [x]).mtu = s.out.mtu := by
        rw [Outputs.after, mtus, List.filterMap_cons_none hx]
        exact map_getLastD_nil _
      rw [s.apply_of_mtu?_none hx, Option.bind_some, ih, hkeep, hmtus, hafter]
    | some n =>
      obtain rfl : x = .mtu n := by
        cases x <;> simp_all [Setting.mtu?]
      have hmtus : mtus (.mtu n :: xs) = n :: mtus xs := rfl
      cases hmtu : s.out.mtu with
      | none =>
        -- `*mtu` with a NULL pointer
        rw [hmtus]
        simp [apply, hmtu]
      | some cur =>
        -- the entries behind this one are compared with `n`
        have hnew : (s.out.after [.mtu n]).mtu = some n := by
          rw [Outputs.after, hmtu]
          rfl
        rw [apply_mtu hmtu, Option.bind_some, ih, hnew, hmtus, hafter]
        cases registered with
        | false => simp
        | true => simp [changes_cons cur n (mtus xs)]

/-! ## All or nothing -/

/-- The call follows no NULL pointer, and if it fails, the outputs are as they were and nothing
has been reported. -/
def AllOrNothing (registered : Bool) (o : Outputs) (iter : Iter) : Prop :=
  ∃ ret s, parseOptions registered o iter = .returned ret s ∧
    (ret = einval → s.out = o ∧ s.mtuCallbacks = [])

/-- The settings leave the outputs as they were, without a report. -/
structure Quiet (registered : Bool) (o : Outputs) (xs : List Setting) : Prop where
  outputs : o.after xs = o
  reports : registered = true → ∀ cur ∈ o.mtu, ∀ v ∈ mtus xs, v = cur

theorem returned_iff {acc : Bool} {s : Parse} {P : Parse → Prop} :
    (∃ ret t, Parsed.returned (if acc then 0 else einval) s = .returned ret t ∧
      (ret = einval → P t)) ↔ acc = true ∨ P s := by
  constructor
  · rintro ⟨ret, t, h, hP⟩
    obtain ⟨rfl, rfl⟩ := Parsed.returned.inj h
    cases acc with
    | true => exact .inl rfl
    | false => exact .inr (hP rfl)
  · intro h
    refine ⟨_, _, rfl, fun hret => h.resolve_left fun hacc => ?_⟩
    rw [hacc] at hret
    exact absurd hret (by decide)

/-- **Atomicity of `parse_options`.** It is all or nothing exactly if there is a variable for the
MTU, or no MTU in front of the first wrong entry; and if, with a wrong entry, the settings in
front of it repeat what the variables hold. -/
theorem parse_options_atomic_iff (registered : Bool) (o : Outputs)
    (entries : List (List UInt8 × Variant)) (rest : Iter) :
    AllOrNothing registered o (.dict entries :: rest) ↔
      (o.mtu ≠ none ∨ mtus (goodSettings entries) = []) ∧
        (accepted entries = true ∨ Quiet registered o (goodSettings entries)) := by
  rw [AllOrNothing, parseOptions, parseEntries_eq, Parse.applyAll_eq]
  cases hmtu : o.mtu with
  | none =>
    -- without a variable nothing can be reported, and any MTU is fatal
    have hquiet : Quiet registered o (goodSettings entries) ↔
        o.after (goodSettings entries) = o ∧ ([] : List UInt16) = [] :=
      ⟨fun h => ⟨h.outputs, rfl⟩, fun h => ⟨h.1, fun _ cur hcur => by simp [hmtu] at hcur⟩⟩
    by_cases hnone : mtus (goodSettings entries) = []
    · rw [if_pos hnone, hquiet]
      refine returned_iff.trans ?_
      simp [hnone]
    · rw [if_neg hnone]
      simp [hnone]
  | some cur =>
    -- `Quiet` is what a failed call must have left
    have hquiet : Quiet registered o (goodSettings entries) ↔ o.after (goodSettings entries) = o ∧
        [] ++ (if registered then changes cur (mtus (goodSettings entries)) else []) = [] := by
      rw [List.nil_append]
      cases registered with
      | false => exact ⟨fun h => ⟨h.outputs, rfl⟩, fun h => ⟨h.1, nofun⟩⟩
      | true =>
        rw [if_pos rfl, changes_eq_nil_iff]
        refine ⟨fun h => ⟨h.outputs, h.reports rfl cur hmtu⟩, fun h => ⟨h.1, ?_⟩⟩
        intro _ cur' hcur'
        obtain rfl : cur = cur' := Option.some.inj (hmtu.symm.trans hcur')
        exact h.2
    rw [hquiet]
    refine returned_iff.trans ?_
    simp

/-- The pointers that the methods of a characteristic pass. -/
def Outputs.ofChr (mtu : UInt16) (device link : Option (List UInt8)) : Outputs :=
  ⟨none, some mtu, some device, some link, none⟩

/-- The pointers that the methods of a descriptor pass. -/
def Outputs.ofDesc (device : Option (List UInt8)) : Outputs := ⟨none, none, some device, none, none⟩

/-- An MTU for a descriptor goes through a NULL pointer; an MTU for a characteristic stays when a
wrong entry follows. -/
theorem parse_options_not_atomic :
    parseOptions true (.ofDesc none) [.dict [(chars "mtu", .uint16 23)]] = .nullPointer ∧
      parseOptions true (.ofChr 23 none none)
          [.dict [(chars "MTU", .uint16 100), (chars "device", .other)]] =
        .returned einval ⟨.ofChr 100 none none, [100]⟩ := by
  decide

/-! ## `ReadValue` and `WriteValue` -/

/-- What the methods read and write of a `struct characteristic`. -/
structure GattChr where
  value : List UInt8
  mtu : UInt16
  deriving DecidableEq

/-- The calls of `cb_ble_recv_fun`. -/
inductive GattCallback
  | mtu (n : UInt16)
  | serverReadByRemote
  | serverWriteByRemote (value : List UInt8)
  deriving DecidableEq

/-- The MTU that a callback reports. -/
def GattCallback.mtu? : GattCallback → Option UInt16
  | .mtu n => some n
  | _ => none

/-- The answer to a method call; a message of an error may be NULL. -/
inductive Reply
  | value (bytes : List UInt8)
  | done
  | error (name : List UInt8) (message : Option (List UInt8))
  deriving DecidableEq

/-- Whether the call failed. -/
def Reply.isError : Reply → Bool
  | .error .. => true
  | _ => false

/-- `DBUS_ERROR_INVALID_ARGS` with the text of the methods. -/
def invalidArgs : Reply :=
  .error (chars "org.freedesktop.DBus.Error.InvalidArgs") (some (chars "Invalid arguments"))

/-- What a method leaves: its answer, the characteristic, and the callbacks it has made. -/
structure MethodResult where
  reply : Reply
  chr : GattChr
  callbacks : List GattCallback
  deriving DecidableEq

/-- The values reported with `RK_BLE_GATT_MTU`. -/
def MethodResult.mtuCallbacks (r : MethodResult) : List UInt16 :=
  r.callbacks.filterMap GattCallback.mtu?

/-- `parse_value` (gatt_config.c:202-213). The iterator is not moved. -/
def parseValue : Iter → Option (List UInt8)
  | .bytes value :: _ => some value
  | _ => none

/-- The MTU that a characteristic has after `parse_options`. -/
def GattChr.parsed (chr : GattChr) (s : Parse) : GattChr :=
  { chr with mtu := s.out.mtu.getD chr.mtu }

section

variable (registered : Bool)

/-- The local variables of `chr_read_value` that are not initialised. -/
structure ReadLocals where
  device : Option (List UInt8)
  link : Option (List UInt8)
  len : Int

/-- What stands in `value[513]` up to `len` (gatt_config.c:656-661): `answer`, the bytes that the
application puts there with their number, or without an application as many zeros as the `len` that
nobody has set. `none` if the NUL at `value[len]` is outside. -/
def readAnswer (answer : List UInt8) (len : Int) : Option (List UInt8) :=
  if registered then if answer.length ≤ 512 then some answer else none
  else if 0 ≤ len ∧ len ≤ 512 then some (List.replicate len.toNat 0)
  else none

/-- `chr_read_value` (gatt_config.c:631-672). -/
def chrReadValue (answer : List UInt8) (stack : ReadLocals) (chr : GattChr) (iter : Iter) :
    Option MethodResult :=
  match parseOptions registered (.ofChr chr.mtu stack.device stack.link) iter with
  | .nullPointer => none
  | .returned ret s =>
    let chr := chr.parsed s
    if ret ≠ 0 then some ⟨invalidArgs, chr, s.mtuCallbacks.map .mtu⟩
    else
      (readAnswer registered answer stack.len).map fun value =>
        ⟨.value value, { chr with value := value },
          s.mtuCallbacks.map .mtu ++ if registered then [.serverReadByRemote] else []⟩

/-- `chr_write_value` (gatt_config.c:674-714). A value that is not empty is copied into
`debug[513]`, with a NUL behind it; `none` if that is too short. -/
def chrWriteValue (chr : GattChr) (iter : Iter) : Option MethodResult :=
  match parseValue iter with
  | none => some ⟨invalidArgs, chr, []⟩
  | some value =>
    match parseOptions registered (.ofChr chr.mtu none none) iter with
    | .nullPointer => none
    | .returned ret s =>
      let chr := chr.parsed s
      if ret ≠ 0 then
        some ⟨.error (chars "org.bluez.Error.InvalidArguments") none, chr, s.mtuCallbacks.map .mtu⟩
      else if value = [] then
        some ⟨.done, { chr with value := value }, s.mtuCallbacks.map .mtu⟩
      else if 512 < value.length then none
      else
        some ⟨.done, { chr with value := value },
          s.mtuCallbacks.map .mtu ++ if registered then [.serverWriteByRemote value] else []⟩

end

/-- Both methods treat the options alike: if they are accepted, both leave the same MTU with the
same reports; if `ReadValue` rejects them, so does `WriteValue`, and the value stays. -/
structure HonoursOptions (registered : Bool) (answer : List UInt8) (stack : ReadLocals)
    (chr : GattChr) (value : List UInt8) (options : List (List UInt8 × Variant)) : Prop where
  same : accepted options = true → ∃ r w,
    chrReadValue registered answer stack chr [.dict options] = some r ∧
      chrWriteValue registered chr [.bytes value, .dict options] = some w ∧
      w.chr.mtu = r.chr.mtu ∧ w.mtuCallbacks = r.mtuCallbacks
  rejected : ∀ r, chrReadValue registered answer stack chr [.dict options] = some r →
    r.reply.isError = true → ∃ w,
      chrWriteValue registered chr [.bytes value, .dict options] = some w ∧
        w.reply.isError = true ∧ w.chr.value = chr.value

/-- The options of a characteristic's method: never a NULL pointer. -/
theorem parseOptions_ofChr (registered : Bool) (mtu : UInt16) (device link : Option (List UInt8))
    (options : List (List UInt8 × Variant)) (rest : Iter) :
    parseOptions registered (.ofChr mtu device link) (.dict options :: rest) =
      .returned (if accepted options then 0 else einval)
        ⟨(Outputs.ofChr mtu device link).after (goodSettings options),
          if registered then changes mtu (mtus (goodSettings options)) else []⟩ := by
  rw [parseOptions, parseEntries_eq, Parse.applyAll_eq]
  rfl

/-- The MTUs among the callbacks. -/
theorem filterMap_mtu (ns : List UInt16) (cs : List GattCallback)
    (hcs : cs.filterMap GattCallback.mtu? = []) :
    (ns.map GattCallback.mtu ++ cs).filterMap GattCallback.mtu? = ns := by
  rw [List.filterMap_append, hcs, List.append_nil, List.filterMap_map]
  exact List.filterMap_some

/-- `ReadValue` rejects options of a wrong type. -/
theorem chrReadValue_rejected {registered : Bool} {options : List (List UInt8 × Variant)}
    (h : accepted options = false) (answer : List UInt8) (stack : ReadLocals) (chr : GattChr) :
    ∃ r, chrReadValue registered answer stack chr [.dict options] = some r ∧
      r.reply.isError = true := by
  rw [chrReadValue, parseOptions_ofChr, h]
  exact ⟨_, rfl, rfl⟩

/-- `ReadValue` takes and reports the MTU of options that it accepts. -/
theorem chrReadValue_accepted {registered : Bool} {options : List (List UInt8 × Variant)}
    (h : accepted options = true) (answer : List UInt8) (stack : ReadLocals) (chr : GattChr)
    {r : MethodResult} (hr : chrReadValue registered answer stack chr [.dict options] = some r) :
    r.reply.isError = false ∧ r.chr.mtu = (mtus (goodSettings options)).getLastD chr.mtu ∧
      r.mtuCallbacks =
        if registered then changes chr.mtu (mtus (goodSettings options)) else [] := by
  rw [chrReadValue, parseOptions_ofChr, h] at hr
  obtain ⟨value, -, rfl⟩ := Option.map_eq_some_iff.mp hr
  refine ⟨rfl, rfl, filterMap_mtu _ _ ?_⟩
  cases registered <;> rfl

/-- It answers accepted options if the answer fits. -/
theorem isSome_chrReadValue {registered : Bool} {options : List (List UInt8 × Variant)}
    (h : accepted options = true) (answer : List UInt8) (stack : ReadLocals) (chr : GattChr) :
    (chrReadValue registered answer stack chr [.dict options]).isSome =
      (readAnswer registered answer stack.len).isSome := by
  rw [chrReadValue, parseOptions_ofChr, h]
  exact Option.isSome_map

/-- `WriteValue` finds the value where it looks for the options, and so nothing to reject. -/
theorem chrWriteValue_bytes (registered : Bool) (chr : GattChr) {value : List UInt8}
    (hlen : value.length ≤ 512) (rest : Iter) :
    ∃ w, chrWriteValue registered chr (.bytes value :: rest) = some w ∧
      w.reply.isError = false ∧ w.chr = { chr with value := value } ∧ w.mtuCallbacks = [] := by
  cases value with
  | nil => exact ⟨_, rfl, rfl, rfl, rfl⟩
  | cons b bs =>
    refine ⟨_, if_neg (Nat.not_lt.mpr hlen), rfl, rfl, ?_⟩
    cases registered <;> rfl

/-- A longer value does not fit into the buffer. -/
theorem chrWriteValue_long (registered : Bool) (chr : GattChr) {value : List UInt8}
    (hlen : 512 < value.length) (rest : Iter) :
    chrWriteValue registered chr (.bytes value :: rest) = none := by
  cases value with
  | nil => exact absurd hlen (by decide)
  | cons b bs => exact if_pos hlen

/-- **The options of `WriteValue` are ignored.** The two methods treat options alike exactly if
these are accepted and their MTUs, if any, repeat the one of the characteristic; and if the value
and the answer fit into the buffers of the methods, where without an application the answer depends
on a variable that is not set. -/
theorem write_honours_iff (registered : Bool) (answer : List UInt8) (stack : ReadLocals)
    (chr : GattChr) (value : List UInt8) (options : List (List UInt8 × Variant)) :
    HonoursOptions registered answer stack chr value options ↔
      accepted options = true ∧ (mtus (goodSettings options)).getLastD chr.mtu = chr.mtu ∧
        (registered = true → ∀ n ∈ mtus (goodSettings options), n = chr.mtu) ∧
        value.length ≤ 512 ∧
        if registered then answer.length ≤ 512 else 0 ≤ stack.len ∧ stack.len ≤ 512 := by
  have hfits : (readAnswer registered answer stack.len).isSome = true ↔
      if registered then answer.length ≤ 512 else 0 ≤ stack.len ∧ stack.len ≤ 512 := by
    cases registered with
    | false => simp [readAnswer]
    | true => simp [readAnswer]
  have hquiet : (if registered then changes chr.mtu (mtus (goodSettings options)) else []) = [] ↔
      (registered = true → ∀ n ∈ mtus (goodSettings options), n = chr.mtu) := by
    cases registered with
    | false => simp
    | true => simpa using changes_eq_nil_iff
  rw [← hfits, ← hquiet]
  constructor
  · rintro ⟨hsame, hrejected⟩
    have haccepted : accepted options = true := by
      by_contra hnot
      -- `ReadValue` reports an error, and `WriteValue` never does
      obtain ⟨r, hread, herror⟩ := chrReadValue_rejected (Bool.eq_false_iff.mpr hnot) answer stack chr
      obtain ⟨w, hwrite, hwerror, -⟩ := hrejected r hread herror
      have hlen : value.length ≤ 512 := by
        by_contra hlong
        rw [chrWriteValue_long registered chr (Nat.not_le.mp hlong)] at hwrite
        cases hwrite
      obtain ⟨w', hw', hdone, -⟩ := chrWriteValue_bytes registered chr hlen [.dict options]
      obtain rfl := Option.some.inj (hwrite.symm.trans hw')
      exact Bool.false_ne_true (hdone.symm.trans hwerror)
    obtain ⟨r, w, hread, hwrite, hsameMtu, hsameReports⟩ := hsame haccepted
    have hlen : value.length ≤ 512 := by
      by_contra hlong
      rw [chrWriteValue_long registered chr (Nat.not_le.mp hlong)] at hwrite
      cases hwrite
    obtain ⟨w', hw', -, hchr, hsilent⟩ := chrWriteValue_bytes registered chr hlen [.dict options]
    obtain rfl := Option.some.inj (hwrite.symm.trans hw')
    obtain ⟨-, hmtu, hreports⟩ := chrReadValue_accepted haccepted answer stack chr hread
    refine ⟨haccepted, ?_, ?_, hlen, ?_⟩
    · rw [← hmtu, ← hsameMtu, hchr]
    · rw [← hreports, ← hsameReports, hsilent]
    · rw [← isSome_chrReadValue haccepted answer stack chr, hread]
      rfl
  · rintro ⟨haccepted, hkeep, hnone, hlen, hsome⟩
    rw [← isSome_chrReadValue haccepted answer stack chr, Option.isSome_iff_exists] at hsome
    obtain ⟨r, hread⟩ := hsome
    obtain ⟨w, hwrite, -, hchr, hsilent⟩ := chrWriteValue_bytes registered chr hlen [.dict options]
    obtain ⟨hnoError, hmtu, hreports⟩ := chrReadValue_accepted haccepted answer stack chr hread
    refine ⟨fun _ => ⟨r, w, hread, hwrite, ?_, ?_⟩, fun r' hr' herror => ?_⟩
    · rw [hmtu, hkeep, hchr]
    · rw [hsilent, hreports, hnone]
    · obtain rfl := Option.some.inj (hread.symm.trans hr')
      exact absurd (hnoError.symm.trans herror) Bool.false_ne_true

/-- With the option of a new MTU, `ReadValue` takes and reports it and `WriteValue` does not;
options that `ReadValue` rejects do not keep `WriteValue` from writing; and without any option a
value of 513 bytes overruns the buffer of `WriteValue`. -/
theorem write_ignores_options :
    (∃ r w,
        chrReadValue true [] ⟨none, none, 0⟩ ⟨[1], 23⟩ [.dict [(chars "mtu", .uint16 517)]] =
          some r ∧
        chrWriteValue true ⟨[1], 23⟩ [.bytes [2], .dict [(chars "mtu", .uint16 517)]] = some w ∧
        r.chr.mtu = 512 ∧ r.mtuCallbacks = [512] ∧ w.chr.mtu = 23 ∧ w.mtuCallbacks = []) ∧
      (∃ r w,
        chrReadValue true [] ⟨none, none, 0⟩ ⟨[1], 23⟩ [.dict [(chars "mtu", .other)]] = some r ∧
        chrWriteValue true ⟨[1], 23⟩ [.bytes [2], .dict [(chars "mtu", .other)]] = some w ∧
        r.reply = invalidArgs ∧ w.reply = .done ∧ w.chr.value = [2]) ∧
      chrWriteValue true ⟨[1], 23⟩ [.bytes (List.replicate 513 2), .dict []] = none :=
  ⟨⟨_, _, rfl, rfl, by decide, by decide, by decide, by decide⟩,
    ⟨_, _, rfl, rfl, by decide, by decide, by decide⟩,
    chrWriteValue_long true _ (by rw [List.length_replicate]; decide) _⟩

/-! ## `Set("Value")` -/

/-- The attribute whose property is set. -/
inductive Target
  | characteristic
  | descriptor
  deriving DecidableEq

/-- What a set leaves: what `g_dbus_pending_property_success` or `_error` was called with, the
stored value, and whether the variables `value` and `len` were used without having been set. -/
structure SetResult where
  reply : Reply
  stored : List UInt8
  uninitialised : Bool
  deriving DecidableEq

/-- The error of both handlers. -/
def invalidSet : Reply :=
  .error (chars "org.bluez.Error.InvalidArguments")
    (some (chars "Invalid arguments in method call"))

/-- `desc_set_value` with `desc_write` (gatt_config.c:192-236). -/
def descSetValue (stored : List UInt8) (iter : Iter) : SetResult :=
  match parseValue iter with
  | none => ⟨invalidSet, stored, false⟩
  | some value => ⟨.done, value, false⟩

/-- `chr_set_value` with `chr_write` (gatt_config.c:335-368), which goes on when `parse_value` has
failed; `stack` are the bytes that `value` and `len` then stand for. -/
def chrSetValue (stack stored : List UInt8) (iter : Iter) : SetResult :=
  match parseValue iter with
  | some _ => ⟨invalidSet, stored, false⟩
  | none => ⟨.done, stack, true⟩

/-- The handler of the attribute. -/
def Target.set (stack stored : List UInt8) (iter : Iter) : Target → SetResult
  | .characteristic => chrSetValue stack stored iter
  | .descriptor => descSetValue stored iter

/-- The set as it should be: an array of bytes is stored with success, anything that is no array
is refused with an error and without a change, and no variable is used that was not set. -/
def SetRight (stored : List UInt8) (r : SetResult) : Arg → Prop
  | .bytes value => r.reply = .done ∧ r.stored = value ∧ r.uninitialised = false
  | _ => r.reply.isError = true ∧ r.stored = stored ∧ r.uninitialised = false

/-- **Setting the value.** With an array of bytes or no array at all, descriptors do it right and
characteristics do not. -/
theorem set_value_right_iff (target : Target) (stack stored : List UInt8) {arg : Arg}
    (harg : ∀ entries, arg ≠ .dict entries) :
    SetRight stored (target.set stack stored [arg]) arg ↔ target = .descriptor := by
  cases arg with
  | dict entries => exact absurd rfl (harg entries)
  | bytes value =>
    cases target with
    | characteristic => exact iff_of_false (fun h => nomatch h.1) nofun
    | descriptor => exact iff_of_true ⟨rfl, rfl, rfl⟩ rfl
  | basic =>
    cases target with
    | characteristic => exact iff_of_false (fun h => nomatch h.1) nofun
    | descriptor => exact iff_of_true ⟨rfl, rfl, rfl⟩ rfl

/-- A descriptor takes three bytes. -/
theorem set_value_right_iff_bytes :
    SetRight [] (Target.descriptor.set [] [] [.bytes [1, 2, 3]]) (.bytes [1, 2, 3]) :=
  (@set_value_right_iff .descriptor [] [] (.bytes [1, 2, 3]) fun _ h => nomatch h).mpr rfl

/-- A characteristic refuses an array of bytes, and stores what is on the stack for a number. -/
theorem chr_set_value_inverted :
    chrSetValue [0xAA] [7] [.bytes [1]] = ⟨invalidSet, [7], false⟩ ∧
      chrSetValue [0xAA] [7] [.basic] = ⟨.done, [0xAA], true⟩ := by
  decide

end ConnectApp.Bluez
