import ConnectApp.Lib.Buffer

/-!
# Track metadata of a player (avrcpctrl.c:292-381, a2dp_masterctrl.c:548-556)

`avrcp_track_info_get` walks through the value of the property `Track`, a dictionary, and copies
seven of its entries into the fields of a `BtTrackInfo`. The key of an entry is kept in the static
`track_key` until its value comes. Keys and texts are copied without their NULs and without a look
at their lengths.

Here a write over the end of a buffer, or a read of a text that does not end in its buffer, ends
the model's run (`none`). The walk is a loop over the strings and numbers it comes to (`Leaf`), and
`stores` is what it stores where.

- `avrcpGetTrackInfo_eq`: the walk is this loop
- `Shows.run`: what the fields show after the stores, and when the loop stays inside
- `track_info_in_bounds_iff`: when `player_property_changed` does
- `long_title_unterminated`: a title of 256 bytes
-/

namespace ConnectApp.Bluez

open CString

/-! ## Values -/

/-- The basic types of D-Bus that `avrcp_get_track_info` has no case for. -/
inductive BasicType
  | byte | boolean | int16 | uint16 | int32 | int64 | uint64 | double | objectPath | signature
  | unixFd
  deriving DecidableEq

/-- A value as an iterator shows it. -/
inductive DValue
  | string (valstr : Text)
  | uint32 (valu32 : UInt32)
  | variant (value : DValue)
  | array (elements : List DValue)
  | dictEntry (key value : DValue)
  | basic (type : BasicType)
  | struct

/-! ## Fields -/

/-- The members of `BtTrackInfo` (RkBtSink.h:10-18). -/
inductive TrackField
  | title | artist | album | trackNum | numTracks | genre | playingTime
  deriving DecidableEq

namespace TrackField

/-- The size of its buffer. -/
def size : TrackField → Nat
  | trackNum | numTracks => 64
  | title | artist | album | genre | playingTime => 256

end TrackField

/-- `BtTrackInfo`: a buffer for each member. -/
abbrev TrackInfo := (f : TrackField) → Buffer f.size

/-- The static variables of avrcpctrl.c, and the structure that is filled. -/
structure TrackState where
  trackKey : Buffer 256
  currentSongLen : UInt32
  track : TrackInfo

namespace TrackState

/-- Bytes that are written from the start of a field on. -/
def write (s : TrackState) (f : TrackField) (bytes : List UInt8) : Option TrackState :=
  (Buffer.write bytes (s.track f)).map fun b => { s with track := Function.update s.track f b }

/-- `sprintf` of an `unsigned int` with `%d`. -/
def print (s : TrackState) (f : TrackField) (valu32 : UInt32) : Option TrackState :=
  s.write f ((Text.ofInt valu32.toBitVec.toInt).1 ++ [0])

/-- `save_track_info` (avrcpctrl.c:292-312). -/
def saveTrackInfo (s : TrackState) (valstr : Option Text) (valu32 : UInt32) :
    Option TrackState :=
  let key := cstr s.trackKey.1
  -- `valstr` is only read where it is not `NULL`
  let str := (valstr.getD .empty).1
  let stored :=
    if key = chars "Title" ∧ valstr.isSome then s.write .title str
    else if key = chars "Album" ∧ valstr.isSome then s.write .album str
    else if key = chars "Artist" ∧ valstr.isSome then s.write .artist str
    else if key = chars "Genre" ∧ valstr.isSome then s.write .genre str
    else if key = chars "TrackNumber" then s.print .trackNum valu32
    else if key = chars "NumberOfTracks" then s.print .numTracks valu32
    else if key = chars "Duration" then
      (s.print .playingTime valu32).map fun s => { s with currentSongLen := valu32 }
    else some s
  stored.map fun s => { s with trackKey := .zero 256 }

mutual

/-- `avrcp_get_track_info` (avrcpctrl.c:314-362). -/
def avrcpGetTrackInfo (name : List UInt8) : DValue → TrackState → Option TrackState
  | .string valstr, s =>
    if eqFirst 9 name (chars "Track Key") then
      (Buffer.write valstr.1 s.trackKey).map ({ s with trackKey := · })
    else if eqFirst 11 name (chars "Track Value") then s.saveTrackInfo (some valstr) 0
    else some s
  | .uint32 valu32, s =>
    if eqFirst 11 name (chars "Track Value") then s.saveTrackInfo none valu32 else some s
  | .variant value, s => avrcpGetTrackInfo name value s
  | .array elements, s => avrcpGetTrackInfos name elements s
  | .dictEntry key value, s =>
    (avrcpGetTrackInfo (name ++ chars " Key") key s).bind
      (avrcpGetTrackInfo (name ++ chars " Value") value)
  | .basic _, s => some s
  | .struct, s => some s

/-- The loop over the elements of an array. -/
def avrcpGetTrackInfos (name : List UInt8) : List DValue → TrackState → Option TrackState
  | [], s => some s
  | value :: rest, s => (avrcpGetTrackInfo name value s).bind (avrcpGetTrackInfos name rest)

end

/-- `avrcp_track_info_get` (avrcpctrl.c:364-381). `given` says that `track` is not `NULL`. -/
def avrcpTrackInfoGet (name : List UInt8) (iter : DValue) (given : Bool) (s : TrackState) :
    Option (Bool × TrackState) :=
  if !given then some (false, s)
  else if !eqFirst 5 name (chars "Track") then some (false, s)
  else
    (avrcpGetTrackInfo name iter
      { s with trackKey := .zero 256, track := fun f => .zero f.size }).map fun s =>
        ((s.track .title).1.headD 0 != 0 || (s.track .artist).1.headD 0 != 0, s)

end TrackState

/-! ## The record -/

/-- `MAX_NAME_LENGTH` (RkBtBase.h:22). -/
def maxNameLength : Nat := 247

/-- The texts about the track in the record of a device (RkBtBase.h:503-504). -/
structure TrackNames where
  title : Buffer (maxNameLength + 1)
  artist : Buffer (maxNameLength + 1)

/-- `strncpy(dst, field, MIN(strlen(field), MAX_NAME_LENGTH))` into a buffer that is zero. -/
def copyName {n : Nat} (field : Buffer n) : Option (Buffer (maxNameLength + 1)) :=
  (text? field.1).bind fun text =>
    Buffer.write (strncpy (min text.length maxNameLength) text) (.zero (maxNameLength + 1))

/-- `bt_media_state_change` for the change "track" (a2dp_masterctrl.c:548-556). -/
def TrackInfo.copyNames (track : TrackInfo) : Option TrackNames := do
  let title ← copyName (track .title)
  let artist ← copyName (track .artist)
  some ⟨title, artist⟩

/-- The part of `player_property_changed` for the track (avrcpctrl.c:419-421). `rdev` is the record
that `bt_media_state_change` finds for the path of the device. -/
def playerTrackChanged (name : List UInt8) (iter : DValue) (s : TrackState)
    (rdev : Option TrackNames) : Option (TrackState × Option TrackNames) := do
  let (found, s) ← s.avrcpTrackInfoGet name iter true
  if found && rdev.isSome then (s.track.copyNames).map (s, some ·) else some (s, rdev)

/-! ## What the walk comes to -/

/-- A value of a type that `avrcp_get_track_info` has a case for. -/
inductive TagValue
  | string (valstr : Text)
  | uint32 (valu32 : UInt32)
  deriving DecidableEq

namespace TagValue

/-- The arguments of `save_track_info`. -/
def valstr : TagValue → Option Text
  | string valstr => some valstr
  | uint32 _ => none

/-- The number in it, 0 for a text. -/
def valu32 : TagValue → UInt32
  | string _ => 0
  | uint32 valu32 => valu32

end TagValue

/-- A string or a number in the place of a key or of a value. -/
inductive Leaf
  | key (valstr : Text)
  | value (v : TagValue)
  deriving DecidableEq

/-- What the parser does at a leaf. -/
def Leaf.act (s : TrackState) : Leaf → Option TrackState
  | .key valstr => (Buffer.write valstr.1 s.trackKey).map ({ s with trackKey := · })
  | .value v => s.saveTrackInfo v.valstr v.valu32

mutual

/-- The leaves of a value in the order of the walk. -/
def leaves (name : List UInt8) : DValue → List Leaf
  | .string valstr =>
    if eqFirst 9 name (chars "Track Key") then [.key valstr]
    else if eqFirst 11 name (chars "Track Value") then [.value (.string valstr)]
    else []
  | .uint32 valu32 =>
    if eqFirst 11 name (chars "Track Value") then [.value (.uint32 valu32)] else []
  | .variant value => leaves name value
  | .array elements => leavesOfAll name elements
  | .dictEntry key value =>
    leaves (name ++ chars " Key") key ++ leaves (name ++ chars " Value") value
  | .basic _ => []
  | .struct => []

/-- The leaves of a list of values. -/
def leavesOfAll (name : List UInt8) : List DValue → List Leaf
  | [] => []
  | value :: rest => leaves name value ++ leavesOfAll name rest

end

mutual

/-- **The walk is a loop over the leaves.** -/
theorem avrcpGetTrackInfo_eq (name : List UInt8) (value : DValue) (s : TrackState) :
    s.avrcpGetTrackInfo name value = (leaves name value).foldlM Leaf.act s := by
  cases value with
  | string valstr =>
    rw [TrackState.avrcpGetTrackInfo, leaves]
    split_ifs
    · rw [List.foldlM_cons]
      exact (Option.bind_fun_some _).symm
    · rw [List.foldlM_cons]
      exact (Option.bind_fun_some _).symm
    · rfl
  | uint32 valu32 =>
    rw [TrackState.avrcpGetTrackInfo, leaves]
    split_ifs
    · rw [List.foldlM_cons]
      exact (Option.bind_fun_some _).symm
    · rfl
  | variant value =>
    rw [TrackState.avrcpGetTrackInfo, leaves]
    exact avrcpGetTrackInfo_eq name value s
  | array elements =>
    rw [TrackState.avrcpGetTrackInfo, leaves]
    exact avrcpGetTrackInfos_eq name elements s
  | dictEntry key value =>
    -- the names of the two sides tell them apart further down
    rw [TrackState.avrcpGetTrackInfo, leaves, List.foldlM_append,
      avrcpGetTrackInfo_eq (name ++ chars " Key") key s]
    exact congrArg (Option.bind _) (funext (avrcpGetTrackInfo_eq _ value))
  | basic type => rfl
  | struct => rfl

theorem avrcpGetTrackInfos_eq (name : List UInt8) (elements : List DValue) (s : TrackState) :
    s.avrcpGetTrackInfos name elements = (leavesOfAll name elements).foldlM Leaf.act s := by
  cases elements with
  | nil => rfl
  | cons value rest =>
    rw [TrackState.avrcpGetTrackInfos, leavesOfAll, List.foldlM_append,
      avrcpGetTrackInfo_eq name value s]
    exact congrArg (Option.bind _) (funext (avrcpGetTrackInfos_eq name rest))

end

/-! ## What is stored where -/

namespace TrackField

/-- The fields in the order in which `save_track_info` asks for them. -/
def all : List TrackField := [title, album, artist, genre, trackNum, numTracks, playingTime]

/-- The key of the dictionary that belongs to the field. -/
def key : TrackField → List UInt8
  | title => chars "Title"
  | album => chars "Album"
  | artist => chars "Artist"
  | genre => chars "Genre"
  | trackNum => chars "TrackNumber"
  | numTracks => chars "NumberOfTracks"
  | playingTime => chars "Duration"

/-- The field is filled with `memcpy` from a string, not with `sprintf` from a number. -/
def isText : TrackField → Bool
  | title | album | artist | genre => true
  | trackNum | numTracks | playingTime => false

/-- The field takes the value under its key. -/
def Takes (f : TrackField) (v : TagValue) : Prop := f.isText = true → v.valstr.isSome = true

instance (f : TrackField) (v : TagValue) : Decidable (f.Takes v) :=
  inferInstanceAs (Decidable (_ → _))

/-- What is written into the field. -/
def bytes (f : TrackField) (v : TagValue) : List UInt8 :=
  if f.isText then (v.valstr.getD .empty).1
  else (Text.ofInt v.valu32.toBitVec.toInt).1 ++ [0]

/-- The field into which a value goes under a key. -/
def target (key : List UInt8) (v : TagValue) : Option TrackField :=
  all.find? fun f => f.key = key ∧ f.Takes v

theorem key_injective : ∀ f g : TrackField, f.key = g.key → f = g := by
  intro f g
  cases f <;> cases g <;> decide

theorem mem_all (f : TrackField) : f ∈ all := by cases f <;> decide

theorem target_eq_none_iff {key : List UInt8} {v : TagValue} :
    target key v = none ↔ ∀ f : TrackField, f.key = key → ¬ f.Takes v := by
  rw [target, List.find?_eq_none]
  constructor
  · intro h f hkey htakes
    exact h f (mem_all f) (decide_eq_true ⟨hkey, htakes⟩)
  · intro h f _ hf
    exact h f (of_decide_eq_true hf).1 (of_decide_eq_true hf).2

theorem target_eq_some_iff {key : List UInt8} {v : TagValue} {f : TrackField} :
    target key v = some f ↔ f.key = key ∧ f.Takes v := by
  have hfound : ∀ g, target key v = some g → g.key = key ∧ g.Takes v := fun g hg =>
    of_decide_eq_true (List.find?_some (p := fun f : TrackField => f.key = key ∧ f.Takes v) hg)
  refine ⟨hfound f, fun h => ?_⟩
  cases hg : target key v with
  | none => exact absurd h.2 (target_eq_none_iff.mp hg f h.1)
  | some g => rw [key_injective g f ((hfound g hg).1.trans h.1.symm)]

end TrackField

/-- A value goes into a field. -/
def TrackState.store (s : TrackState) (f : TrackField) (v : TagValue) : Option TrackState :=
  (s.write f (f.bytes v)).map fun s =>
    if f = .playingTime then { s with currentSongLen := v.valu32 } else s

namespace TrackState

variable {s : TrackState} {v : TagValue}

/-- The field is the only one that changes. -/
theorem store_of_write {f : TrackField} {b : Buffer f.size}
    (h : Buffer.write (f.bytes v) (s.track f) = some b) :
    ∃ s', s.store f v = some s' ∧ s'.track = Function.update s.track f b := by
  rw [store, write, h]
  refine ⟨_, rfl, ?_⟩
  dsimp only
  split_ifs
  · rfl
  · rfl

theorem saveTrackInfo_of_target {f : TrackField}
    (h : TrackField.target (cstr s.trackKey.1) v = some f) :
    s.saveTrackInfo v.valstr v.valu32 =
      (s.store f v).map fun s => { s with trackKey := .zero 256 } := by
  obtain ⟨hkey, htakes⟩ := TrackField.target_eq_some_iff.mp h
  rw [saveTrackInfo, ← hkey, store, Option.map_map]
  -- no two keys are equal, so the chain of comparisons ends in the branch of `f`
  cases f with
  | title =>
    simp +decide only [htakes rfl, if_true]
    rfl
  | album =>
    simp +decide only [htakes rfl, false_and, if_false, if_true]
    rfl
  | artist =>
    simp +decide only [htakes rfl, false_and, if_false, if_true]
    rfl
  | genre =>
    simp +decide only [htakes rfl, false_and, if_false, if_true]
    rfl
  | trackNum =>
    simp +decide only [false_and, if_false, if_true]
    rfl
  | numTracks =>
    simp +decide only [false_and, if_false, if_true]
    rfl
  | playingTime =>
    simp +decide only [false_and, if_false, if_true]
    rw [Option.map_map]
    rfl

theorem saveTrackInfo_of_none (h : TrackField.target (cstr s.trackKey.1) v = none) :
    s.saveTrackInfo v.valstr v.valu32 = some { s with trackKey := .zero 256 } := by
  have hno := TrackField.target_eq_none_iff.mp h
  have htext : ∀ f : TrackField, ¬ (cstr s.trackKey.1 = f.key ∧ v.valstr.isSome = true) :=
    fun f hf => hno f hf.1.symm fun _ => hf.2
  have hnumber : ∀ f : TrackField, f.isText = false → cstr s.trackKey.1 ≠ f.key :=
    fun f hf hkey => hno f hkey.symm fun ht => absurd (hf.symm.trans ht) nofun
  rw [saveTrackInfo]
  refine Option.map_eq_some_iff.mpr ⟨s, ?_, rfl⟩
  exact (if_neg (htext .title)).trans <| (if_neg (htext .album)).trans <|
    (if_neg (htext .artist)).trans <| (if_neg (htext .genre)).trans <|
    (if_neg (hnumber .trackNum rfl)).trans <| (if_neg (hnumber .numTracks rfl)).trans <|
    if_neg (hnumber .playingTime rfl)

end TrackState

/-- The values that the leaves store, and where, if `track_key` holds the text `seen`. -/
def stores : Text → List Leaf → List (TrackField × TagValue)
  | _, [] => []
  | seen, .key k :: rest => stores (k.onto seen) rest
  | seen, .value v :: rest => ((TrackField.target seen.1 v).map (·, v)).toList ++ stores .empty rest

theorem mem_stores_value {seen : Text} {v w : TagValue} {rest : List Leaf} {f : TrackField} :
    (f, w) ∈ stores seen (.value v :: rest) ↔
      (TrackField.target seen.1 v = some f ∧ v = w) ∨ (f, w) ∈ stores .empty rest := by
  rw [stores, List.mem_append, Option.mem_toList, Option.map_eq_some_iff]
  simp only [Prod.mk.injEq]
  exact or_congr_left ⟨fun ⟨g, hg, hgf, hvw⟩ => ⟨hgf ▸ hg, hvw⟩,
    fun ⟨hf, hvw⟩ => ⟨f, hf, rfl, hvw⟩⟩

/-! ## What the fields show -/

namespace TrackField

variable {f : TrackField} {v : TagValue}

/-- The text of the field after one value has been stored in it. -/
def put (f : TrackField) (t : Text) (v : TagValue) : Text :=
  if f.isText then (v.valstr.getD .empty).onto t else .ofInt v.valu32.toBitVec.toInt

/-- The text of the field after all. -/
def text (f : TrackField) (sts : List (TrackField × TagValue)) : Text :=
  ((sts.filter (·.1 = f)).map (·.2)).foldl f.put .empty

/-- A text that was copied stands in front of NULs, a number in front of one. -/
def Shows (f : TrackField) (b : Buffer f.size) (t : Text) : Prop :=
  if f.isText then b.Holds t else text? b.1 = some t.1

theorem shows_zero (f : TrackField) : f.Shows (.zero f.size) .empty := by
  rw [Shows]
  split_ifs
  · exact Buffer.holds_zero
  · cases f <;> rfl

theorem size_of_isText (h : f.isText = true) : f.size = 256 := by
  cases f <;> first | rfl | cases h

/-- Numbers always fit. -/
theorem bytes_fit (h : f.isText = false) (v : TagValue) : (f.bytes v).length ≤ f.size := by
  have hlen : (decimal v.valu32.toBitVec.toInt).length ≤ 11 :=
    decimal_length_le ⟨BitVec.le_toInt _, BitVec.toInt_lt⟩
  have hsize : 64 ≤ f.size := by cases f <;> decide
  rw [bytes, h, if_neg Bool.false_ne_true, List.length_append, List.length_singleton]
  show (decimal _).length + 1 ≤ _
  omega

/-- One value. -/
theorem Shows.write {b : Buffer f.size} {t : Text} (h : f.Shows b t)
    (hfit : (f.bytes v).length ≤ f.size) :
    ∃ b', Buffer.write (f.bytes v) b = some b' ∧ f.Shows b' (f.put t v) := by
  rw [Shows] at h
  split_ifs at h with htext
  · rw [bytes, if_pos htext] at hfit ⊢
    obtain ⟨b', hb', hholds⟩ := h.write hfit
    refine ⟨b', hb', ?_⟩
    rw [Shows, if_pos htext, put, if_pos htext]
    exact hholds
  · rw [bytes, if_neg htext] at hfit ⊢
    rw [List.length_append, List.length_singleton] at hfit
    obtain ⟨b', hb', hread⟩ := Buffer.write_text hfit b
    refine ⟨b', hb', ?_⟩
    rw [Shows, if_neg htext, put, if_neg htext]
    exact hread

theorem text_append_self (sts : List (TrackField × TagValue)) (v : TagValue) :
    f.text (sts ++ [(f, v)]) = f.put (f.text sts) v := by
  rw [text, List.filter_append, List.map_append, List.foldl_append]
  simp [text]

theorem text_append_of_ne {g : TrackField} (h : g ≠ f) (sts : List (TrackField × TagValue))
    (v : TagValue) : f.text (sts ++ [(g, v)]) = f.text sts := by
  rw [text, List.filter_append]
  simp [text, h]

/-- A text field shows a text that fills it only if such a text was stored. -/
theorem length_text_lt_iff (htext : f.isText = true) {n : Nat} (hn : 0 < n)
    (sts : List (TrackField × TagValue)) :
    (f.text sts).1.length < n ↔ ∀ v, (f, v) ∈ sts → (f.bytes v).length < n := by
  induction sts using List.reverseRecOn with
  | nil => exact ⟨fun _ _ hv => absurd hv List.not_mem_nil, fun _ => hn⟩
  | append_singleton sts st ih =>
    obtain ⟨g, w⟩ := st
    by_cases hg : g = f
    · -- a text that is written over another is as long as the longer one
      subst hg
      have hbytes : g.bytes w = (w.valstr.getD .empty).1 := if_pos htext
      rw [text_append_self, put, if_pos htext, Text.length_onto, max_lt_iff, ih, ← hbytes]
      constructor
      · rintro ⟨hw, hall⟩ v hv
        rcases List.mem_append.mp hv with hv | hv
        · exact hall v hv
        · obtain rfl : v = w := (Prod.mk.inj (List.mem_singleton.mp hv)).2
          exact hw
      · intro hall
        exact ⟨hall w (List.mem_append_right _ List.mem_cons_self),
          fun v hv => hall v (List.mem_append_left _ hv)⟩
    · rw [text_append_of_ne hg, ih]
      refine forall_congr' fun v => imp_congr_left ?_
      rw [List.mem_append, List.mem_singleton, Prod.mk.injEq, or_iff_left fun h => hg h.1.symm]

end TrackField

/-- Every key and every stored value ends in its buffer. -/
structure InBounds (seen : Text) (ls : List Leaf) : Prop where
  key : ∀ k, .key k ∈ ls → k.1.length ≤ 256
  value : ∀ f v, (f, v) ∈ stores seen ls → (f.bytes v).length ≤ f.size

theorem inBounds_nil (seen : Text) : InBounds seen [] :=
  ⟨fun _ h => absurd h List.not_mem_nil, fun _ _ h => absurd h List.not_mem_nil⟩

theorem inBounds_key_iff {seen k : Text} {rest : List Leaf} :
    InBounds seen (.key k :: rest) ↔ k.1.length ≤ 256 ∧ InBounds (k.onto seen) rest := by
  constructor
  · intro h
    exact ⟨h.key k List.mem_cons_self, fun k' hk' => h.key k' (List.mem_cons_of_mem _ hk'),
      h.value⟩
  · rintro ⟨hk, hrest⟩
    refine ⟨fun k' hk' => ?_, hrest.value⟩
    rcases List.mem_cons.mp hk' with heq | hk'
    · rwa [Leaf.key.inj heq]
    · exact hrest.key k' hk'

theorem inBounds_value_iff {seen : Text} {v : TagValue} {rest : List Leaf} :
    InBounds seen (.value v :: rest) ↔
      (∀ f ∈ TrackField.target seen.1 v, (f.bytes v).length ≤ f.size) ∧
        InBounds .empty rest := by
  constructor
  · intro h
    exact ⟨fun f hf => h.value f v (mem_stores_value.mpr (.inl ⟨hf, rfl⟩)),
      fun k hk => h.key k (List.mem_cons_of_mem _ hk),
      fun f w hw => h.value f w (mem_stores_value.mpr (.inr hw))⟩
  · rintro ⟨hv, hrest⟩
    refine ⟨fun k hk => ?_, fun f w hw => ?_⟩
    · rcases List.mem_cons.mp hk with heq | hk
      · cases heq
      · exact hrest.key k hk
    · rcases mem_stores_value.mp hw with ⟨hf, rfl⟩ | hw
      · exact hv f hf
      · exact hrest.value f w hw

/-- `track_key` holds the text `seen`, and the fields show what has been stored. -/
structure Shows (s : TrackState) (seen : Text) (done : List (TrackField × TagValue)) : Prop where
  key : s.trackKey.Holds seen
  field : ∀ f : TrackField, f.Shows (s.track f) (f.text done)

namespace Shows

variable {s : TrackState} {seen : Text} {done : List (TrackField × TagValue)}

/-- A key is copied over what is left in `track_key`. -/
theorem act_key (h : Shows s seen done) {k : Text} (hk : k.1.length ≤ 256) :
    ∃ s', (Leaf.key k).act s = some s' ∧ Shows s' (k.onto seen) done := by
  obtain ⟨b, hb, hholds⟩ := h.key.write hk
  rw [Leaf.act, hb]
  exact ⟨_, rfl, hholds, h.field⟩

/-- A value is stored, and `track_key` is cleared. -/
theorem act_value (h : Shows s seen done) {v : TagValue}
    (hv : ∀ f ∈ TrackField.target seen.1 v, (f.bytes v).length ≤ f.size) :
    ∃ s', (Leaf.value v).act s = some s' ∧
      Shows s' .empty (done ++ ((TrackField.target seen.1 v).map (·, v)).toList) := by
  have hkey : cstr s.trackKey.1 = seen.1 := h.key.cstr_eq
  rw [Leaf.act]
  cases htarget : TrackField.target seen.1 v with
  | none =>
    rw [TrackState.saveTrackInfo_of_none (hkey ▸ htarget)]
    refine ⟨_, rfl, Buffer.holds_zero, ?_⟩
    rw [Option.map_none, Option.toList_none, List.append_nil]
    exact h.field
  | some f =>
    obtain ⟨b, hb, hshows⟩ := (h.field f).write (hv f htarget)
    obtain ⟨s', hs', htrack⟩ := TrackState.store_of_write hb
    rw [TrackState.saveTrackInfo_of_target (hkey ▸ htarget), hs']
    refine ⟨_, rfl, Buffer.holds_zero, fun g => ?_⟩
    show g.Shows (s'.track g) (g.text (done ++ [(f, v)]))
    rw [htrack]
    by_cases hg : g = f
    · subst hg
      rwa [Function.update_self, TrackField.text_append_self]
    · rw [Function.update_of_ne hg, TrackField.text_append_of_ne (Ne.symm hg)]
      exact h.field g

/-- **The loop.** It stays inside exactly if the keys and the stored values do. -/
theorem run (h : Shows s seen done) (ls : List Leaf) :
    (InBounds seen ls ∧ ∃ s' seen', ls.foldlM Leaf.act s = some s' ∧
      Shows s' seen' (done ++ stores seen ls)) ∨
    (¬ InBounds seen ls ∧ ls.foldlM Leaf.act s = none) := by
  -- on the leaves that are left; `seen` is what `track_key` holds by then
  induction ls generalizing s seen done with
  | nil => exact .inl ⟨inBounds_nil seen, s, seen, rfl, (List.append_nil done).symm ▸ h⟩
  | cons l rest ih =>
    rw [List.foldlM_cons]
    cases l with
    | key k =>
      rw [inBounds_key_iff]
      by_cases hk : k.1.length ≤ 256
      · obtain ⟨s', hs', h'⟩ := h.act_key hk
        rw [hs', and_iff_right hk]
        exact ih h'
      · refine .inr ⟨fun hin => hk hin.1, ?_⟩
        rw [Leaf.act, Buffer.write_of_lt (Nat.lt_of_not_le hk)]
        rfl
    | value v =>
      rw [inBounds_value_iff]
      by_cases hv : ∀ f ∈ TrackField.target seen.1 v, (f.bytes v).length ≤ f.size
      · obtain ⟨s', hs', h'⟩ := h.act_value hv
        rw [hs', and_iff_right hv, stores, ← List.append_assoc]
        exact ih h'
      · refine .inr ⟨fun hin => hv hin.1, ?_⟩
        push Not at hv
        obtain ⟨f, hf, hlt⟩ := hv
        rw [Leaf.act, TrackState.saveTrackInfo_of_target (h.key.cstr_eq ▸ hf), TrackState.store,
          TrackState.write, Buffer.write_of_lt hlt]
        rfl

/-- The fields end with NULs exactly if no text fills its field. -/
theorem terminated_iff (h : Shows s seen done) : (∀ f, 0 ∈ (s.track f).1) ↔
    ∀ f : TrackField, f.isText = true → (f.text done).1.length < 256 := by
  refine forall_congr' fun f => ?_
  have hf := h.field f
  rw [TrackField.Shows] at hf
  split_ifs at hf with htext
  · rw [hf.zero_mem_iff, TrackField.size_of_isText htext, imp_iff_right htext]
  · refine iff_of_true ?_ fun ht => absurd ht htext
    by_contra h0
    rw [text?, if_neg h0] at hf
    cases hf

end Shows

theorem takes_of_mem_stores {seen : Text} {ls : List Leaf} {f : TrackField} {v : TagValue}
    (h : (f, v) ∈ stores seen ls) : f.Takes v := by
  induction ls generalizing seen with
  | nil => exact absurd h List.not_mem_nil
  | cons l rest ih =>
    cases l with
    | key k => exact ih h
    | value w =>
      rcases mem_stores_value.mp h with ⟨hf, rfl⟩ | h
      · exact (TrackField.target_eq_some_iff.mp hf).2
      · exact ih h

/-- In bounds, and no text fills its field. -/
theorem inBounds_and_short_iff {seen : Text} {ls : List Leaf} :
    (InBounds seen ls ∧
        ∀ f : TrackField, f.isText = true → (f.text (stores seen ls)).1.length < 256) ↔
      (∀ k, .key k ∈ ls → k.1.length ≤ 256) ∧
        ∀ f text, (f, .string text) ∈ stores seen ls → f.isText = true → text.1.length ≤ 255 := by
  -- a text field takes only texts, and these are written as they are
  have hbytes : ∀ f : TrackField, f.isText = true → ∀ text : Text,
      f.bytes (.string text) = text.1 := fun f hf text => if_pos hf
  constructor
  · rintro ⟨hin, hshort⟩
    refine ⟨hin.key, fun f text hmem hf => ?_⟩
    have hlt := (TrackField.length_text_lt_iff hf (by decide) _).mp (hshort f hf) _ hmem
    rw [hbytes f hf] at hlt
    exact Nat.le_of_lt_succ hlt
  · rintro ⟨hkeys, hshort⟩
    have hlt : ∀ f v, (f, v) ∈ stores seen ls → f.isText = true → (f.bytes v).length < 256 := by
      intro f v hmem hf
      cases v with
      | string text =>
        rw [hbytes f hf]
        exact Nat.lt_succ_of_le (hshort f text hmem hf)
      | uint32 n => exact absurd (takes_of_mem_stores hmem hf) nofun
    refine ⟨⟨hkeys, fun f v hmem => ?_⟩, fun f hf =>
      (TrackField.length_text_lt_iff hf (by decide) _).mpr fun v hmem => hlt f v hmem hf⟩
    cases hf : f.isText with
    | true =>
      rw [TrackField.size_of_isText hf]
      exact (hlt f v hmem hf).le
    | false => exact TrackField.bytes_fit hf v

/-! ## The call -/

/-- The state with which the walk begins. -/
def TrackState.cleared (s : TrackState) : TrackState :=
  { s with trackKey := .zero 256, track := fun f => .zero f.size }

theorem shows_cleared (s : TrackState) : Shows s.cleared .empty [] :=
  ⟨Buffer.holds_zero, TrackField.shows_zero⟩

theorem avrcpTrackInfoGet_eq (iter : DValue) (s : TrackState) :
    s.avrcpTrackInfoGet (chars "Track") iter true =
      ((leaves (chars "Track") iter).foldlM Leaf.act s.cleared).map fun s =>
        ((s.track .title).1.headD 0 != 0 || (s.track .artist).1.headD 0 != 0, s) := by
  rw [← avrcpGetTrackInfo_eq]
  rfl

/-- What the fields show after the call. -/
theorem avrcpTrackInfoGet_shows (iter : DValue)
    (hkeys : ∀ k, .key k ∈ leaves (chars "Track") iter → k.1.length ≤ 256)
    (hshort : ∀ f text, (f, .string text) ∈ stores .empty (leaves (chars "Track") iter) →
      f.isText = true → text.1.length ≤ 255) (s : TrackState) :
    ∃ found s', s.avrcpTrackInfoGet (chars "Track") iter true = some (found, s') ∧
      ∀ f : TrackField, text? (s'.track f).1 =
        some (f.text (stores .empty (leaves (chars "Track") iter))).1 := by
  obtain ⟨hin, hlt⟩ := inBounds_and_short_iff.mpr ⟨hkeys, hshort⟩
  rcases (shows_cleared s).run (leaves (chars "Track") iter) with
    ⟨-, s', seen', hrun, hshows⟩ | ⟨hout, -⟩
  · rw [avrcpTrackInfoGet_eq, hrun]
    refine ⟨_, s', rfl, fun f => ?_⟩
    have hf := hshows.field f
    rw [TrackField.Shows, List.nil_append] at hf
    split_ifs at hf with htext
    · exact hf.text?_eq (TrackField.size_of_isText htext ▸ hlt f htext)
    · exact hf
  · exact absurd hin hout

/-- A name that ends in its field is copied into the record. -/
theorem copyName_of_mem {n : Nat} {field : Buffer n} (h : 0 ∈ field.1) :
    ∃ b, copyName field = some b := by
  have hlen : (strncpy (min (cstr field.1).length maxNameLength) (cstr field.1)).length ≤
      maxNameLength + 1 := by
    rw [strncpy, List.length_append, List.length_take, List.length_replicate]
    omega
  obtain ⟨b, hb, -⟩ := Buffer.write_of_le hlen (.zero (maxNameLength + 1))
  rw [copyName, text?, if_pos h, Option.bind_some]
  exact ⟨b, hb⟩

/-- After the walk it only depends on the NULs in the fields whether the rest stays inside. -/
theorem playerTrackChanged_iff {iter : DValue} {s s' : TrackState}
    (h : (leaves (chars "Track") iter).foldlM Leaf.act s.cleared = some s')
    (rdev : Option TrackNames) :
    (∃ s'' rdev', playerTrackChanged (chars "Track") iter s rdev = some (s'', rdev') ∧
      ∀ f, 0 ∈ (s''.track f).1) ↔ ∀ f, 0 ∈ (s'.track f).1 := by
  rw [playerTrackChanged, avrcpTrackInfoGet_eq, h, Option.map_some]
  simp only [Option.bind_eq_bind, Option.bind_some]
  split_ifs with hfound
  · -- the names are copied, which reads two of the fields up to their NULs
    constructor
    · rintro ⟨s'', rdev', heq, hterm⟩
      obtain ⟨names, -, hnames⟩ := Option.map_eq_some_iff.mp heq
      obtain rfl : s' = s'' := (Prod.mk.inj hnames).1
      exact hterm
    · intro hterm
      obtain ⟨title, htitle⟩ := copyName_of_mem (hterm .title)
      obtain ⟨artist, hartist⟩ := copyName_of_mem (hterm .artist)
      refine ⟨s', some ⟨title, artist⟩, ?_, hterm⟩
      rw [TrackInfo.copyNames, htitle, hartist]
      rfl
  · constructor
    · rintro ⟨s'', rdev', heq, hterm⟩
      obtain rfl : s' = s'' := (Prod.mk.inj (Option.some.inj heq)).1
      exact hterm
    · exact fun hterm => ⟨s', rdev, rfl, hterm⟩

/-- **When the metadata stay in bounds.** The call writes only inside the buffers, leaves a NUL in
every field, and what follows reads and writes inside, exactly if no key has more than 256 bytes and
no text that is stored in a field more than 255. -/
theorem track_info_in_bounds_iff (iter : DValue) (s : TrackState) (rdev : Option TrackNames) :
    (∃ s' rdev', playerTrackChanged (chars "Track") iter s rdev = some (s', rdev') ∧
        ∀ f, 0 ∈ (s'.track f).1) ↔
      (∀ k, .key k ∈ leaves (chars "Track") iter → k.1.length ≤ 256) ∧
        ∀ f text, (f, .string text) ∈ stores .empty (leaves (chars "Track") iter) →
          f.isText = true → text.1.length ≤ 255 := by
  rw [← inBounds_and_short_iff]
  rcases (shows_cleared s).run (leaves (chars "Track") iter) with
    ⟨hin, s', seen', hrun, hshows⟩ | ⟨hout, hrun⟩
  · rw [playerTrackChanged_iff hrun, hshows.terminated_iff, and_iff_right hin]
    rfl
  · refine iff_of_false ?_ fun h => hout h.1
    rintro ⟨s', rdev', heq, -⟩
    rw [playerTrackChanged, avrcpTrackInfoGet_eq, hrun] at heq
    cases heq

/-- The variables and the record before anything was played. -/
def TrackState.start : TrackState := ⟨.zero 256, 0, fun f => .zero f.size⟩

/-- Both names empty. -/
def TrackNames.start : TrackNames := ⟨.zero _, .zero _⟩

/-- The key `Title`. -/
def titleKey : Text := ⟨chars "Title", by decide⟩

/-- A dictionary with a title of `n` letters. -/
def titleOf (n : Nat) : DValue :=
  .array [.dictEntry (.string titleKey) (.variant (.string
    ⟨List.replicate n 65, fun h => absurd (List.eq_of_mem_replicate h) (by decide)⟩))]

set_option maxRecDepth 2000 in
/-- A title of 256 letters fills its field, and `strlen` runs over its end. One of 257 letters is
written over it. -/
theorem long_title_unterminated :
    (∃ found s, TrackState.start.avrcpTrackInfoGet (chars "Track") (titleOf 256) true =
        some (found, s) ∧ (s.track .title).1 = List.replicate 256 65) ∧
      playerTrackChanged (chars "Track") (titleOf 256) .start (some .start) = none ∧
      TrackState.start.avrcpTrackInfoGet (chars "Track") (titleOf 257) true = none :=
  ⟨⟨_, _, rfl, rfl⟩, rfl, rfl⟩

end ConnectApp.Bluez
