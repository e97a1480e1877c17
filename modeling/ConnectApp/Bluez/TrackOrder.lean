import ConnectApp.Bluez.TrackInfo

/-!
# The order of track metadata (avrcpctrl.c:292-381)

`track_key` is cleared when a string or a number has been read as a value. After a value of another
type the key stays there, and the next key is copied over it: if that is shorter, the end of the old
one is still seen behind it. Then a value is stored in no field, or in that of another key.

- `Dictionary`: a dictionary whose known keys have values of their types
- `Kept`: no key is seen as that of another field, whatever was left behind by other entries
- `track_info_order_iff`: the fields are right for all values and in all orders exactly if `Kept`;
  this is so if no key of a value of another type is longer than one with a string or a number
- `foreign_key_hides_title`: two orders of the same dictionary
-/

namespace ConnectApp.Bluez

open CString
open scoped List

/-! ## Dictionaries -/

/-- A value of a basic type. -/
inductive BasicValue
  | tag (v : TagValue)
  | other (type : BasicType)

namespace BasicValue

/-- The value as it is sent. -/
def toValue : BasicValue → DValue
  | tag (.string valstr) => .string valstr
  | tag (.uint32 valu32) => .uint32 valu32
  | other type => .basic type

/-- The text for a value: the string itself, the digits of a number. -/
def text : BasicValue → List UInt8
  | tag (.string valstr) => valstr.1
  | tag (.uint32 valu32) => natDec valu32.toNat
  | other _ => []

/-- A string, a number or another value. -/
inductive Kind
  | string | uint32 | other
  deriving DecidableEq

/-- What the parser makes of it. -/
def kind : BasicValue → Kind
  | tag (.string _) => .string
  | tag (.uint32 _) => .uint32
  | other _ => .other

end BasicValue

/-- An entry of the metadata. -/
structure TrackEntry where
  key : Text
  value : BasicValue

/-- The value is of a type that `avrcp_get_track_info` has no case for. -/
def TrackEntry.isOther (e : TrackEntry) : Bool :=
  match e.value with
  | .tag _ => false
  | .other _ => true

theorem TrackEntry.value_of_isOther {e : TrackEntry} (h : e.isOther = true) :
    ∃ type, e.value = .other type := by
  obtain ⟨key, value⟩ := e
  cases value with
  | tag v => cases h
  | other type => exact ⟨type, rfl⟩

theorem TrackEntry.value_of_not_isOther {e : TrackEntry} (h : e.isOther = false) :
    ∃ v, e.value = .tag v := by
  obtain ⟨key, value⟩ := e
  cases value with
  | tag v => exact ⟨v, rfl⟩
  | other type => cases h

/-- What is the same for all values of one type. -/
def TrackEntry.shape (e : TrackEntry) : Text × BasicValue.Kind := (e.key, e.value.kind)

/-- The value of the property. -/
def trackDict (es : List TrackEntry) : DValue :=
  .array (es.map fun e => .dictEntry (.string e.key) (.variant e.value.toValue))

/-- The type that a field expects of a value. -/
def TrackField.Expects (f : TrackField) (value : BasicValue) : Prop :=
  if f.isText then ∃ valstr, value = .tag (.string valstr) ∧ valstr.1.length ≤ 255
  else ∃ valu32, value = .tag (.uint32 valu32) ∧ valu32.toNat ≤ 2147483647

/-- A dictionary of a player. -/
structure Dictionary (es : List TrackEntry) : Prop where
  nodup : (es.map TrackEntry.key).Nodup
  short : ∀ e ∈ es, e.key.1.length < 256
  typed : ∀ e ∈ es, ∀ f : TrackField, e.key.1 = f.key → f.Expects e.value

/-- The text that belongs into a field. -/
def expected (es : List TrackEntry) (f : TrackField) : List UInt8 :=
  match es.find? fun e => e.key.1 = f.key with
  | none => []
  | some e => e.value.text

/-- The call fills every field with the value of its key. -/
def Right (es : List TrackEntry) : Prop :=
  ∀ s : TrackState, ∃ found s',
    s.avrcpTrackInfoGet (chars "Track") (trackDict es) true = some (found, s') ∧
      ∀ f, text? (s'.track f).1 = some (expected es f)

/-! ## What the entries store -/

/-- Where the value of an entry goes if its key is seen as `seen`. -/
def TrackEntry.field (e : TrackEntry) (seen : Text) : Option TrackField :=
  match e.value with
  | .tag v => TrackField.target seen.1 v
  | .other _ => none

/-- What is stored there. -/
def TrackEntry.store (e : TrackEntry) (seen : Text) : Option (TrackField × TagValue) :=
  match e.value with
  | .tag v => (e.field seen).map (·, v)
  | .other _ => none

/-- What the entries store, if `seen` is left in `track_key` before them. -/
def entryStores : Text → List TrackEntry → List (TrackField × TagValue)
  | _, [] => []
  | seen, e :: rest =>
    (e.store (e.key.onto seen)).toList ++
      entryStores (if e.isOther then e.key.onto seen else .empty) rest

theorem leaves_trackDict_cons (e : TrackEntry) (es : List TrackEntry) :
    leaves (chars "Track") (trackDict (e :: es)) =
      .key e.key :: (leaves (chars "Track" ++ chars " Value") e.value.toValue ++
        leaves (chars "Track") (trackDict es)) := rfl

theorem leaves_toValue (value : BasicValue) :
    leaves (chars "Track" ++ chars " Value") value.toValue =
      match value with
      | .tag v => [.value v]
      | .other _ => [] := by
  match value with
  | .tag (.string valstr) => rfl
  | .tag (.uint32 valu32) => rfl
  | .other type => rfl

theorem stores_trackDict (seen : Text) (es : List TrackEntry) :
    stores seen (leaves (chars "Track") (trackDict es)) = entryStores seen es := by
  induction es generalizing seen with
  | nil => rfl
  | cons e es ih =>
    rw [leaves_trackDict_cons, leaves_toValue, stores, entryStores, TrackEntry.store,
      TrackEntry.field, TrackEntry.isOther]
    cases e.value with
    | tag v => exact congrArg (_ ++ ·) (ih .empty)
    | other type => exact ih (e.key.onto seen)

theorem mem_of_key_mem {es : List TrackEntry} {k : Text}
    (h : .key k ∈ leaves (chars "Track") (trackDict es)) : ∃ e ∈ es, e.key = k := by
  induction es with
  | nil => exact absurd h List.not_mem_nil
  | cons e es ih =>
    rw [leaves_trackDict_cons, leaves_toValue, List.mem_cons, List.mem_append] at h
    rcases h with heq | hvalue | hrest
    · exact ⟨e, List.mem_cons_self, (Leaf.key.inj heq).symm⟩
    · cases hval : e.value with
      | tag v =>
        rw [hval] at hvalue
        exact absurd (List.mem_singleton.mp hvalue) nofun
      | other type =>
        rw [hval] at hvalue
        exact absurd hvalue List.not_mem_nil
    · obtain ⟨e', he', hk⟩ := ih hrest
      exact ⟨e', List.mem_cons_of_mem e he', hk⟩

/-- The fields are right if what was stored makes up their texts. -/
theorem right_iff {es : List TrackEntry} (hkeys : ∀ e ∈ es, e.key.1.length < 256)
    (hshort : ∀ f text, (f, .string text) ∈ entryStores .empty es → f.isText = true →
      text.1.length ≤ 255) :
    Right es ↔ ∀ f : TrackField, (f.text (entryStores .empty es)).1 = expected es f := by
  have hshows := avrcpTrackInfoGet_shows (trackDict es)
    (fun k hk => by
      obtain ⟨e, he, rfl⟩ := mem_of_key_mem hk
      exact (hkeys e he).le)
    (by rwa [stores_trackDict])
  rw [stores_trackDict] at hshows
  constructor
  · -- the texts do not depend on the state before, so one state is enough
    intro h f
    obtain ⟨found, s', heq, htext⟩ := hshows .start
    obtain ⟨found', s'', heq', hexpected⟩ := h .start
    obtain ⟨-, rfl⟩ := Prod.mk.inj (Option.some.inj (heq.symm.trans heq'))
    exact Option.some.inj ((htext f).symm.trans (hexpected f))
  · intro h s
    obtain ⟨found, s', heq, htext⟩ := hshows s
    exact ⟨found, s', heq, fun f => (htext f).trans (congrArg some (h f))⟩

/-! ## Values under their own keys -/

/-- What an entry stores under its own key. -/
def TrackEntry.ownStore (e : TrackEntry) : Option (TrackField × TagValue) := e.store e.key

theorem TrackEntry.store_eq_some_iff {e : TrackEntry} {seen : Text} {f : TrackField}
    {v : TagValue} :
    e.store seen = some (f, v) ↔ e.value = .tag v ∧ TrackField.target seen.1 v = some f := by
  rw [store, field]
  cases e.value with
  | tag w =>
    rw [Option.map_eq_some_iff]
    simp only [Prod.mk.injEq, BasicValue.tag.injEq]
    constructor
    · rintro ⟨g, hg, rfl, rfl⟩
      exact ⟨rfl, hg⟩
    · rintro ⟨rfl, hf⟩
      exact ⟨f, hf, rfl, rfl⟩
  | other type => exact ⟨nofun, fun h => nomatch h.1⟩

theorem TrackEntry.field_of_isOther {e : TrackEntry} (h : e.isOther = true) (seen : Text) :
    e.field seen = none := by
  obtain ⟨type, htype⟩ := value_of_isOther h
  rw [field, htype]

theorem TrackEntry.field_eq_some_iff {e : TrackEntry} {seen : Text} {f : TrackField} :
    e.field seen = some f ↔ ∃ v, e.value = .tag v ∧ f.key = seen.1 ∧ f.Takes v := by
  rw [field]
  cases e.value with
  | tag w =>
    refine TrackField.target_eq_some_iff.trans ⟨fun h => ⟨w, rfl, h⟩, ?_⟩
    rintro ⟨v, hv, h⟩
    cases hv
    exact h
  | other type => exact ⟨nofun, fun ⟨_, hv, _⟩ => nomatch hv⟩

/-- An entry whose key is not that of the field stores nothing in it. -/
theorem filter_ownStores_of_ne {f : TrackField} {es : List TrackEntry}
    (h : ∀ e ∈ es, e.key.1 ≠ f.key) :
    (es.filterMap TrackEntry.ownStore).filter (·.1 = f) = [] := by
  rw [List.filter_eq_nil_iff]
  rintro ⟨g, v⟩ hmem hg
  obtain ⟨e, he, hstore⟩ := List.mem_filterMap.mp hmem
  obtain ⟨-, htarget⟩ := TrackEntry.store_eq_some_iff.mp hstore
  obtain rfl : g = f := of_decide_eq_true hg
  exact h e he (TrackField.target_eq_some_iff.mp htarget).1.symm

/-- A value that is stored under its key is what the field shows. -/
theorem TrackField.put_empty {f : TrackField} {v : TagValue} (h : f.Expects (.tag v)) :
    (f.put .empty v).1 = (BasicValue.tag v).text := by
  rw [Expects] at h
  rw [put]
  split_ifs at h ⊢
  · obtain ⟨valstr, heq, -⟩ := h
    cases heq
    exact congrArg Subtype.val (Text.onto_empty valstr)
  · obtain ⟨valu32, heq, hle⟩ := h
    cases heq
    -- `%d` prints a number below 2^31 as it is
    have hint : valu32.toBitVec.toInt = valu32.toNat := by
      rw [BitVec.toInt_eq_toNat_of_lt]
      · rfl
      · show 2 * valu32.toNat < _
        omega
    show decimal valu32.toBitVec.toInt = natDec valu32.toNat
    rw [hint, decimal, if_neg (by omega), Int.natAbs_natCast]

theorem TrackField.takes_of_expects {f : TrackField} {value : BasicValue} (h : f.Expects value) :
    ∃ v, value = .tag v ∧ f.Takes v := by
  rw [Expects] at h
  split_ifs at h with htext
  · obtain ⟨valstr, heq, -⟩ := h
    exact ⟨_, heq, fun _ => rfl⟩
  · obtain ⟨valu32, heq, -⟩ := h
    exact ⟨_, heq, fun ht => absurd ht htext⟩

theorem expected_of_ne {es : List TrackEntry} {f : TrackField}
    (h : ∀ e ∈ es, e.key.1 ≠ f.key) : expected es f = [] := by
  have hfind : es.find? (fun e => e.key.1 = f.key) = none :=
    List.find?_eq_none.mpr fun e he hkey => h e he (of_decide_eq_true hkey)
  rw [expected, hfind]

theorem Dictionary.ne_of_middle {before after : List TrackEntry} {e : TrackEntry}
    (h : Dictionary (before ++ e :: after)) : ∀ e' ∈ before ++ after, e'.key ≠ e.key := by
  have hnodup := h.nodup
  rw [List.map_append, List.map_cons, List.nodup_middle, List.nodup_cons, ← List.map_append]
    at hnodup
  exact fun e' he' heq => hnodup.1 (heq ▸ List.mem_map_of_mem he')

namespace Dictionary

variable {es : List TrackEntry} (h : Dictionary es)

include h

theorem perm {es' : List TrackEntry} (hperm : es'.Perm es) : Dictionary es' where
  nodup := (hperm.map TrackEntry.key).nodup_iff.mpr h.nodup
  short := fun e he => h.short e (hperm.mem_iff.mp he)
  typed := fun e he => h.typed e (hperm.mem_iff.mp he)

theorem expected_of_mem {e : TrackEntry} (he : e ∈ es) {f : TrackField} (hkey : e.key.1 = f.key) :
    expected es f = e.value.text := by
  rw [expected]
  cases hfind : es.find? fun e => e.key.1 = f.key with
  | none => exact absurd (decide_eq_true hkey) (List.find?_eq_none.mp hfind e he)
  | some e' =>
    have hkey' : e'.key.1 = f.key :=
      of_decide_eq_true (List.find?_some (p := fun e : TrackEntry => e.key.1 = f.key) hfind)
    rw [List.inj_on_of_nodup_map h.nodup (List.mem_of_find?_eq_some hfind) he
      (Subtype.ext (hkey'.trans hkey.symm))]

/-- **Values under their own keys make up the fields.** -/
theorem text_ownStores (f : TrackField) :
    (f.text (es.filterMap TrackEntry.ownStore)).1 = expected es f := by
  by_cases hno : ∀ e ∈ es, e.key.1 ≠ f.key
  · rw [expected_of_ne hno, TrackField.text, filter_ownStores_of_ne hno]
    rfl
  · push Not at hno
    obtain ⟨e, he, hkey⟩ := hno
    obtain ⟨v, hv, htakes⟩ := TrackField.takes_of_expects (h.typed e he f hkey)
    have hstore : e.ownStore = some (f, v) := TrackEntry.store_eq_some_iff.mpr
      ⟨hv, TrackField.target_eq_some_iff.mpr ⟨hkey.symm, htakes⟩⟩
    rw [h.expected_of_mem he hkey, hv, ← TrackField.put_empty (hv ▸ h.typed e he f hkey)]
    -- the entries around it have other keys
    obtain ⟨before, after, rfl⟩ := List.append_of_mem he
    have hne : ∀ e' ∈ before ++ after, e'.key.1 ≠ f.key := fun e' he' hkey' =>
      h.ne_of_middle e' he' (Subtype.ext (hkey'.trans hkey.symm))
    rw [TrackField.text, List.filterMap_append, List.filterMap_cons_some hstore,
      List.filter_append, List.filter_cons, if_pos (decide_eq_true rfl),
      filter_ownStores_of_ne fun e' he' => hne e' (List.mem_append_left _ he'),
      filter_ownStores_of_ne fun e' he' => hne e' (List.mem_append_right _ he')]
    rfl

end Dictionary

/-! ## What other entries leave behind -/

/-- The text in `track_key` after these keys. -/
def leftOver (us : List Text) : Text := us.foldl (fun seen u => u.onto seen) .empty

/-- The keys with values of other types, which `track_key` keeps. -/
def otherKeys (es : List TrackEntry) : List Text :=
  (es.filter TrackEntry.isOther).map TrackEntry.key

/-- Every value goes where its key says, whatever other keys stand in `track_key` before it. -/
def Kept (es : List TrackEntry) : Prop :=
  ∀ us, us.Subperm (otherKeys es) → ∀ e ∈ es, e.field (e.key.onto (leftOver us)) = e.field e.key

theorem Kept.entryStores_eq {es : List TrackEntry} (h : Kept es) (us : List Text)
    {rest : List TrackEntry} (hus : (us ++ otherKeys rest).Subperm (otherKeys es))
    (hrest : ∀ e ∈ rest, e ∈ es) :
    entryStores (leftOver us) rest = rest.filterMap TrackEntry.ownStore := by
  -- `us` are the keys since the last value that was stored
  induction rest generalizing us with
  | nil => rfl
  | cons e rest ih =>
    have htail : ∀ e' ∈ rest, e' ∈ es := fun e' he' => hrest e' (List.mem_cons_of_mem e he')
    have hstore : e.store (e.key.onto (leftOver us)) = e.ownStore := by
      rw [TrackEntry.ownStore, TrackEntry.store, TrackEntry.store,
        h us ((List.sublist_append_left us _).subperm.trans hus) e (hrest e List.mem_cons_self)]
    have hseen : entryStores (if e.isOther then e.key.onto (leftOver us) else .empty) rest =
        rest.filterMap TrackEntry.ownStore := by
      cases hother : e.isOther with
      | true =>
        rw [otherKeys, List.filter_cons_of_pos hother, List.map_cons, List.append_cons] at hus
        have hleft : e.key.onto (leftOver us) = leftOver (us ++ [e.key]) := by
          rw [leftOver, leftOver, List.foldl_append]
          rfl
        rw [if_pos rfl, hleft]
        exact ih _ hus htail
      | false =>
        rw [otherKeys, List.filter_cons_of_neg (ne_true_of_eq_false hother)] at hus
        exact ih [] ((List.sublist_append_right us _).subperm.trans hus) htail
    rw [entryStores, hstore, hseen, List.filterMap_cons]
    cases e.ownStore with
    | none => rfl
    | some st => rfl

/-- **Right in this order.** -/
theorem Kept.right {es : List TrackEntry} (h : Kept es) (hdict : Dictionary es) : Right es := by
  have hstores : entryStores .empty es = es.filterMap TrackEntry.ownStore :=
    h.entryStores_eq [] (.refl _) fun e he => he
  refine (right_iff hdict.short fun f text hmem hf => ?_).mpr fun f => ?_
  · -- only the text of an entry of the field is stored in it
    rw [hstores] at hmem
    obtain ⟨e, he, hstore⟩ := List.mem_filterMap.mp hmem
    obtain ⟨hvalue, htarget⟩ := TrackEntry.store_eq_some_iff.mp hstore
    have htyped := hdict.typed e he f (TrackField.target_eq_some_iff.mp htarget).1.symm
    rw [TrackField.Expects, if_pos hf, hvalue] at htyped
    obtain ⟨valstr, heq, hle⟩ := htyped
    cases heq
    exact hle
  · rw [hstores]
    exact hdict.text_ownStores f

/-! ## Dictionaries of one shape -/

theorem TrackEntry.isOther_iff (e : TrackEntry) : e.isOther = true ↔ e.shape.2 = .other := by
  obtain ⟨key, value⟩ := e
  match value with
  | .tag (.string valstr) => exact ⟨nofun, nofun⟩
  | .tag (.uint32 valu32) => exact ⟨nofun, nofun⟩
  | .other type => exact ⟨fun _ => rfl, fun _ => rfl⟩

theorem TrackEntry.field_congr {e e' : TrackEntry} (h : e.shape = e'.shape) :
    e.field = e'.field := by
  obtain ⟨key, value⟩ := e
  obtain ⟨key', value'⟩ := e'
  have hkind : value.kind = value'.kind := (Prod.mk.inj h).2
  match value, value', hkind with
  | .tag (.string _), .tag (.string _), _ => rfl
  | .tag (.uint32 _), .tag (.uint32 _), _ => rfl
  | .other _, .other _, _ => rfl

theorem otherKeys_eq (es : List TrackEntry) :
    otherKeys es = ((es.map TrackEntry.shape).filter (·.2 = .other)).map Prod.fst := by
  rw [otherKeys, List.filter_map, List.map_map]
  refine congrArg₂ List.map rfl (List.filter_congr fun e _ => ?_)
  exact Bool.eq_iff_iff.mpr (e.isOther_iff.trans decide_eq_true_iff.symm)

theorem Kept.of_shape {es es' : List TrackEntry} (h : Kept es)
    (hperm : (es'.map TrackEntry.shape).Perm (es.map TrackEntry.shape)) : Kept es' := by
  intro us hus e' he'
  have hothers : (otherKeys es').Perm (otherKeys es) := by
    rw [otherKeys_eq, otherKeys_eq]
    exact (hperm.filter _).map _
  obtain ⟨e, he, hshape⟩ := List.mem_map.mp (hperm.mem_iff.mp (List.mem_map_of_mem he'))
  have hkey : e'.key = e.key := (Prod.mk.inj hshape).1.symm
  rw [TrackEntry.field_congr hshape.symm, hkey]
  exact h us (hus.trans hothers.subperm) e he

/-! ## An order that tells -/

/-- A part of the images, in any order, comes from a part of the list. -/
theorem exists_perm_of_subperm_map {α β : Type} {f : α → β} {us : List β} {l : List α}
    (h : us.Subperm (l.map f)) : ∃ a b : List α, a.map f = us ∧ (a ++ b).Perm l := by
  obtain ⟨us', hus, hsub⟩ := h
  obtain ⟨l', hl', rfl⟩ := List.sublist_map_iff.mp hsub
  obtain ⟨b, hb⟩ := hl'.exists_perm_append
  have hrel : List.Forall₂ (fun k x => k = f x) (l'.map f) l' :=
    List.forall₂_map_left_iff.mpr (List.forall₂_same.mpr fun _ _ => rfl)
  obtain ⟨a, ha, hperm⟩ := List.perm_comp_forall₂ hus.symm hrel
  have heq : us = a.map f := List.forall₂_eq_eq_eq ▸ List.forall₂_map_right_iff.mpr ha
  exact ⟨a, b, heq.symm, (hperm.append_right b).trans hb.symm⟩

/-- The entry can be read last of all strings and numbers, right behind the keys `us`. -/
theorem exists_order {es : List TrackEntry} {e : TrackEntry} (he : e ∈ es)
    (htag : e.isOther = false) {us : List Text} (hus : us.Subperm (otherKeys es)) :
    ∃ tags left rest : List TrackEntry, (tags ++ left ++ e :: rest).Perm es ∧
      (∀ e' ∈ tags, e'.isOther = false) ∧ (∀ u ∈ left, u.isOther = true) ∧
      (∀ u ∈ rest, u.isOther = true) ∧ left.map TrackEntry.key = us := by
  obtain ⟨left, rest, hleft, hothers⟩ := exists_perm_of_subperm_map hus
  have hmem : e ∈ es.filter fun e => !e.isOther := List.mem_filter.mpr ⟨he, by rw [htag]; rfl⟩
  obtain ⟨before, after, hsplit⟩ := List.append_of_mem hmem
  have hother : ∀ u ∈ left ++ rest, u.isOther = true := fun u hu =>
    (List.mem_filter.mp (hothers.mem_iff.mp hu)).2
  refine ⟨before ++ after, left, rest, ?_, fun e' he' => ?_,
    fun u hu => hother u (List.mem_append_left _ hu),
    fun u hu => hother u (List.mem_append_right _ hu), hleft⟩
  · calc before ++ after ++ left ++ e :: rest
      _ ~ e :: (before ++ after ++ left ++ rest) := List.perm_middle
      _ = e :: (before ++ after) ++ (left ++ rest) := by simp
      _ ~ before ++ e :: after ++ (left ++ rest) := List.perm_middle.symm.append_right _
      _ ~ before ++ e :: after ++ es.filter TrackEntry.isOther := hothers.append_left _
      _ = es.filter (fun e => !e.isOther) ++ es.filter TrackEntry.isOther := by rw [hsplit]
      _ ~ es.filter TrackEntry.isOther ++ es.filter (fun e => !e.isOther) := List.perm_append_comm
      _ ~ es := List.filter_append_perm _ _
  · have hin : e' ∈ before ++ e :: after := by
      rcases List.mem_append.mp he' with h | h
      · exact List.mem_append_left _ h
      · exact List.mem_append_right _ (List.mem_cons_of_mem e h)
    rw [← hsplit] at hin
    simpa using (List.mem_filter.mp hin).2

/-- Strings and numbers are stored under their own keys if nothing is left in front of them. -/
theorem entryStores_tags {tags : List TrackEntry} (h : ∀ e ∈ tags, e.isOther = false)
    (rest : List TrackEntry) :
    entryStores .empty (tags ++ rest) =
      tags.filterMap TrackEntry.ownStore ++ entryStores .empty rest := by
  induction tags with
  | nil => rfl
  | cons e tags ih =>
    have hseen : (if e.isOther then e.key.onto .empty else .empty) = Text.empty := by
      rw [h e List.mem_cons_self]
      rfl
    rw [List.cons_append, entryStores, hseen, ih fun e' he' => h e' (List.mem_cons_of_mem e he'),
      Text.onto_empty, List.filterMap_cons]
    show e.ownStore.toList ++ _ = _
    cases e.ownStore with
    | none => rfl
    | some st => rfl

/-- Other values are not stored, but their keys are left. -/
theorem entryStores_others {us : List TrackEntry} (h : ∀ u ∈ us, u.isOther = true) (seen : Text)
    (rest : List TrackEntry) :
    entryStores seen (us ++ rest) =
      entryStores ((us.map TrackEntry.key).foldl (fun seen u => u.onto seen) seen) rest := by
  induction us generalizing seen with
  | nil => rfl
  | cons u us ih =>
    have hu : u.isOther = true := h u List.mem_cons_self
    have hnone : u.store (u.key.onto seen) = none := by
      obtain ⟨type, htype⟩ := TrackEntry.value_of_isOther hu
      rw [TrackEntry.store, htype]
    rw [List.cons_append, entryStores, hnone, hu, if_pos rfl,
      ih fun u' hu' => h u' (List.mem_cons_of_mem u hu')]
    rfl

/-- In such an order every value but the last is stored under its own key. -/
theorem entryStores_order {tags left rest : List TrackEntry} {e : TrackEntry} {v : TagValue}
    (htags : ∀ e' ∈ tags, e'.isOther = false) (hleft : ∀ u ∈ left, u.isOther = true)
    (hrest : ∀ u ∈ rest, u.isOther = true) (hv : e.value = .tag v) :
    entryStores .empty (tags ++ left ++ e :: rest) = tags.filterMap TrackEntry.ownStore ++
      ((e.field (e.key.onto (leftOver (left.map TrackEntry.key)))).map (·, v)).toList := by
  have hnil : ∀ seen, entryStores seen rest = [] := by
    intro seen
    have h := entryStores_others hrest seen []
    rwa [List.append_nil] at h
  rw [List.append_assoc, entryStores_tags htags, entryStores_others hleft, entryStores, hnil,
    List.append_nil, TrackEntry.store, hv]
  rfl

/-! ## Values that tell -/

namespace BasicValue

/-- A value of the same type. It can be told from what `mark` leaves in a field. -/
def blank : BasicValue → BasicValue
  | tag (.string _) => tag (.string .empty)
  | tag (.uint32 _) => tag (.uint32 1)
  | other type => other type

/-- A value of the same type that leaves its mark in a field. -/
def mark : BasicValue → BasicValue
  | tag (.string _) => tag (.string ⟨chars "A", by decide⟩)
  | tag (.uint32 _) => tag (.uint32 0)
  | other type => other type

theorem kind_blank (value : BasicValue) : value.blank.kind = value.kind := by
  match value with
  | .tag (.string _) => rfl
  | .tag (.uint32 _) => rfl
  | .other _ => rfl

theorem kind_mark (value : BasicValue) : value.mark.kind = value.kind := by
  match value with
  | .tag (.string _) => rfl
  | .tag (.uint32 _) => rfl
  | .other _ => rfl

theorem eq_of_mark {value : BasicValue} {v : TagValue} (h : value.mark = .tag v) :
    (∃ text : Text, v = .string text ∧ text.1 = chars "A") ∨ v = .uint32 0 := by
  cases value with
  | tag w =>
    cases w with
    | string valstr => exact .inl ⟨_, (tag.inj h).symm, rfl⟩
    | uint32 valu32 => exact .inr (tag.inj h).symm
  | other type => cases h

end BasicValue

/-- The entry with the key `k` gets the value `mark`, every other one `blank`. -/
def TrackEntry.relabel (k : Text) (e : TrackEntry) : TrackEntry :=
  { e with value := if e.key = k then e.value.mark else e.value.blank }

theorem TrackEntry.shape_relabel (k : Text) (e : TrackEntry) : (e.relabel k).shape = e.shape := by
  rw [shape, shape, relabel]
  split_ifs
  · rw [BasicValue.kind_mark]
  · rw [BasicValue.kind_blank]

theorem TrackEntry.isOther_relabel (k : Text) (e : TrackEntry) :
    (e.relabel k).isOther = e.isOther :=
  Bool.eq_iff_iff.mpr (by rw [isOther_iff, isOther_iff, shape_relabel])

theorem TrackField.Expects.relabel {f : TrackField} {e : TrackEntry} (h : f.Expects e.value)
    (k : Text) : f.Expects (e.relabel k).value := by
  rw [Expects] at h ⊢
  rw [TrackEntry.relabel]
  split_ifs at h ⊢
  · obtain ⟨valstr, heq, -⟩ := h
    exact ⟨_, congrArg BasicValue.mark heq, by decide⟩
  · obtain ⟨valstr, heq, -⟩ := h
    exact ⟨_, congrArg BasicValue.blank heq, by decide⟩
  · obtain ⟨valu32, heq, -⟩ := h
    exact ⟨_, congrArg BasicValue.mark heq, by decide⟩
  · obtain ⟨valu32, heq, -⟩ := h
    exact ⟨_, congrArg BasicValue.blank heq, by decide⟩

theorem Dictionary.relabel {es : List TrackEntry} (h : Dictionary es) (k : Text) :
    Dictionary (es.map (TrackEntry.relabel k)) where
  nodup := by
    rw [List.map_map]
    exact h.nodup
  short := List.forall_mem_map.mpr h.short
  typed := List.forall_mem_map.mpr fun e he f hkey => (h.typed e he f hkey).relabel k

/-- Every string is short after `relabel`. -/
theorem TrackEntry.length_relabel {k : Text} {e : TrackEntry} {text : Text}
    (h : (e.relabel k).value = .tag (.string text)) : text.1.length ≤ 255 := by
  obtain ⟨key, value⟩ := e
  rw [relabel] at h
  split_ifs at h
  · match value, h with
    | .tag (.string _), h => cases h; decide
  · match value, h with
    | .tag (.string _), h => cases h; decide

theorem mem_entryStores {seen : Text} {es : List TrackEntry} {f : TrackField} {v : TagValue}
    (h : (f, v) ∈ entryStores seen es) : ∃ e ∈ es, e.value = .tag v := by
  induction es generalizing seen with
  | nil => exact absurd h List.not_mem_nil
  | cons e es ih =>
    rw [entryStores, List.mem_append, Option.mem_toList] at h
    rcases h with hstore | hrest
    · exact ⟨e, List.mem_cons_self, (TrackEntry.store_eq_some_iff.mp hstore).1⟩
    · obtain ⟨e', he', hv⟩ := ih hrest
      exact ⟨e', List.mem_cons_of_mem e he', hv⟩

/-- What belongs into a field whose key is not marked. -/
theorem Dictionary.expected_relabel {es : List TrackEntry} (h : Dictionary es) {k : Text}
    {f : TrackField} (hk : k.1 ≠ f.key) :
    expected (es.map (TrackEntry.relabel k)) f = [] ∨
      f.isText = false ∧ expected (es.map (TrackEntry.relabel k)) f = natDec 1 := by
  have hdict : Dictionary (es.map (TrackEntry.relabel k)) := h.relabel k
  by_cases hno : ∀ e ∈ es, e.key.1 ≠ f.key
  · exact .inl (expected_of_ne (List.forall_mem_map.mpr hno))
  · push Not at hno
    obtain ⟨e, he, hkey⟩ := hno
    -- the entry of the field is not the marked one, so its value is blank
    have hne : e.key ≠ k := fun heq => hk (heq ▸ hkey)
    have hvalue : (e.relabel k).value = e.value.blank := if_neg hne
    rw [hdict.expected_of_mem (List.mem_map_of_mem he) hkey, hvalue]
    have htyped := h.typed e he f hkey
    rw [TrackField.Expects] at htyped
    split_ifs at htyped with htext
    · obtain ⟨valstr, heq, -⟩ := htyped
      rw [heq]
      exact .inl rfl
    · obtain ⟨valu32, heq, -⟩ := htyped
      rw [heq]
      exact .inr ⟨Bool.eq_false_of_not_eq_true htext, rfl⟩

/-- What a marked value leaves in a field. -/
theorem TrackField.put_mark {f : TrackField} {value : BasicValue} {v : TagValue}
    (hv : value.mark = .tag v) (htakes : f.Takes v) (t : Text) :
    (f.put t v).1 ≠ [] ∧ (f.isText = false → (f.put t v).1 ≠ natDec 1) := by
  have hzero : decimal 0 ≠ [] ∧ decimal 0 ≠ natDec 1 := by decide
  by_cases hf : f.isText = true
  · rw [put, if_pos hf]
    refine ⟨?_, fun hnumber => absurd hf (ne_true_of_eq_false hnumber)⟩
    rcases BasicValue.eq_of_mark hv with ⟨text, rfl, htext⟩ | rfl
    · show text.1 ++ _ ≠ []
      rw [htext]
      exact List.cons_ne_nil _ _
    · cases htakes hf
  · rw [put, if_neg hf]
    rcases BasicValue.eq_of_mark hv with ⟨text, rfl, -⟩ | rfl
    · exact ⟨hzero.1, fun _ => hzero.2⟩
    · exact ⟨hzero.1, fun _ => hzero.2⟩

theorem BasicValue.text_mark_ne_nil {value : BasicValue} {v : TagValue}
    (hv : value.mark = .tag v) : value.mark.text ≠ [] := by
  rw [hv]
  rcases eq_of_mark hv with ⟨text, rfl, htext⟩ | rfl
  · show text.1 ≠ []
    rw [htext]
    exact List.cons_ne_nil _ _
  · exact (by decide : natDec 0 ≠ [])

/-- The texts of the fields in such an order, with values that tell. -/
theorem Dictionary.text_relabel {tags left rest : List TrackEntry} {e : TrackEntry} {v : TagValue}
    (h : Dictionary (tags ++ left ++ e :: rest)) (htags : ∀ e' ∈ tags, e'.isOther = false)
    (hleft : ∀ u ∈ left, u.isOther = true) (hrest : ∀ u ∈ rest, u.isOther = true)
    (hv : (e.relabel e.key).value = .tag v)
    (hright : Right ((tags ++ left ++ e :: rest).map (TrackEntry.relabel e.key)))
    (f : TrackField) :
    (f.text ((tags.map (TrackEntry.relabel e.key)).filterMap TrackEntry.ownStore ++
      ((e.field (e.key.onto (leftOver (left.map TrackEntry.key)))).map (·, v)).toList)).1 =
    expected ((tags ++ left ++ e :: rest).map (TrackEntry.relabel e.key)) f := by
  have hmap : ∀ b, ∀ l : List TrackEntry, (∀ e' ∈ l, e'.isOther = b) →
      ∀ e' ∈ l.map (TrackEntry.relabel e.key), e'.isOther = b := fun b l hl =>
    List.forall_mem_map.mpr fun e' he' => (TrackEntry.isOther_relabel _ _).trans (hl e' he')
  have htext := (right_iff (h.relabel e.key).short fun f text hmem _ => ?_).mp hright f
  · rw [← htext, ← TrackEntry.field_congr (TrackEntry.shape_relabel e.key e), List.map_append,
      List.map_append, List.map_cons, entryStores_order (hmap _ _ htags) (hmap _ _ hleft)
      (hmap _ _ hrest) hv, List.map_map]
    rfl
  · obtain ⟨e', he', hvalue⟩ := mem_entryStores hmem
    obtain ⟨e₀, -, rfl⟩ := List.mem_map.mp he'
    exact TrackEntry.length_relabel hvalue

/-- If the fields are right then, the last value went where its key says. -/
theorem Dictionary.field_eq_of_right {tags left rest : List TrackEntry} {e : TrackEntry}
    (h : Dictionary (tags ++ left ++ e :: rest)) (htags : ∀ e' ∈ tags, e'.isOther = false)
    (hleft : ∀ u ∈ left, u.isOther = true) (hrest : ∀ u ∈ rest, u.isOther = true)
    (hother : e.isOther = false)
    (hright : Right ((tags ++ left ++ e :: rest).map (TrackEntry.relabel e.key))) :
    e.field (e.key.onto (leftOver (left.map TrackEntry.key))) = e.field e.key := by
  have he : e ∈ tags ++ left ++ e :: rest := List.mem_append_right _ List.mem_cons_self
  obtain ⟨v, hv⟩ := TrackEntry.value_of_not_isOther
    ((TrackEntry.isOther_relabel e.key e).trans hother)
  have hmark : (e.relabel e.key).value = e.value.mark := if_pos rfl
  have htext := h.text_relabel htags hleft hrest hv hright
  cases hown : e.field e.key with
  | some f =>
    -- nothing else is stored in its field, so the field would be empty
    by_contra hne
    obtain ⟨-, -, hkey, -⟩ := TrackEntry.field_eq_some_iff.mp hown
    have htags' : ∀ e' ∈ tags.map (TrackEntry.relabel e.key), e'.key.1 ≠ f.key :=
      List.forall_mem_map.mpr fun e' he' heq => h.ne_of_middle e' (List.mem_append_left _
        (List.mem_append_left _ he')) (Subtype.ext (heq.trans hkey))
    have hempty : f.text ((tags.map (TrackEntry.relabel e.key)).filterMap TrackEntry.ownStore) =
        .empty := by
      rw [TrackField.text, filter_ownStores_of_ne htags']
      rfl
    have hexpected := (h.relabel e.key).expected_of_mem (List.mem_map_of_mem he) hkey.symm
    refine BasicValue.text_mark_ne_nil (hmark ▸ hv) ?_
    rw [← hmark, ← hexpected, ← htext f]
    cases hseen : e.field (e.key.onto (leftOver (left.map TrackEntry.key))) with
    | none =>
      rw [Option.map_none, Option.toList_none, List.append_nil, hempty]
      rfl
    | some g =>
      have hg : g ≠ f := fun heq => hne (hseen.trans (congrArg some heq))
      rw [Option.map_some, Option.toList_some, TrackField.text_append_of_ne hg, hempty]
      rfl
  | none =>
    cases hseen : e.field (e.key.onto (leftOver (left.map TrackEntry.key))) with
    | none => rfl
    | some f =>
      -- the value stands in a field that is not that of its key
      exfalso
      have hkey : e.key.1 ≠ f.key := by
        intro hkey
        obtain ⟨w, hw, htakes⟩ := TrackField.takes_of_expects (h.typed e he f hkey)
        have := TrackEntry.field_eq_some_iff.mpr ⟨w, hw, hkey.symm, htakes⟩
        rw [hown] at this
        cases this
      have htakes : f.Takes v := by
        rw [← TrackEntry.field_congr (TrackEntry.shape_relabel e.key e)] at hseen
        obtain ⟨w, hw, -, htakes⟩ := TrackEntry.field_eq_some_iff.mp hseen
        rwa [BasicValue.tag.inj (hv.symm.trans hw)]
      have hput := htext f
      rw [hseen, Option.map_some, Option.toList_some, TrackField.text_append_self] at hput
      obtain ⟨hne, hone⟩ := TrackField.put_mark (hmark ▸ hv) htakes
        (f.text ((tags.map (TrackEntry.relabel e.key)).filterMap TrackEntry.ownStore))
      rcases h.expected_relabel hkey with hnil | ⟨hnumber, hexpected⟩
      · exact hne (hput.trans hnil)
      · exact hone hnumber (hput.trans hexpected)

/-- **Where a key is not kept, an order and values tell.** -/
theorem Dictionary.kept {es : List TrackEntry} (h : Dictionary es)
    (hright : ∀ es', Dictionary es' →
      (es'.map TrackEntry.shape).Perm (es.map TrackEntry.shape) → Right es') : Kept es := by
  intro us hus e he
  cases hother : e.isOther with
  | true =>
    rw [TrackEntry.field_of_isOther hother, TrackEntry.field_of_isOther hother]
  | false =>
    -- the keys `us` right before `e`, which alone has a value that tells
    obtain ⟨tags, left, rest, hperm, htags, hleft, hrest, rfl⟩ := exists_order he hother hus
    have horder := h.perm hperm
    refine horder.field_eq_of_right htags hleft hrest hother (hright _ (horder.relabel e.key) ?_)
    have hshape : TrackEntry.shape ∘ TrackEntry.relabel e.key = TrackEntry.shape :=
      funext (TrackEntry.shape_relabel e.key)
    rw [List.map_map, hshape]
    exact hperm.map _

theorem length_leftOver_le {us : List Text} {n : Nat} (h : ∀ u ∈ us, u.1.length ≤ n) :
    (leftOver us).1.length ≤ n := by
  induction us using List.reverseRecOn with
  | nil => exact Nat.zero_le n
  | append_singleton us u ih =>
    rw [leftOver, List.foldl_append]
    show (u.onto (leftOver us)).1.length ≤ n
    rw [Text.length_onto]
    exact Nat.max_le.mpr ⟨h u (List.mem_append_right _ List.mem_cons_self),
      ih fun u' hu' => h u' (List.mem_append_left _ hu')⟩

/-- If no key of another value is longer than one of a string or a number, nothing of it is seen. -/
theorem kept_of_le {es : List TrackEntry}
    (h : ∀ u ∈ es, u.isOther = true → ∀ e ∈ es, e.isOther = false →
      u.key.1.length ≤ e.key.1.length) : Kept es := by
  intro us hus e he
  cases hother : e.isOther with
  | true =>
    rw [TrackEntry.field_of_isOther hother, TrackEntry.field_of_isOther hother]
  | false =>
    have hlen : (leftOver us).1.length ≤ e.key.1.length := by
      refine length_leftOver_le fun k hk => ?_
      obtain ⟨u, hu, rfl⟩ := List.mem_map.mp (hus.subset hk)
      obtain ⟨hmem, hu⟩ := List.mem_filter.mp hu
      exact h u hmem hu e he hother
    rw [Text.onto_of_le hlen]

/-- **When the order does not matter.** For the keys and the types of values of a dictionary, the
fields are right in every order and for all values exactly if no value goes elsewhere because of
keys that stand in `track_key` before it. This is so, and every order of the dictionary gives the
right fields, if no key with a value of another type is longer than one with a string or a
number. -/
theorem track_info_order_iff {es : List TrackEntry} (h : Dictionary es) :
    ((∀ es', Dictionary es' → (es'.map TrackEntry.shape).Perm (es.map TrackEntry.shape) →
        Right es') ↔ Kept es) ∧
      ((∀ u ∈ es, u.isOther = true → ∀ e ∈ es, e.isOther = false →
        u.key.1.length ≤ e.key.1.length) → ∀ es', es'.Perm es → Right es') := by
  refine ⟨⟨h.kept, fun hkept es' hdict hperm => (hkept.of_shape hperm).right hdict⟩, ?_⟩
  intro hle es' hperm
  exact ((kept_of_le hle).of_shape (hperm.map _)).right (h.perm hperm)

/-! ## Two entries -/

/-- The title of a track. -/
def titleEntry : TrackEntry := ⟨titleKey, .tag (.string ⟨chars "Song", by decide⟩)⟩

/-- An entry with a boolean. -/
def flagEntry (key : Text) : TrackEntry := ⟨key, .other .boolean⟩

/-- Together they are a dictionary. -/
theorem dictionary_flag_title {key : Text} (hshort : key.1.length < 256)
    (hkey : ∀ f : TrackField, key.1 ≠ f.key) : Dictionary [flagEntry key, titleEntry] where
  nodup := by
    refine List.nodup_cons.mpr ⟨fun hmem => ?_, List.nodup_singleton _⟩
    exact hkey .title (congrArg Subtype.val (List.mem_singleton.mp hmem))
  short := by
    intro e he
    rcases List.mem_pair.mp he with rfl | rfl
    · exact hshort
    · decide
  typed := by
    intro e he f hf
    rcases List.mem_pair.mp he with rfl | rfl
    · exact absurd hf (hkey f)
    · obtain rfl : .title = f := TrackField.key_injective .title f hf
      exact ⟨_, rfl, by decide⟩

/-- A key that is not longer than `Title` is covered by it. -/
theorem track_info_order_iff_short_key :
    Dictionary [flagEntry ⟨chars "Live", by decide⟩, titleEntry] ∧
      ∀ es', es'.Perm [flagEntry ⟨chars "Live", by decide⟩, titleEntry] → Right es' := by
  have hdict : Dictionary [flagEntry ⟨chars "Live", by decide⟩, titleEntry] :=
    dictionary_flag_title (by decide) fun f => by cases f <;> decide
  exact ⟨hdict, (track_info_order_iff hdict).2 (by decide)⟩

/-- After a longer key `Title` is read as `Titletered`, and the title is lost. -/
theorem foreign_key_hides_title :
    Dictionary [flagEntry ⟨chars "Remastered", by decide⟩, titleEntry] ∧
      Right [titleEntry, flagEntry ⟨chars "Remastered", by decide⟩] ∧
      ¬ Right [flagEntry ⟨chars "Remastered", by decide⟩, titleEntry] := by
  have hshort : ∀ f text, ∀ es : List TrackEntry,
      es.Perm [flagEntry ⟨chars "Remastered", by decide⟩, titleEntry] →
      (f, .string text) ∈ entryStores .empty es → f.isText = true → text.1.length ≤ 255 := by
    intro f text es hperm hmem _
    obtain ⟨e, he, hvalue⟩ := mem_entryStores hmem
    rcases List.mem_pair.mp (hperm.mem_iff.mp he) with rfl | rfl
    · cases hvalue
    · cases hvalue
      decide
  refine ⟨dictionary_flag_title (by decide) fun f => by cases f <;> decide, ?_, fun h => ?_⟩
  · refine (right_iff (by decide) fun f text => hshort f text _ (.swap _ _ _)).mpr fun f => ?_
    cases f <;> rfl
  · have htitle := (right_iff (by decide) fun f text => hshort f text _ (.refl _)).mp h .title
    exact absurd htitle (by decide)

end ConnectApp.Bluez
