import Mathlib.Data.List.Basic
import Mathlib.Tactic.SplitIfs

/-!
# What is advertised (advertising.c:66-85, 239-432, 656-661, 931-989)

The advertisement is the static structure `ad`. `gatt_init` has `iBle_init_adv` fill it from the
configuration, field by field and only with the fields that the configuration sets, and nothing
empties it: `gatt_cleanup` resets the services only. So a field that is not set keeps the value
that the last configuration with it has given it.

- `advertised_iBleInitAdv`: field by field, what is advertised after a call
- `history_free_iff`: the advertisement depends on the configuration alone exactly if the
  configuration sets every field
- `name_survives`: the name of the configuration before is advertised with the next one
-/

namespace ConnectApp.Bluez

/-- The part of `RkBleContent` that `iBle_init_adv` reads (RkBtBase.h:223-274); `none` is NULL. -/
structure AdvContent where
  bleName : Option (List UInt8)
  advServerUuid : Option (List UInt8)
  txPower : UInt8
  appearance : UInt16
  manufacturerId : UInt16
  manufacturerData : {data : List UInt8 // data.length = 25}

/-- `ad` (advertising.c:66-85): `uuids` with `uuids_len`, `local_name`, `local_appearance`,
`manufacturer` as its id and the `len` bytes of its data, `discoverable` and `tx_power`. -/
structure Ad where
  uuids : List (List UInt8) := []
  localName : Option (List UInt8) := none
  localAppearance : UInt16 := 0xFFFF
  manufacturerId : UInt16 := 0
  manufacturerData : List UInt8 := []
  discoverable : Bool := false
  txPower : Bool := false
  deriving DecidableEq

/-- `iBle_init_adv` (advertising.c:932-989). -/
def iBleInitAdv (c : AdvContent) (ad : Ad) : Ad where
  uuids := match c.advServerUuid with
    | some uuid => [uuid]
    | none => ad.uuids
  localName := match c.bleName with
    | some name => some name
    | none => ad.localName
  txPower := if c.txPower ≠ 0 then true else ad.txPower
  localAppearance := if c.appearance ≠ 0 then c.appearance else ad.localAppearance
  manufacturerId := if c.manufacturerId ≠ 0 then c.manufacturerId else ad.manufacturerId
  manufacturerData :=
    if c.manufacturerId ≠ 0 then c.manufacturerData.1.take 16 else ad.manufacturerData
  discoverable := true

/-- The properties of the object on the bus, as far as `iBle_init_adv` has a part in them; `none`
is a property that does not exist. -/
@[ext] structure Advertised where
  serviceUuids : Option (List (List UInt8))
  manufacturerData : Option (UInt16 × List UInt8)
  discoverable : Option Bool
  includesTxPower : Bool
  localName : Option (List UInt8)
  appearance : Option UInt16
  deriving DecidableEq

/-- The property functions (advertising.c:239-432). -/
def Ad.advertised (ad : Ad) : Advertised where
  serviceUuids := if ad.uuids.length ≠ 0 then some ad.uuids else none
  manufacturerData :=
    if ad.manufacturerId ≠ 0 then some (ad.manufacturerId, ad.manufacturerData) else none
  discoverable := if ad.discoverable then some ad.discoverable else none
  includesTxPower := ad.txPower
  localName := ad.localName
  appearance := if ad.localAppearance ≠ 0xFFFF then some ad.localAppearance else none

/-- `ad` after calls of `iBle_init_adv`, from the start of the process on. -/
def adAfter (history : List AdvContent) : Ad := history.foldl (fun ad c => iBleInitAdv c ad) {}

/-- The configuration sets every field that it can leave out. -/
structure AdvContent.Complete (c : AdvContent) : Prop where
  bleName : c.bleName ≠ none
  advServerUuid : c.advServerUuid ≠ none
  txPower : c.txPower ≠ 0
  appearance : c.appearance ≠ 0
  manufacturerId : c.manufacturerId ≠ 0

/-- **What a call leaves**: a field that is set is advertised as the configuration has it, any
other as before. -/
theorem advertised_iBleInitAdv (c : AdvContent) (ad : Ad) :
    (iBleInitAdv c ad).advertised =
      { serviceUuids := (c.advServerUuid.map ([·])).or ad.advertised.serviceUuids
        manufacturerData :=
          if c.manufacturerId ≠ 0 then some (c.manufacturerId, c.manufacturerData.1.take 16)
          else ad.advertised.manufacturerData
        discoverable := some true
        includesTxPower := decide (c.txPower ≠ 0) || ad.advertised.includesTxPower
        localName := c.bleName.or ad.advertised.localName
        appearance :=
          if c.appearance = 0 then ad.advertised.appearance
          else if c.appearance ≠ 0xFFFF then some c.appearance else none } := by
  ext1
  · cases huuid : c.advServerUuid <;> simp [iBleInitAdv, Ad.advertised, huuid]
  · by_cases hid : c.manufacturerId = 0 <;> simp [iBleInitAdv, Ad.advertised, hid]
  · rfl
  · by_cases hpower : c.txPower = 0 <;> simp [iBleInitAdv, Ad.advertised, hpower]
  · cases hname : c.bleName <;> simp [iBleInitAdv, Ad.advertised, hname]
  · by_cases happearance : c.appearance = 0 <;> simp [iBleInitAdv, Ad.advertised, happearance]

/-- A configuration that sets every field. -/
def AdvContent.full : AdvContent where
  bleName := some [114, 107]
  advServerUuid := some [49, 56, 48, 102]
  txPower := 1
  appearance := 1
  manufacturerId := 1
  manufacturerData := ⟨List.replicate 25 0, rfl⟩

/-- **A function of the configuration.** After any two histories the same is advertised exactly
if the configuration sets every field. -/
theorem history_free_iff (c : AdvContent) :
    (∀ h₁ h₂ : List AdvContent,
      (iBleInitAdv c (adAfter h₁)).advertised = (iBleInitAdv c (adAfter h₂)).advertised) ↔
        c.Complete := by
  constructor
  · intro h
    -- a field that `c` leaves out shows whether `full` came before
    have heq := h [] [.full]
    rw [advertised_iBleInitAdv, advertised_iBleInitAdv] at heq
    have hname := congrArg Advertised.localName heq
    have huuids := congrArg Advertised.serviceUuids heq
    have hpower := congrArg Advertised.includesTxPower heq
    have happearance := congrArg Advertised.appearance heq
    have hid := congrArg Advertised.manufacturerData heq
    refine ⟨fun hc => ?_, fun hc => ?_, fun hc => ?_, fun hc => ?_, fun hc => ?_⟩
    · simp [hc, adAfter, iBleInitAdv, Ad.advertised, AdvContent.full] at hname
    · simp [hc, adAfter, iBleInitAdv, Ad.advertised, AdvContent.full] at huuids
    · simp [hc, adAfter, iBleInitAdv, Ad.advertised, AdvContent.full] at hpower
    · simp [hc, adAfter, iBleInitAdv, Ad.advertised, AdvContent.full] at happearance
    · simp [hc, adAfter, iBleInitAdv, Ad.advertised, AdvContent.full] at hid
  · intro hc h₁ h₂
    obtain ⟨name, hname⟩ := Option.ne_none_iff_exists'.mp hc.bleName
    obtain ⟨uuid, huuid⟩ := Option.ne_none_iff_exists'.mp hc.advServerUuid
    rw [advertised_iBleInitAdv, advertised_iBleInitAdv]
    simp [hname, huuid, hc.txPower, hc.appearance, hc.manufacturerId]

/-- A configuration without a name is advertised with the name of the one before. -/
theorem name_survives :
    (iBleInitAdv { AdvContent.full with bleName := none } (adAfter [.full])).advertised.localName =
        some [114, 107] ∧
      (iBleInitAdv { AdvContent.full with bleName := none } (adAfter [])).advertised.localName =
        none :=
  ⟨rfl, rfl⟩

end ConnectApp.Bluez
