import Confetti.Configuration.NftConfiguration
import Confetti.Configuration.ReserveConfiguration

/-! Both configuration words are faithful codecs of their fields, and all their readers
agree. -/
namespace Confetti
open Outcome

section Codec

variable {Word ι : Type} {Value : ι → Type}

/-- A setter refuses exactly what its field cannot hold; whatever it accepts is read back,
every other field is read as before, and no bit outside of the field's own changes. -/
structure FaithfulCodec (data : Word → BitVec 256) (mask : ι → BitVec 256)
    (Valid : ∀ field, Value field → Prop)
    (set : Word → ∀ field, Value field → Except Revert Word)
    (get : Word → ∀ field, Value field) : Prop where
  reverts : ∀ self field v, (∃ e, set self field v = .error e) ↔ ¬Valid field v
  own : ∀ self field v self', set self field v = .ok self' → get self' field = v
  others : ∀ self field v self', set self field v = .ok self' → ∀ other, other ≠ field →
    get self' other = get self other
  bits : ∀ self field v self', set self field v = .ok self' → ∀ n,
    (mask field).getLsbD n = true → (data self').getLsbD n = (data self).getLsbD n

theorem faithful_of_coding [DecidableEq ι] {L : BitField.Layout 256 ι}
    (C : BitField.Coding L Value) {data : Word → BitVec 256} {word : BitVec 256 → Word}
    {set : Word → ∀ field, Value field → Except Revert Word} {get : Word → ∀ field, Value field}
    (hdata : ∀ bits, data (word bits) = bits)
    (hget : ∀ self field, get self field = C.get field (data self))
    (hset : ∀ self field v self', set self field v = .ok self' ↔
      C.Fits field v ∧ self' = word (C.set field v (data self))) :
    FaithfulCodec data L.mask C.Fits set get where
  reverts := by
    intro self field v
    constructor
    · rintro ⟨e, herror⟩ hfits
      have hok := (hset self field v _).mpr ⟨hfits, rfl⟩
      rw [herror] at hok
      cases hok
    · intro hfits
      cases hrun : set self field v with
      | error e => exact ⟨e, rfl⟩
      | ok self' => exact absurd ((hset self field v self').mp hrun).1 hfits
  own := by
    intro self field v self' h
    obtain ⟨hfits, rfl⟩ := (hset self field v self').mp h
    rw [hget, hdata]
    exact C.get_set_self hfits
  others := by
    intro self field v self' h other hother
    obtain ⟨hfits, rfl⟩ := (hset self field v self').mp h
    rw [hget, hget, hdata]
    exact C.get_set_of_ne hfits hother
  bits := by
    intro self field v self' h n hkept
    obtain ⟨hfits, rfl⟩ := (hset self field v self').mp h
    rw [hdata]
    exact C.getLsbD_set hfits hkept

end Codec

/-- The grouped and the memory getters return what the single getters do. -/
structure NftConfigurationMap.ReadersAgree (self : NftConfigurationMap) : Prop where
  flags : self.getFlags = (self.getActive, self.getFrozen)
  flagsMemory : self.getFlagsMemory = (self.getActive, self.getFrozen)
  collateralParams : self.getCollateralParams =
    (self.getLtv, self.getLiquidationThreshold, self.getLiquidationBonus)
  collateralParamsMemory : self.getCollateralParamsMemory =
    (self.getLtv, self.getLiquidationThreshold, self.getLiquidationBonus)
  buyItNowParams : self.getBuyItNowParams = (self.getRedeemDuration, self.getBuyItNowDuration,
    self.getRedeemFine, self.getRedeemThreshold)
  buyItNowParamsMemory : self.getBuyItNowParamsMemory = (self.getRedeemDuration,
    self.getBuyItNowDuration, self.getRedeemFine, self.getRedeemThreshold)
  minBuyItNowFineMemory : self.getMinBuyItNowFineMemory = self.getMinBuyItNowFine

structure ReserveConfigurationMap.ReadersAgree (self : ReserveConfigurationMap) : Prop where
  flags : self.getFlags = (self.getActive, self.getFrozen, self.getBorrowingEnabled,
    self.getStableRateBorrowingEnabled)
  flagsMemory : self.getFlagsMemory = (self.getActive, self.getFrozen, self.getBorrowingEnabled,
    self.getStableRateBorrowingEnabled)
  params : self.getParams = (self.getLtv, self.getLiquidationThreshold, self.getLiquidationBonus,
    self.getDecimals, self.getReserveFactor)
  paramsMemory : self.getParamsMemory = (self.getLtv, self.getLiquidationThreshold,
    self.getLiquidationBonus, self.getDecimals, self.getReserveFactor)

theorem NftConfigurationMap.faithful : FaithfulCodec NftConfigurationMap.data layout.mask
    Field.Valid NftConfigurationMap.set NftConfigurationMap.get :=
  faithful_of_coding coding (fun _ => rfl) (fun _ => get_eq) fun _ field v _ => set_eq_ok field v

theorem ReserveConfigurationMap.faithful : FaithfulCodec ReserveConfigurationMap.data layout.mask
    Field.Valid ReserveConfigurationMap.set ReserveConfigurationMap.get :=
  faithful_of_coding coding (fun _ => rfl) (fun _ => get_eq) fun _ field v _ => set_eq_ok field v

theorem configurations_faithful :
    (FaithfulCodec NftConfigurationMap.data NftConfigurationMap.layout.mask
        NftConfigurationMap.Field.Valid NftConfigurationMap.set NftConfigurationMap.get ∧
      ∀ self : NftConfigurationMap, self.ReadersAgree) ∧
    (FaithfulCodec ReserveConfigurationMap.data ReserveConfigurationMap.layout.mask
        ReserveConfigurationMap.Field.Valid ReserveConfigurationMap.set
          ReserveConfigurationMap.get ∧
      ∀ self : ReserveConfigurationMap, self.ReadersAgree) := by
  refine ⟨⟨NftConfigurationMap.faithful, fun self => ?_⟩,
    ReserveConfigurationMap.faithful, fun self => ?_⟩
  · exact ⟨rfl, rfl, rfl, rfl, rfl, rfl, rfl⟩
  · exact ⟨rfl, rfl, rfl, rfl⟩

end Confetti
