import Mathlib.Logic.Function.Basic
import Confetti.Types.Uint256

/-! The CryptoPunks market, as far as it moves punks: transfers and purchases. What it
owes to sellers and outbid bidders stays in `pendingWithdrawals`. -/
namespace Confetti
open Outcome

structure PunkOffer where
  isForSale : Bool
  seller : Address
  minValue : Nat
  onlySellTo : Address
  deriving DecidableEq, Repr

structure PunkBid where
  hasBid : Bool
  bidder : Address
  value : Nat
  deriving DecidableEq, Repr

structure CryptoPunks where
  allPunksAssigned : Bool
  punkIndexToAddress : Nat → Address
  balanceOf : Address → Nat
  punksOfferedForSale : Nat → PunkOffer
  punkBids : Nat → PunkBid
  pendingWithdrawals : Address → Nat

namespace CryptoPunks

variable (self : CryptoPunks)

def checkOwner (caller : Address) (punkIndex : Nat) : Except Revert Unit := do
  require (self.allPunksAssigned = true) (.message "CryptoPunksMarket: not allPunksAssigned")
  require (self.punkIndexToAddress punkIndex = caller) (.message "CryptoPunksMarket: not owner")
  require (punkIndex < 10000) (.message "CryptoPunksMarket: punkIndex overflow")

def punkNoLongerForSale (caller : Address) (punkIndex : Nat) : Except Revert CryptoPunks := do
  self.checkOwner caller punkIndex
  pure { self with
    punksOfferedForSale := Function.update self.punksOfferedForSale punkIndex
      ⟨false, caller, 0, .zero⟩ }

def handed (sender recipient : Address) (punkIndex : Nat) : Except Revert CryptoPunks := do
  let taken ← Uint256.sub (self.balanceOf sender) 1
  let balanceOf := Function.update self.balanceOf sender taken
  let given ← Uint256.add (balanceOf recipient) 1
  pure { self with
    punkIndexToAddress := Function.update self.punkIndexToAddress punkIndex recipient
    balanceOf := Function.update balanceOf recipient given }

/-- A bid of the new owner is refunded; any other bid can stay in place. -/
def refundBid (owner : Address) (punkIndex : Nat) : Except Revert CryptoPunks := do
  let bid := self.punkBids punkIndex
  if bid.bidder = owner then do
    let pending ← Uint256.add (self.pendingWithdrawals owner) bid.value
    pure { self with
      pendingWithdrawals := Function.update self.pendingWithdrawals owner pending
      punkBids := Function.update self.punkBids punkIndex ⟨false, .zero, 0⟩ }
  else pure self

def transferPunk (caller recipient : Address) (punkIndex : Nat) : Except Revert CryptoPunks := do
  self.checkOwner caller punkIndex
  let self ← (if (self.punksOfferedForSale punkIndex).isForSale = true then
      self.punkNoLongerForSale caller punkIndex
    else pure self)
  let self ← self.handed caller recipient punkIndex
  self.refundBid recipient punkIndex

def buyPunk (caller : Address) (value punkIndex : Nat) : Except Revert CryptoPunks := do
  require (self.allPunksAssigned = true) (.message "CryptoPunksMarket: not allPunksAssigned")
  require (punkIndex < 10000) (.message "CryptoPunksMarket: punkIndex overflow")
  let offer := self.punksOfferedForSale punkIndex
  require (offer.isForSale = true) (.message "CryptoPunksMarket: punk not actually for sale")
  require (offer.onlySellTo = .zero ∨ offer.onlySellTo = caller)
    (.message "CryptoPunksMarket: punk not supposed to be sold to this user")
  require (offer.minValue ≤ value) (.message "CryptoPunksMarket: Didn't send enough ETH")
  require (offer.seller = self.punkIndexToAddress punkIndex)
    (.message "CryptoPunksMarket: Seller no longer owner of punk")
  let self ← self.handed offer.seller caller punkIndex
  let self ← self.punkNoLongerForSale caller punkIndex
  let pending ← Uint256.add (self.pendingWithdrawals offer.seller) value
  let self := { self with
    pendingWithdrawals := Function.update self.pendingWithdrawals offer.seller pending }
  self.refundBid caller punkIndex

variable {self} {self' : CryptoPunks} {caller recipient owner : Address} {value punkIndex : Nat}

theorem checkOwner_spec {u : Unit} (h : self.checkOwner caller punkIndex = .ok u) :
    self.punkIndexToAddress punkIndex = caller := by
  simp only [checkOwner, bind_eq_ok, require_eq_ok, exists_const] at h
  exact h.2.1

theorem punkNoLongerForSale_owners
    (h : self.punkNoLongerForSale caller punkIndex = .ok self') :
    self'.punkIndexToAddress = self.punkIndexToAddress := by
  obtain ⟨_, -, rfl⟩ := bind_pure_eq_ok.mp h
  rfl

theorem handed_owners (h : self.handed caller recipient punkIndex = .ok self') :
    self'.punkIndexToAddress = Function.update self.punkIndexToAddress punkIndex recipient := by
  obtain ⟨_, -, h⟩ := bind_eq_ok.mp h
  obtain ⟨_, -, rfl⟩ := bind_pure_eq_ok.mp h
  rfl

theorem refundBid_owners (h : self.refundBid owner punkIndex = .ok self') :
    self'.punkIndexToAddress = self.punkIndexToAddress := by
  simp only [refundBid] at h
  split at h
  · obtain ⟨_, -, rfl⟩ := bind_pure_eq_ok.mp h
    rfl
  · obtain rfl := pure_eq_ok.mp h
    rfl

theorem transferPunk_owners (h : self.transferPunk caller recipient punkIndex = .ok self') :
    self.punkIndexToAddress punkIndex = caller ∧
      self'.punkIndexToAddress = Function.update self.punkIndexToAddress punkIndex recipient := by
  obtain ⟨_, hcheck, h⟩ := bind_eq_ok.mp h
  obtain ⟨withdrawn, hwithdrawn, h⟩ := bind_eq_ok.mp h
  obtain ⟨moved, hmoved, hrefund⟩ := bind_eq_ok.mp h
  have hsame : withdrawn.punkIndexToAddress = self.punkIndexToAddress := by
    split at hwithdrawn
    · exact punkNoLongerForSale_owners hwithdrawn
    · obtain rfl := pure_eq_ok.mp hwithdrawn
      rfl
  refine ⟨checkOwner_spec hcheck, ?_⟩
  rw [refundBid_owners hrefund, handed_owners hmoved, hsame]

theorem buyPunk_owners (h : self.buyPunk caller value punkIndex = .ok self') :
    self'.punkIndexToAddress = Function.update self.punkIndexToAddress punkIndex caller := by
  simp only [buyPunk, bind_eq_ok, require_eq_ok, exists_const] at h
  obtain ⟨-, -, -, -, -, -, moved, hmoved, withdrawn, hwithdrawn, pending, -, hrefund⟩ := h
  rw [refundBid_owners hrefund]
  change withdrawn.punkIndexToAddress = _
  rw [punkNoLongerForSale_owners hwithdrawn, handed_owners hmoved]

end CryptoPunks

end Confetti
