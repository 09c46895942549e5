import Confetti.Invariants.Shortfall
import Confetti.Protocol.Deployment

/-! Whether a loan can be put on sale in the block it was taken in. The borrow compares
the debt before it is scaled, the sale the debt after scaling and back, so the roundings
of both can lift a loan over its threshold. -/
namespace Confetti
open Outcome TransitionSystem HalfUp GenericLogic

/-- The most scaled units whose value stays within a threshold. -/
def unitsWithin (threshold vi : Nat) : Nat := (threshold * RAY + HALF_RAY - 1) / vi

/-- A borrowed amount fits next to a scaled debt: it stays half a unit below what the
threshold leaves room for. -/
def Fits (scaledBefore amount vi threshold : Nat) : Prop :=
  amount * RAY + vi / 2 < (unitsWithin threshold vi + 1 - scaledBefore) * vi

instance (scaledBefore amount vi threshold : Nat) :
    Decidable (Fits scaledBefore amount vi threshold) := inferInstanceAs (Decidable (_ < _))

/-- What an NFT already owes. -/
def State.scaledBefore (s : State) (nftAsset : Address) (nftTokenId : Nat) : Nat :=
  if s.loanStore.nftToLoanIds nftAsset nftTokenId = 0 then 0
  else (s.loanOf nftAsset nftTokenId).scaledAmount

/-- The amount fits below the threshold of its NFT, at the prices of the moment. -/
def BorrowFits (s : State) (asset : Address) (amount : Nat) (nftAsset : Address)
    (nftTokenId : Nat) : Prop :=
  ∀ vi, s.nextBorrowIndex asset = .ok vi → ∀ prices, salePrices s asset nftAsset = .ok prices →
    Fits (s.scaledBefore nftAsset nftTokenId) amount vi prices.1

instance (s : State) (asset : Address) (amount : Nat) (nftAsset : Address) (nftTokenId : Nat) :
    Decidable (BorrowFits s asset amount nftAsset nftTokenId) :=
  inferInstanceAs (Decidable (∀ vi, _ = Except.ok vi → ∀ prices, _ = Except.ok prices →
    Fits _ amount vi (Prod.fst prices)))

/-- The check that opens a sale fails for an NFT's loan: its debt is not above the threshold
price. -/
def SafeFromSale (s : State) (nftAsset : Address) (nftTokenId : Nat) : Prop :=
  ∀ prices, calculateLoanLiquidatePrice s (s.loanStore.nftToLoanIds nftAsset nftTokenId)
      (s.loanOf nftAsset nftTokenId).reserveAsset nftAsset = .ok prices → ¬prices.1 > prices.2.1

instance (s : State) (nftAsset : Address) (nftTokenId : Nat) :
    Decidable (SafeFromSale s nftAsset nftTokenId) :=
  inferInstanceAs (Decidable (∀ prices : Nat × Nat × Nat, _ = Except.ok prices →
    ¬prices.1 > prices.2.1))

variable {s s' : State} {asset nftAsset onBehalfOf : Address}
  {n amount nftTokenId vi threshold : Nat}

/-- Scaling a debt and back stays within a threshold exactly if the amount fits. -/
theorem fits_iff {scaledBefore : Nat} (hvi : 0 < vi) :
    halfUp ((scaledBefore + halfUp (amount * RAY) vi) * vi) RAY ≤ threshold ↔
      Fits scaledBefore amount vi threshold := by
  have hhalves : RAY = 2 * HALF_RAY := by decide
  have hpos : 0 < HALF_RAY := by decide
  have hwithin : halfUp ((scaledBefore + halfUp (amount * RAY) vi) * vi) RAY ≤ threshold ↔
      scaledBefore + halfUp (amount * RAY) vi ≤ unitsWithin threshold vi := by
    unfold unitsWithin
    rw [halfUp_le_iff RAY_pos, Nat.le_div_iff_mul_le hvi]
    have hsucc : (threshold + 1) * RAY = threshold * RAY + RAY := by ring
    rw [hsucc]
    omega
  unfold Fits
  rw [hwithin, ← halfUp_lt_iff hvi]
  omega

structure LoanGrown (s s' : State) (asset nftAsset : Address) (nftTokenId scaled : Nat) :
    Prop where
  registered : s'.loanStore.nftToLoanIds nftAsset nftTokenId ≠ 0
  reserveAsset : (s'.loanOf nftAsset nftTokenId).reserveAsset = asset
  scaledAmount : (s'.loanOf nftAsset nftTokenId).scaledAmount =
    s.scaledBefore nftAsset nftTokenId + scaled

theorem BorrowEffect.grown {p : ExecuteBorrowParams} {li scaled : Nat} (hb : BookValid s)
    (h : BorrowEffect s p s' li vi scaled) :
    LoanGrown s s' p.asset p.nftAsset p.nftTokenId scaled := by
  rcases h.book with hopened | htopped
  · have hid : s'.loanStore.nftToLoanIds p.nftAsset p.nftTokenId = s.loanStore.loanIdTracker := by
      rw [hopened.loanStore, LoanStore.opened_nftToLoanIds, if_pos ⟨rfl, rfl⟩]
    have hloan : s'.loanOf p.nftAsset p.nftTokenId = borrowedLoan s p scaled := by
      unfold State.loanOf
      rw [hid, hopened.loanStore, LoanStore.opened_loans, Function.update_self]
    have hnone : s.scaledBefore p.nftAsset p.nftTokenId = 0 := if_pos hopened.unregistered
    refine ⟨?_, by rw [hloan]; rfl, ?_⟩
    · rw [hid]
      exact Nat.ne_of_gt hb.tracker_pos
    · rw [hloan, hnone, Nat.zero_add]
      rfl
  · have hid : s'.loanStore.nftToLoanIds p.nftAsset p.nftTokenId =
        s.loanStore.nftToLoanIds p.nftAsset p.nftTokenId := by
      rw [htopped.replaced.loanStore, LoanStore.withLoan_nftToLoanIds]
    have hsome : s.scaledBefore p.nftAsset p.nftTokenId =
      (s.loanOf p.nftAsset p.nftTokenId).scaledAmount := if_neg htopped.registered
    have hloan : s'.loanOf p.nftAsset p.nftTokenId = { s.loanOf p.nftAsset p.nftTokenId with
        scaledAmount := (s.loanOf p.nftAsset p.nftTokenId).scaledAmount + scaled } := by
      unfold State.loanOf
      rw [hid, htopped.replaced.loanStore, LoanStore.withLoan_loans, Function.update_self]
      rfl
    refine ⟨?_, ?_, ?_⟩
    · rw [hid]
      exact htopped.registered
    · rw [hloan]
      exact htopped.reserveAsset
    · rw [hloan, hsome]

/-- After a borrow the sale check fails exactly if the amount fitted below the threshold. -/
theorem fresh_loan_safe_iff (hs : Reachable operations s)
    (h : LendPool.borrow s (.account n) asset amount nftAsset nftTokenId onBehalfOf = .ok s') :
    SafeFromSale s' nftAsset nftTokenId ↔ BorrowFits s asset amount nftAsset nftTokenId := by
  have hreg := regular_of_reachable hs
  have hstep : operations.step s (.user (.borrow n asset amount nftAsset nftTokenId onBehalfOf)) =
    .ok s' := h
  have hsolvent := solvent_of_reachable (hs.step hstep)
  obtain ⟨li, vi, scaled, heffect⟩ :=
    borrow_effect hreg.sound.wired (LendPool.of_whenNotPaused h)
  have hgrown := heffect.grown hreg.book
  have hnext := heffect.step.next
  obtain ⟨total, htotal⟩ := heffect.total
  have hunits := (hsolvent.scaledAmount_le hgrown.registered).2
  rw [hgrown.reserveAsset, hgrown.scaledAmount] at hunits
  have hdebt : LendPoolLoan.borrowAmount s' (s'.loanOf nftAsset nftTokenId) =
      .ok (halfUp ((s.scaledBefore nftAsset nftTokenId + scaled) * vi) RAY) := by
    rw [heffect.step.borrowAmount _ hgrown.reserveAsset, hgrown.scaledAmount]
    exact rayMul_of_le hunits htotal
  obtain ⟨hne, -, rfl⟩ := rayDiv_eq_ok.mp heffect.scaled_eq
  have hfits : ∀ threshold, halfUp ((s.scaledBefore nftAsset nftTokenId +
      halfUp (amount * RAY) vi) * vi) RAY ≤ threshold ↔
        Fits (s.scaledBefore nftAsset nftTokenId) amount vi threshold :=
    fun threshold => fits_iff (Nat.pos_of_ne_zero hne)
  constructor
  · intro hsafe vi' hnext' prices hprices
    obtain rfl := Except.ok.inj (hnext.symm.trans hnext')
    rw [← hfits]
    apply Nat.le_of_not_lt
    apply hsafe (_, prices.1, prices.2)
    rw [hgrown.reserveAsset]
    exact liquidatePrice_eq_ok.mpr ⟨hdebt, heffect.step.salePrices.mpr (salePrices_eq_ok.mp hprices)⟩
  · rintro hall ⟨debt, threshold, liquidate⟩ hprices
    rw [hgrown.reserveAsset] at hprices
    obtain ⟨hshown, hsale⟩ := liquidatePrice_eq_ok.mp hprices
    obtain rfl := Except.ok.inj (hdebt.symm.trans hshown)
    apply Nat.not_lt_of_le
    rw [hfits]
    exact hall vi hnext (threshold, liquidate)
      (salePrices_eq_ok.mpr (heffect.step.salePrices.mp hsale))

/-- Five years after a first loan, account 2 brings a second NFT to a market. -/
def secondVisit (m : Market) (nftPrice : Nat) : State :=
  replayed operations sampleWorld (m.lending (40 * 10 ^ 18) ++ m.minting 2 8 ++
    [.world (.tick (5 * 365 * 86400)), .world (.nftPrice m.nftAsset (.ok nftPrice))])

theorem secondVisit_reachable (m : Market) (nftPrice : Nat) :
    Reachable operations (secondVisit m nftPrice) := fresh_reachable (by decide) _ _ _ _

def secondBorrow (m : Market) (nftPrice : Nat) : Except Revert State :=
  LendPool.borrow (secondVisit m nftPrice) (.account 2) m.asset (30 * 10 ^ 18) m.nftAsset 8
    (.account 2)

/-- A loan of less than a third of its NFT. -/
theorem fresh_loan_safe_low : ∃ s', secondBorrow sampleMarket (100 * 10 ^ 18) = .ok s' ∧
    SafeFromSale s' sampleMarket.nftAsset 8 := by
  have hcheck : passes (secondBorrow sampleMarket (100 * 10 ^ 18)) (fun _ => true) = true := by
    decide +kernel
  obtain ⟨s', h, -⟩ := exists_of_passes hcheck
  exact ⟨s', h, (fresh_loan_safe_iff (secondVisit_reachable _ _) h).mpr (by decide +kernel)⟩

/-- What may be borrowed is all that the threshold allows. -/
def edgeMarket : Market := { sampleMarket with ltv := 6000, liquidationThreshold := 6000 }

/-- A loan of the full 60 percent owes one unit more than that, and an offer for its NFT
is accepted at once. -/
theorem fresh_loan_sold :
    (¬∀ s s' n asset amount nftAsset nftTokenId onBehalfOf, Reachable operations s →
      LendPool.borrow s (.account n) asset amount nftAsset nftTokenId onBehalfOf = .ok s' →
        SafeFromSale s' nftAsset nftTokenId) ∧
      ∃ s' offered, secondBorrow edgeMarket (50 * 10 ^ 18) = .ok s' ∧
        LendPool.buyItNow s' (.account 3) edgeMarket.nftAsset 8 (50 * 10 ^ 18) (.account 3) =
          .ok offered := by
  have hcheck : passes (secondBorrow edgeMarket (50 * 10 ^ 18)) (fun s' =>
      !decide (SafeFromSale s' edgeMarket.nftAsset 8) &&
        passes (LendPool.buyItNow s' (.account 3) edgeMarket.nftAsset 8 (50 * 10 ^ 18)
          (.account 3)) fun _ => true) = true := by decide +kernel
  obtain ⟨s', hborrow, hs'⟩ := exists_of_passes hcheck
  obtain ⟨hexposed, hoffer⟩ := Bool.and_eq_true_iff.mp hs'
  obtain ⟨offered, hoffered, -⟩ := exists_of_passes hoffer
  refine ⟨fun h => ?_, s', offered, hborrow, hoffered⟩
  have hsafe := h _ s' 2 _ _ _ _ _ (secondVisit_reachable edgeMarket (50 * 10 ^ 18)) hborrow
  rw [decide_eq_true hsafe] at hexposed
  cases hexposed

end Confetti
