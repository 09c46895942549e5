import Confetti.Gateway.PunkGateway
import Confetti.Gateway.WETHPasses

/-! The punk gateway, call by call: punks pass through it on their way to the pool and back,
and so do the payments that go with them. -/
namespace Confetti
open Outcome

/-- A stretch in which NFTs and punks change hands, and nothing else does. -/
structure Handover (setup : GatewaySetup) (w w' : World) : Prop where
  segment : Segment setup w w' 0 0
  state : ∃ erc721, w'.state = { w.state with erc721 }

variable {setup : GatewaySetup} {w₀ w w' w'' : World} {δ : Sheet} {payer a : Address}
  {msgSender msgValue amount punkIndex nftTokenId : Nat} {nftAsset onBehalfOf : Address}

namespace Handover

theorem refl (ho : Orderly setup w) : Handover setup w w := ⟨Segment.refl ho, _, rfl⟩

theorem trans (h : Handover setup w w') (h' : Handover setup w' w'') : Handover setup w w'' := by
  refine ⟨(h.segment.trans h'.segment).congr (add_zero 0) (add_zero 0), ?_⟩
  obtain ⟨_, hstate⟩ := h.state
  obtain ⟨erc721, hstate'⟩ := h'.state
  refine ⟨erc721, ?_⟩
  rw [hstate', hstate]

theorem orderly (h : Handover setup w w') : Orderly setup w' := h.segment.orderly

theorem repayable (h : Handover setup w w') :
    Repayable setup w'.state nftAsset nftTokenId ↔ Repayable setup w.state nftAsset nftTokenId := by
  obtain ⟨_, hstate⟩ := h.state
  rw [hstate]
  rfl

theorem of_state (ho : Orderly setup w') (hcalls : w'.poolCalls = w.poolCalls)
    (hether : w'.ether = w.ether) (hstate : ∃ erc721, w'.state = { w.state with erc721 }) :
    Handover setup w w' := by
  refine ⟨Segment.of_moved ho hcalls ?_, hstate⟩
  obtain ⟨_, hstate⟩ := hstate
  unfold World.holdings
  rw [hstate, hether, holdings_congr rfl rfl]
  exact (add_zero _).symm

theorem of_nft {call : TokenCall} (ho : Orderly setup w) (h : w.call (.token call) = .ok w')
    (hnft : ∀ s', call.run w.state = .ok s' → ∃ erc721, s' = { w.state with erc721 }) :
    Handover setup w w' := by
  have horderly := ho.of_token h
  obtain ⟨s', hrun, rfl⟩ := World.call_eq_ok.mp h
  exact of_state horderly rfl rfl (hnft s' hrun)

theorem of_punks {punks : CryptoPunks} (ho : Orderly setup w) (h : w' = { w with punks }) :
    Handover setup w w' := by
  subst h
  exact of_state (ho.of_same rfl) rfl rfl ⟨_, rfl⟩

end Handover

/-- The pool has taken `c` from the punk gateway, and `payer` has paid for it; the gateways
hold the things they held. -/
structure Traded (setup : GatewaySetup) (w w' : World) (c : Coin → ℤ) (payer : Address) : Prop where
  segment : Segment setup w w' (place (.account setup.punkGateway) c - place payer c)
    (-place (.account setup.punkGateway) c)
  held : Held setup [] w w'

variable {c c' : Coin → ℤ} {asset : Address}

theorem Traded.orderly (h : Traded setup w w' c payer) : Orderly setup w' := h.segment.orderly

theorem Traded.refl (ho : Orderly setup w) : Traded setup w w 0 payer := by
  refine ⟨(Segment.refl ho).congr ?_ ?_, Held.refl⟩
  · rw [place_zero, place_zero, sub_zero]
  · rw [place_zero, neg_zero]

theorem Traded.trans (h : Traded setup w w' c payer) (h' : Traded setup w' w'' c' payer) :
    Traded setup w w'' (c + c') payer := by
  refine ⟨(h.segment.trans h'.segment).congr ?_ ?_, h.held.trans h'.held⟩
  · rw [place_add, place_add]
    abel
  · rw [place_add]
    abel

theorem Traded.returned (h : Traded setup w w' c payer) (h' : Handover setup w' w'')
    (hheld : Held setup [] w' w'') : Traded setup w w'' c payer :=
  ⟨(h.segment.trans h'.segment).congr (add_zero _) (add_zero _), h.held.trans hheld⟩

theorem Segment.traded {δ γ : Sheet} {n : ℤ} (h : Segment setup w w' δ γ)
    (hheld : Held setup [] w w')
    (hδ : δ = entry (.account setup.punkGateway) (.token asset) n - entry payer (.token asset) n)
    (hγ : γ = -entry (.account setup.punkGateway) (.token asset) n) :
    Traded setup w w' (Pi.single (.token asset) n) payer := ⟨h.congr hδ hγ, hheld⟩

theorem Passed.returned {n : ℤ} (h : Passed setup w w' n payer) (h' : Handover setup w' w'')
    (hheld : Held setup [] w' w'') : Passed setup w w'' n payer :=
  ⟨(h.segment.trans h'.segment).congr (add_zero _) (add_zero _), h.held.trans hheld⟩

namespace PunkGateway
open LendPoolLoan

section Punks

variable {caller : Nat} {recipient : Address}

theorem transferPunk_spec (ho : Orderly setup w)
    (h : w.transferPunk caller recipient punkIndex = .ok w') :
    Handover setup w w' ∧ w.owner (.punk punkIndex) = .account caller ∧
      w'.owner = Function.update w.owner (.punk punkIndex) recipient := by
  obtain ⟨punks, htransfer, rfl⟩ := bind_pure_eq_ok.mp h
  obtain ⟨howner, howners⟩ := CryptoPunks.transferPunk_owners htransfer
  exact ⟨.of_punks ho rfl, howner, owner_of_punk rfl howners⟩

theorem buyPunk_spec (ho : Orderly setup w) (h : w.buyPunk caller punkIndex = .ok w') :
    Handover setup w w' ∧
      w'.owner = Function.update w.owner (.punk punkIndex) (.account caller) := by
  obtain ⟨punks, hbuy, rfl⟩ := bind_pure_eq_ok.mp h
  exact ⟨.of_punks ho rfl, owner_of_punk rfl (CryptoPunks.buyPunk_owners hbuy)⟩

theorem mintWrapped_spec (ho : Orderly setup w) (h : w.mintWrapped setup punkIndex = .ok w') :
    Handover setup w w' ∧ ∃ m : World,
      m.owner = Function.update w.owner (.punk punkIndex) setup.punkAsset ∧
      m.owner (.nft setup.punkAsset punkIndex) = .zero ∧
      w'.owner = Function.update m.owner (.nft setup.punkAsset punkIndex)
        (.account setup.punkGateway) := by
  obtain ⟨_, -, h⟩ := bind_eq_ok.mp h
  cases htransfer : w.transferPunk setup.proxy setup.punkAsset punkIndex with
  | error e =>
    rw [htransfer] at h
    cases h
  | ok m =>
    rw [htransfer] at h
    obtain ⟨hmoved, -, howner⟩ := transferPunk_spec ho htransfer
    have hminted : Handover setup m w' := by
      apply Handover.of_nft hmoved.orderly h
      intro s' hrun
      obtain ⟨_, -, rfl⟩ := map_eq_ok.mp hrun
      exact ⟨_, rfl⟩
    obtain ⟨_, hrun, rfl⟩ := World.call_eq_ok.mp h
    obtain ⟨nft, hmint, rfl⟩ := map_eq_ok.mp hrun
    obtain ⟨-, hfree, rfl⟩ := ERC721.mint_eq_ok.mp hmint
    exact ⟨hmoved.trans hminted, m, howner, hfree, owner_of_given rfl rfl rfl⟩

theorem burnWrapped_spec (ho : Orderly setup w) (h : w.burnWrapped setup punkIndex = .ok w') :
    Handover setup w w' ∧ ∃ m : World,
      m.owner = Function.update w.owner (.nft setup.punkAsset punkIndex) .zero ∧
      m.owner (.punk punkIndex) = setup.punkAsset ∧
      w'.owner = Function.update m.owner (.punk punkIndex) (.account setup.punkGateway) := by
  obtain ⟨_, -, h⟩ := bind_eq_ok.mp h
  obtain ⟨m, hburn, htransfer⟩ := bind_eq_ok.mp h
  have hburned : Handover setup w m := by
    apply Handover.of_nft ho hburn
    intro s' hrun
    obtain ⟨_, -, rfl⟩ := map_eq_ok.mp hrun
    exact ⟨_, rfl⟩
  obtain ⟨hmoved, hpunk, howner⟩ := transferPunk_spec hburned.orderly htransfer
  have hgone : m.owner = Function.update w.owner (.nft setup.punkAsset punkIndex) .zero := by
    obtain ⟨_, hrun, rfl⟩ := World.call_eq_ok.mp hburn
    obtain ⟨nft, hnft, rfl⟩ := map_eq_ok.mp hrun
    obtain ⟨-, -, rfl⟩ := ERC721.burn_eq_ok.mp hnft
    exact owner_of_given rfl rfl rfl
  exact ⟨hburned.trans hmoved, m, hgone, hpunk, howner⟩

end Punks

/-! ### Into the pool and back -/

theorem not_gateway_zero (setup : GatewaySetup) : ¬setup.IsGateway .zero := by
  rintro (h | h) <;> cases h

theorem not_gateway_wrapper (setup : GatewaySetup) : ¬setup.IsGateway setup.punkAsset := by
  have hnodup := setup.nodup
  simp only [List.nodup_cons, List.mem_cons, not_or] at hnodup
  rintro (h | h)
  · exact hnodup.2.1.2.1 (Address.account.inj h).symm
  · exact hnodup.2.2.1.1 (Address.account.inj h).symm

theorem depositPunk_spec (ho : Orderly setup w) (hsender : ¬setup.IsGateway (.account msgSender))
    (h : depositPunk setup w msgSender punkIndex = .ok w') :
    Handover setup w w' ∧ ∀ things w₀, Held setup things w₀ w →
      Held setup (.nft setup.punkAsset punkIndex :: things) w₀ w' := by
  unfold depositPunk at h
  by_cases hid : getCollateralLoanId w.state setup.punkAsset punkIndex ≠ 0
  · rw [if_pos hid] at h
    obtain rfl := pure_eq_ok.mp h
    refine ⟨.refl ho, fun things w₀ hheld => ?_⟩
    apply hheld.taken _ (Function.update_eq_self (Thing.nft setup.punkAsset punkIndex) _).symm
    rw [ho.in_custody hid]
    exact not_gateway_cNFT setup _
  · rw [if_neg hid] at h
    obtain ⟨_, howner, h⟩ := bind_eq_ok.mp h
    obtain ⟨w₁, hbuy, h⟩ := bind_eq_ok.mp h
    obtain ⟨w₂, htransfer, hmint⟩ := bind_eq_ok.mp h
    obtain ⟨hbought, howner₁⟩ := buyPunk_spec ho hbuy
    obtain ⟨hmoved, -, howner₂⟩ := transferPunk_spec hbought.orderly htransfer
    obtain ⟨hminted, m, howner₃, hfree, howner₄⟩ := mintWrapped_spec hmoved.orderly hmint
    refine ⟨(hbought.trans hmoved).trans hminted, fun things w₀ hheld => ?_⟩
    have hwrapped : Held setup [] w m := by
      have hpunk : ¬setup.IsGateway (w.owner (.punk punkIndex)) := by
        rw [owner_punk, require_eq_ok.mp howner]
        exact hsender
      apply Held.handed hpunk (not_gateway_wrapper setup)
      rw [howner₃, howner₂, howner₁, Function.update_idem, Function.update_idem]
    apply (hheld.trans hwrapped).taken _ howner₄
    rw [hfree]
    exact not_gateway_zero setup

theorem withdrawPunk_spec (ho : Orderly setup w) (hsender : ¬setup.IsGateway (.account msgSender))
    (h : withdrawPunk setup w msgSender punkIndex onBehalfOf = .ok w') :
    Handover setup w w' ∧ Held setup [] w w' := by
  obtain ⟨owner, howner, h⟩ := bind_eq_ok.mp h
  obtain ⟨_, hown, h⟩ := bind_eq_ok.mp h
  obtain ⟨_, hbehalf, h⟩ := bind_eq_ok.mp h
  obtain ⟨w₁, hpull, h⟩ := bind_eq_ok.mp h
  obtain ⟨w₂, hburn, htransfer⟩ := bind_eq_ok.mp h
  obtain rfl : owner = .account msgSender := require_eq_ok.mp hown
  obtain rfl : Address.account msgSender = onBehalfOf := require_eq_ok.mp hbehalf
  have hpulled : Handover setup w w₁ := by
    apply Handover.of_nft ho hpull
    intro s' hrun
    obtain ⟨-, -, -, -, -, rfl⟩ := State.safeTransferNFT_eq_ok.mp hrun
    exact ⟨_, rfl⟩
  have howner₁ : w.owner (.nft setup.punkAsset punkIndex) = .account msgSender ∧
      w₁.owner = Function.update w.owner (.nft setup.punkAsset punkIndex)
        (.account setup.punkGateway) := by
    obtain ⟨_, hrun, rfl⟩ := World.call_eq_ok.mp hpull
    obtain ⟨hfirst, -, -, -, -, rfl⟩ := State.safeTransferNFT_eq_ok.mp hrun
    exact ⟨hfirst, owner_of_given rfl rfl rfl⟩
  obtain ⟨hburned, m, howner₂, hpunk, howner₃⟩ := burnWrapped_spec hpulled.orderly hburn
  obtain ⟨hmoved, -, howner₄⟩ := transferPunk_spec hburned.orderly htransfer
  refine ⟨(hpulled.trans hburned).trans hmoved, ?_⟩
  have hgone : Held setup [] w m := by
    have hnft : ¬setup.IsGateway (w.owner (.nft setup.punkAsset punkIndex)) := by
      rw [howner₁.1]
      exact hsender
    apply Held.handed hnft (not_gateway_zero setup)
    rw [howner₂, howner₁.2, Function.update_idem]
  have hback : Held setup [] m w' := by
    have hwrapper : ¬setup.IsGateway (m.owner (.punk punkIndex)) := by
      rw [hpunk]
      exact not_gateway_wrapper setup
    apply Held.handed hwrapper hsender
    rw [howner₄, howner₃, Function.update_idem]
  exact hgone.trans hback

/-! ### Payments in the token of a reserve -/

theorem borrowItem_passes (ho : Orderly setup w) (hsender : ¬setup.IsGateway (.account msgSender))
    (h : borrowItem setup w msgSender onBehalfOf asset amount punkIndex = .ok w') :
    ∃ c, Traded setup w w' c onBehalfOf := by
  obtain ⟨w₁, hdeposit, h⟩ := bind_eq_ok.mp h
  obtain ⟨w₂, hborrow, hpay⟩ := bind_eq_ok.mp h
  obtain ⟨hdeposited, htaken⟩ := depositPunk_spec ho hsender hdeposit
  obtain ⟨hborrowed, howner⟩ := borrow_segment hdeposited.orderly hborrow
  have hpaid := transfer_step hborrowed.orderly hpay
  have hplaced : Held setup [] w w₂ :=
    (htaken [] w Held.refl).placed (not_gateway_cNFT setup _) howner
  refine ⟨Pi.single (.token asset) (-(amount : ℤ)), ?_⟩
  apply ((hdeposited.segment.trans hborrowed).trans hpaid.segment).traded
    (hplaced.trans hpaid.held)
  · rw [entry_neg, entry_neg]
    abel
  · rw [entry_neg]
    abel

theorem borrow_passes (ho : Orderly setup w) (hsender : ¬setup.IsGateway (.account msgSender))
    (h : borrow setup w msgSender asset amount punkIndex onBehalfOf = .ok w') :
    ∃ c, Traded setup w w' c onBehalfOf := by
  obtain ⟨_, -, hitem⟩ := bind_eq_ok.mp h
  exact borrowItem_passes ho hsender hitem

private theorem borrowItems_passes (hsender : ¬setup.IsGateway (.account msgSender))
    (items : List (Address × Nat × Nat)) : ∀ w, Orderly setup w →
      items.foldlM (fun w item =>
        borrowItem setup w msgSender onBehalfOf item.1 item.2.1 item.2.2) w = .ok w' →
      ∃ c, Traded setup w w' c onBehalfOf := by
  induction items with
  | nil =>
    intro w ho h
    obtain rfl := pure_eq_ok.mp h
    exact ⟨0, Traded.refl ho⟩
  | cons item items ih =>
    intro w ho h
    rw [List.foldlM_cons] at h
    obtain ⟨m, hitem, hrest⟩ := bind_eq_ok.mp h
    obtain ⟨c, hlent⟩ := borrowItem_passes ho hsender hitem
    obtain ⟨c', hothers⟩ := ih m hlent.orderly hrest
    exact ⟨c + c', hlent.trans hothers⟩

theorem batchBorrow_passes {assets : List Address} {amounts punkIndexs : List Nat}
    (ho : Orderly setup w) (hsender : ¬setup.IsGateway (.account msgSender))
    (h : batchBorrow setup w msgSender assets amounts punkIndexs onBehalfOf = .ok w') :
    ∃ c, Traded setup w w' c onBehalfOf := by
  obtain ⟨_, -, h⟩ := bind_eq_ok.mp h
  obtain ⟨_, -, h⟩ := bind_eq_ok.mp h
  obtain ⟨_, -, hitems⟩ := bind_eq_ok.mp h
  exact borrowItems_passes hsender _ w ho hitems

theorem repayItem_passes {r : World × Nat × Bool} (ho : Orderly setup w)
    (hsender : ¬setup.IsGateway (.account msgSender))
    (hrepayable : Repayable setup w.state setup.punkAsset punkIndex)
    (h : repayItem setup w msgSender punkIndex amount = .ok r) :
    (∃ c, Traded setup w r.1 c (.account msgSender)) ∧
      ∀ other otherId, Repayable setup w.state other otherId →
        Repayable setup r.1.state other otherId := by
  unfold repayItem at h
  obtain ⟨_, hid, h⟩ := bind_eq_ok.mp h
  obtain ⟨shown, hshown, h⟩ := bind_eq_ok.mp h
  revert h
  generalize hpulled : (if shown.2 < amount then shown.2 else amount) = pulled
  intro h
  obtain ⟨m, hpull, h⟩ := bind_eq_ok.mp h
  obtain ⟨⟨w₁, paid, closed⟩, hrepay, h⟩ := bind_eq_ok.mp h
  obtain ⟨w₂, hback, hpure⟩ := bind_eq_ok.mp h
  obtain rfl := pure_eq_ok.mp hpure
  rw [getCollateralLoanId_eq, getLoan_eq_loanOf] at hpull
  have hcash := transferFrom_step ho hpull
  obtain ⟨s', li, vi, debt, scaled, heffect, -, hcalled, hsegment, hheld⟩ :=
    repay_segment hcash.orderly hrepay
  have hrepayable' : Repayable setup m.state setup.punkAsset punkIndex :=
    hcash.repayable.mpr hrepayable
  have hids : m.state.loanStore.nftToLoanIds setup.punkAsset punkIndex =
      w.state.loanStore.nftToLoanIds setup.punkAsset punkIndex := by
    obtain ⟨_, _, _, hstate⟩ := hcash.state
    rw [hstate]
  have hdebt : shown.2 = debt := by
    apply heffect.shown_eq hcash.orderly hrepayable'
    rw [hids, hcash.borrowAmount]
    exact hshown
  have hpaid : pulled = paid := by
    rw [heffect.paid_eq, ← hpulled, hdebt]
    change _ = min (if debt < amount then debt else amount) debt
    split
    · exact (Nat.min_self debt).symm
    · exact (Nat.min_eq_left (Nat.le_of_not_lt ‹_›)).symm
  have hrepaid : Traded setup w w₁
      (Pi.single (.token (w.state.loanOf setup.punkAsset punkIndex).reserveAsset) (paid : ℤ))
      (.account msgSender) := by
    apply (hcash.segment.trans hsegment).traded
      (hcash.held.trans (hheld (hrepayable' heffect.registered).1))
    · rw [hpaid]
      abel
    · rw [hcash.loanOf]
      abel
  have hkept : ∀ other otherId, Repayable setup w.state other otherId →
      Repayable setup w₁.state other otherId := by
    intro other otherId hother
    rw [hcalled]
    exact heffect.repayable (hcash.repayable.mpr hother)
  have hreturned : Handover setup w₁ w₂ ∧ Held setup [] w₁ w₂ := by
    split at hback
    · obtain ⟨_, -, hwithdraw⟩ := bind_eq_ok.mp hback
      exact withdrawPunk_spec hrepaid.orderly hsender hwithdraw
    · obtain rfl := pure_eq_ok.mp hback
      exact ⟨.refl hrepaid.orderly, Held.refl⟩
  refine ⟨⟨_, hrepaid.returned hreturned.1 hreturned.2⟩, fun other otherId hother => ?_⟩
  exact hreturned.1.repayable.mpr (hkept other otherId hother)

private theorem repayItems_passes (hsender : ¬setup.IsGateway (.account msgSender))
    {r : World × List (Nat × Bool)} (items : List (Nat × Nat)) :
    ∀ acc : World × List (Nat × Bool), Orderly setup acc.1 →
      (∀ item ∈ items, Repayable setup acc.1.state setup.punkAsset item.1) →
      items.foldlM (fun (acc : World × List (Nat × Bool)) item => do
        let r ← repayItem setup acc.1 msgSender item.1 item.2
        pure (r.1, acc.2 ++ [r.2])) acc = .ok r →
      ∃ c, Traded setup acc.1 r.1 c (.account msgSender) := by
  induction items with
  | nil =>
    intro acc ho _ h
    obtain rfl := pure_eq_ok.mp h
    exact ⟨0, Traded.refl ho⟩
  | cons item items ih =>
    intro acc ho hready h
    rw [List.foldlM_cons] at h
    obtain ⟨m, hbody, hrest⟩ := bind_eq_ok.mp h
    obtain ⟨q, hitem, hpure⟩ := bind_eq_ok.mp hbody
    obtain rfl := pure_eq_ok.mp hpure
    obtain ⟨⟨c, hrepaid⟩, hkept⟩ :=
      repayItem_passes ho hsender (hready item List.mem_cons_self) hitem
    have hready' : ∀ other ∈ items, Repayable setup q.1.state setup.punkAsset other.1 :=
      fun other hother => hkept _ _ (hready other (List.mem_cons_of_mem item hother))
    obtain ⟨c', hothers⟩ := ih _ hrepaid.orderly hready' hrest
    exact ⟨c + c', hrepaid.trans hothers⟩

theorem batchRepay_passes {punkIndexs amounts : List Nat} {r : World × List (Nat × Bool)}
    (ho : Orderly setup w) (hsender : ¬setup.IsGateway (.account msgSender))
    (hrepayable : ∀ punkIndex ∈ punkIndexs, Repayable setup w.state setup.punkAsset punkIndex)
    (h : batchRepay setup w msgSender punkIndexs amounts = .ok r) :
    ∃ c, Traded setup w r.1 c (.account msgSender) := by
  obtain ⟨_, -, hitems⟩ := bind_eq_ok.mp h
  apply repayItems_passes hsender _ (w, []) ho _ hitems
  intro item hitem
  exact hrepayable item.1 (List.of_mem_zip hitem).1

/-! ### Sales -/

theorem buyItNow_passes (ho : Orderly setup w)
    (h : buyItNow setup w msgSender punkIndex amount onBehalfOf = .ok w') :
    ∃ c, Traded setup w w' c (.account msgSender) := by
  obtain ⟨_, -, h⟩ := bind_eq_ok.mp h
  obtain ⟨_, -, h⟩ := bind_eq_ok.mp h
  obtain ⟨m, hpull, hoffer⟩ := bind_eq_ok.mp h
  rw [getCollateralLoanId_eq, getLoan_eq_loanOf] at hpull
  have hcash := transferFrom_step ho hpull
  obtain ⟨hpool, hheld⟩ := buyItNow_segment hcash.orderly hoffer
  refine ⟨Pi.single (.token (w.state.loanOf setup.punkAsset punkIndex).reserveAsset)
    (amount : ℤ), ?_⟩
  apply (hcash.segment.trans hpool).traded (hcash.held.trans hheld)
  · abel
  · rw [hcash.loanOf]
    abel

theorem refund_step {used : Nat} (ho : Orderly setup w) (hused : used ≤ amount)
    (h : refund setup w msgSender asset amount used = .ok w') :
    CashStep setup w w' (entry (.account msgSender) (.token asset) ((amount : ℤ) - used) -
      entry (.account setup.punkGateway) (.token asset) ((amount : ℤ) - used)) := by
  unfold refund at h
  by_cases hless : used < amount
  · rw [if_pos hless] at h
    have hstep := transfer_step ho h
    rw [Nat.cast_sub hused] at hstep
    exact hstep
  · rw [if_neg hless] at h
    obtain rfl := pure_eq_ok.mp h
    obtain rfl : used = amount := by omega
    simp only [sub_self, entry_zero]
    exact CashStep.refl ho

theorem redeem_passes {buyItNowFine : Nat} {r : World × Nat} (ho : Orderly setup w)
    (hbuyer : ¬setup.IsGateway (w.state.loanOf setup.punkAsset punkIndex).buyItNowBuyerAddress)
    (h : redeem setup w msgSender punkIndex amount buyItNowFine = .ok r) :
    ∃ c, Traded setup w r.1 c (.account msgSender) := by
  obtain ⟨_, -, h⟩ := bind_eq_ok.mp h
  obtain ⟨total, htotal, h⟩ := bind_eq_ok.mp h
  obtain ⟨m, hpull, h⟩ := bind_eq_ok.mp h
  obtain ⟨q, hredeem, h⟩ := bind_eq_ok.mp h
  obtain ⟨m', hrefund, hpure⟩ := bind_eq_ok.mp h
  obtain rfl := pure_eq_ok.mp hpure
  rw [getCollateralLoanId_eq, getLoan_eq_loanOf] at hpull hrefund
  have hcash := transferFrom_step ho hpull
  rw [← hcash.loanOf] at hbuyer
  obtain ⟨hle, hpool, hheld⟩ := redeem_segment hcash.orderly hbuyer hredeem
  obtain ⟨-, rfl⟩ := Uint256.add_eq_ok.mp htotal
  have hback := refund_step hpool.orderly hle hrefund
  refine ⟨Pi.single (.token (w.state.loanOf setup.punkAsset punkIndex).reserveAsset)
    (q.2 : ℤ), ?_⟩
  apply ((hcash.segment.trans hpool).trans hback.segment).traded
    ((hcash.held.trans hheld).trans hback.held)
  · rw [entry_sub, entry_sub]
    abel
  · rw [hcash.loanOf]
    abel

theorem liquidate_passes {r : World × Nat} (ho : Orderly setup w)
    (hsender : ¬setup.IsGateway (.account msgSender))
    (hborrower : ¬setup.IsGateway (w.state.loanOf setup.punkAsset punkIndex).borrower)
    (h : liquidate setup w msgSender punkIndex amount = .ok r) :
    ∃ c, Traded setup w r.1 c (.account msgSender) := by
  obtain ⟨_, -, h⟩ := bind_eq_ok.mp h
  obtain ⟨_, hcaller, h⟩ := bind_eq_ok.mp h
  obtain ⟨m, hpull, h⟩ := bind_eq_ok.mp h
  obtain ⟨q, hliquidate, h⟩ := bind_eq_ok.mp h
  obtain ⟨m', hwithdraw, h⟩ := bind_eq_ok.mp h
  obtain ⟨m'', hrefund, hpure⟩ := bind_eq_ok.mp h
  obtain rfl := pure_eq_ok.mp hpure
  have hbuyer : (w.state.loanOf setup.punkAsset punkIndex).buyItNowBuyerAddress =
      .account msgSender := require_eq_ok.mp hcaller
  have hcash : CashStep setup w m
      (entry (.account setup.punkGateway)
          (.token (w.state.loanOf setup.punkAsset punkIndex).reserveAsset) amount -
        entry (.account msgSender)
          (.token (w.state.loanOf setup.punkAsset punkIndex).reserveAsset) amount) := by
    by_cases hpos : amount > 0
    · rw [if_pos hpos] at hpull
      exact transferFrom_step ho hpull
    · rw [if_neg hpos] at hpull
      obtain rfl := pure_eq_ok.mp hpull
      obtain rfl : amount = 0 := by omega
      simp only [Nat.cast_zero, entry_zero, sub_zero]
      exact CashStep.refl ho
  have hbuyer' : ¬setup.IsGateway
      (m.state.loanOf setup.punkAsset punkIndex).buyItNowBuyerAddress := by
    rw [hcash.loanOf, hbuyer]
    exact hsender
  rw [← hcash.loanOf] at hborrower
  obtain ⟨hused, hpool, hheld⟩ := liquidate_segment hcash.orderly hborrower hbuyer' hliquidate
  obtain ⟨hreturned, hheld'⟩ := withdrawPunk_spec hpool.orderly hsender hwithdraw
  rw [getCollateralLoanId_eq, getLoan_eq_loanOf] at hrefund
  have hback := refund_step hreturned.orderly hused hrefund
  refine ⟨Pi.single (.token (w.state.loanOf setup.punkAsset punkIndex).reserveAsset)
    (q.2 : ℤ), ?_⟩
  apply (((hcash.segment.trans hpool).trans hreturned.segment).trans hback.segment).traded
    (((hcash.held.trans hheld).trans hheld').trans hback.held)
  · rw [entry_sub, entry_sub]
    abel
  · rw [hcash.loanOf]
    abel

/-! ### Loans of ether -/

theorem borrowETH_passes (ho : Orderly setup w) (hsender : ¬setup.IsGateway (.account msgSender))
    (honBehalfOf : onBehalfOf ≠ setup.wethAsset)
    (h : borrowETH setup w msgSender amount punkIndex onBehalfOf = .ok w') :
    Passed setup w w' (-(amount : ℤ)) onBehalfOf := by
  obtain ⟨_, -, h⟩ := bind_eq_ok.mp h
  obtain ⟨m, hdeposit, h⟩ := bind_eq_ok.mp h
  obtain ⟨_, -, hitem⟩ := bind_eq_ok.mp h
  obtain ⟨hdeposited, htaken⟩ := depositPunk_spec ho hsender hdeposit
  obtain ⟨hlent, -, howner⟩ :=
    WETHGateway.borrowItemETH_spec hdeposited.orderly honBehalfOf hitem
  apply (hdeposited.segment.trans hlent).passed
    ((htaken [] w Held.refl).placed (not_gateway_cNFT setup _) howner)
  · exact zero_add _
  · exact zero_add _

private theorem depositPunks_spec (hsender : ¬setup.IsGateway (.account msgSender))
    (punkIndexs : List Nat) : ∀ w, Orderly setup w →
      punkIndexs.foldlM (fun w punkIndex => depositPunk setup w msgSender punkIndex) w = .ok w' →
      Handover setup w w' ∧ ∀ things w₀, Held setup things w₀ w →
        Held setup (punkIndexs.map (Thing.nft setup.punkAsset) ++ things) w₀ w' := by
  induction punkIndexs with
  | nil =>
    intro w ho h
    obtain rfl := pure_eq_ok.mp h
    exact ⟨.refl ho, fun _ _ hheld => hheld⟩
  | cons punkIndex punkIndexs ih =>
    intro w ho h
    rw [List.foldlM_cons] at h
    obtain ⟨m, hdeposit, hrest⟩ := bind_eq_ok.mp h
    obtain ⟨hdeposited, htaken⟩ := depositPunk_spec ho hsender hdeposit
    obtain ⟨hothers, htaken'⟩ := ih m hdeposited.orderly hrest
    refine ⟨hdeposited.trans hothers, fun things w₀ hheld => ?_⟩
    apply (htaken' _ w₀ (htaken things w₀ hheld)).of_mem_iff
    intro x
    simp only [List.map_cons, List.cons_append, List.mem_cons, List.mem_append]
    exact or_left_comm

private theorem items_eq (asset : Address) {amounts : List Nat} : ∀ {punkIndexs : List Nat},
    punkIndexs.length = amounts.length →
      ((punkIndexs.map fun _ => asset).zip (punkIndexs.zip amounts)).map
          (fun item => Thing.nft item.1 item.2.1) = punkIndexs.map (Thing.nft asset) := by
  induction amounts with
  | nil =>
    intro punkIndexs hlength
    rw [List.eq_nil_of_length_eq_zero hlength]
    rfl
  | cons amount amounts ih =>
    intro punkIndexs hlength
    cases punkIndexs with
    | nil => cases hlength
    | cons punkIndex punkIndexs =>
      simp only [List.map_cons, List.zip_cons_cons, ih (Nat.succ.inj hlength)]

theorem batchBorrowETH_passes {amounts punkIndexs : List Nat} (ho : Orderly setup w)
    (hsender : ¬setup.IsGateway (.account msgSender)) (honBehalfOf : onBehalfOf ≠ setup.wethAsset)
    (h : batchBorrowETH setup w msgSender amounts punkIndexs onBehalfOf = .ok w') :
    ∃ n, Passed setup w w' n onBehalfOf := by
  obtain ⟨_, hlength, h⟩ := bind_eq_ok.mp h
  obtain ⟨_, -, h⟩ := bind_eq_ok.mp h
  obtain ⟨m, hdeposits, h⟩ := bind_eq_ok.mp h
  obtain ⟨_, -, h⟩ := bind_eq_ok.mp h
  obtain ⟨_, -, h⟩ := bind_eq_ok.mp h
  obtain ⟨_, -, hitems⟩ := bind_eq_ok.mp h
  obtain ⟨hdeposited, htaken⟩ := depositPunks_spec hsender punkIndexs w ho hdeposits
  obtain ⟨⟨n, hlent⟩, -, hplaced⟩ :=
    WETHGateway.borrowItemsETH_spec honBehalfOf _ m hdeposited.orderly hitems
  have hheld := htaken [] w Held.refl
  rw [← items_eq setup.punkAsset (require_eq_ok.mp hlength)] at hheld
  refine ⟨n, (hdeposited.segment.trans hlent).passed (hplaced [] w hheld) ?_ ?_⟩
  · exact zero_add _
  · exact zero_add _

theorem repayItemETH_spec {accAmount : Nat} {r : World × Nat × Bool} (ho : Orderly setup w)
    (hsender : ¬setup.IsGateway (.account msgSender))
    (hrepayable : Repayable setup w.state setup.punkAsset punkIndex)
    (h : repayItemETH setup w msgSender msgValue punkIndex amount accAmount = .ok r) :
    accAmount + r.2.1 ≤ msgValue ∧ Passed setup w r.1 r.2.1 (.account setup.punkGateway) ∧
      ∀ other otherId, Repayable setup w.state other otherId →
        Repayable setup r.1.state other otherId := by
  unfold repayItemETH at h
  obtain ⟨_, -, h⟩ := bind_eq_ok.mp h
  obtain ⟨_, -, h⟩ := bind_eq_ok.mp h
  obtain ⟨shown, -, h⟩ := bind_eq_ok.mp h
  revert h
  generalize (if amount < shown.2 then amount else shown.2) = repayDebtAmount
  intro h
  obtain ⟨needed, hneeded, h⟩ := bind_eq_ok.mp h
  obtain ⟨_, henough, h⟩ := bind_eq_ok.mp h
  obtain ⟨m, hsend, h⟩ := bind_eq_ok.mp h
  obtain ⟨q, hrepay, h⟩ := bind_eq_ok.mp h
  obtain ⟨w₁, hback, hpure⟩ := bind_eq_ok.mp h
  obtain rfl := pure_eq_ok.mp hpure
  obtain ⟨hpassed, hle, hkept⟩ :=
    WETHGateway.repayETH_passes ho setup.punkGateway_ne hrepayable hsend hrepay
  have hreturned : Handover setup q.1 w₁ ∧ Held setup [] q.1 w₁ := by
    split at hback
    · exact withdrawPunk_spec hpassed.orderly hsender hback
    · obtain rfl := pure_eq_ok.mp hback
      exact ⟨.refl hpassed.orderly, Held.refl⟩
  refine ⟨?_, hpassed.returned hreturned.1 hreturned.2, fun other otherId hother => ?_⟩
  · have hall := require_eq_ok.mp henough
    obtain ⟨-, rfl⟩ := Uint256.add_eq_ok.mp hneeded
    exact (Nat.add_le_add_left hle accAmount).trans hall
  · exact hreturned.1.repayable.mpr (hkept other otherId hother)

section Payable

variable (ho : Orderly setup w₀) (hweth : .account msgSender ≠ setup.wethAsset)
  (hsend : w₀.sendEther (.account msgSender) (.account setup.punkGateway) msgValue = .ok w)

include ho hweth hsend

theorem repayETH_passes {r : World × Nat × Bool}
    (hsender : ¬setup.IsGateway (.account msgSender))
    (hrepayable : Repayable setup w₀.state setup.punkAsset punkIndex)
    (h : repayETH setup w msgSender msgValue punkIndex amount = .ok r) :
    Passed setup w₀ r.1 r.2.1 (.account msgSender) := by
  obtain ⟨q, hitem, h⟩ := bind_eq_ok.mp h
  obtain ⟨m, hrefund, hpure⟩ := bind_eq_ok.mp h
  obtain rfl := pure_eq_ok.mp hpure
  have hsent := sendEther_step ho hsend
  obtain ⟨hle, hpassed, -⟩ :=
    repayItemETH_spec hsent.orderly hsender (hsent.repayable.mpr hrepayable) hitem
  rw [Nat.zero_add] at hle
  exact WETHGateway.refundETH_passes ho hsend hweth hpassed hle hrefund

theorem batchRepayETH_passes {punkIndexs amounts : List Nat} {r : World × List (Nat × Bool)}
    (hsender : ¬setup.IsGateway (.account msgSender))
    (hrepayable : ∀ punkIndex ∈ punkIndexs, Repayable setup w₀.state setup.punkAsset punkIndex)
    (h : batchRepayETH setup w msgSender msgValue punkIndexs amounts = .ok r) :
    ∃ paid : Nat, Passed setup w₀ r.1 paid (.account msgSender) := by
  obtain ⟨_, -, h⟩ := bind_eq_ok.mp h
  obtain ⟨batch, hbatch, h⟩ := bind_eq_ok.mp h
  obtain ⟨m, hrefund, hpure⟩ := bind_eq_ok.mp h
  obtain rfl := pure_eq_ok.mp hpure
  have hsent := sendEther_step ho hsend
  have hitem : ∀ w (item : Nat × Nat) accAmount r, Orderly setup w →
      Repayable setup w.state setup.punkAsset item.1 →
      repayItemETH setup w msgSender msgValue item.1 item.2 accAmount = .ok r →
        accAmount + r.2.1 ≤ msgValue ∧ Passed setup w r.1 r.2.1 (.account setup.punkGateway) ∧
          ∀ other : Nat × Nat, Repayable setup w.state setup.punkAsset other.1 →
            Repayable setup r.1.state setup.punkAsset other.1 := by
    intro w item accAmount r ho hready hrepay
    obtain ⟨hle, hpassed, hkept⟩ := repayItemETH_spec ho hsender hready hrepay
    exact ⟨hle, hpassed, fun other => hkept _ other.1⟩
  have hready : ∀ item ∈ punkIndexs.zip amounts,
      Repayable setup w.state setup.punkAsset item.1 := by
    intro item hmem
    exact hsent.repayable.mpr (hrepayable item.1 (List.of_mem_zip hmem).1)
  obtain ⟨paid, hsum, hmax, hpassed⟩ :=
    WETHGateway.repayBatch_spec hitem _ _ hsent.orderly hready (Nat.zero_le _) hbatch
  rw [hsum, Nat.zero_add] at hrefund hmax
  exact ⟨paid, WETHGateway.refundETH_passes ho hsend hweth hpassed hmax hrefund⟩

theorem buyItNowETH_passes
    (h : buyItNowETH setup w msgSender msgValue punkIndex onBehalfOf = .ok w') :
    Passed setup w₀ w' msgValue (.account msgSender) := by
  obtain ⟨_, -, h⟩ := bind_eq_ok.mp h
  obtain ⟨m, hpay, hoffer⟩ := bind_eq_ok.mp h
  have hsent := sendEther_step ho hsend
  have hpassed := WETHGateway.buyItNowETH_passes hsent.orderly hpay hoffer
  have hnothing : WETHGateway.refundETH setup w' msgSender setup.punkGateway msgValue msgValue =
      .ok w' := if_neg (lt_irrefl msgValue)
  exact WETHGateway.refundETH_passes ho hsend hweth hpassed le_rfl hnothing

theorem redeemETH_passes {buyItNowFine : Nat} {r : World × Nat}
    (hbuyer : ¬setup.IsGateway (w₀.state.loanOf setup.punkAsset punkIndex).buyItNowBuyerAddress)
    (h : redeemETH setup w msgSender msgValue punkIndex amount buyItNowFine = .ok r) :
    Passed setup w₀ r.1 r.2 (.account msgSender) := by
  obtain ⟨_, -, h⟩ := bind_eq_ok.mp h
  obtain ⟨m, hpay, h⟩ := bind_eq_ok.mp h
  obtain ⟨q, hredeem, h⟩ := bind_eq_ok.mp h
  obtain ⟨m', hrefund, hpure⟩ := bind_eq_ok.mp h
  obtain rfl := pure_eq_ok.mp hpure
  have hsent := sendEther_step ho hsend
  rw [← hsent.loanOf] at hbuyer
  obtain ⟨hpassed, hused⟩ :=
    WETHGateway.redeemETH_passes hsent.orderly setup.punkGateway_ne hbuyer hpay hredeem
  exact WETHGateway.refundETH_passes ho hsend hweth hpassed hused hrefund

theorem liquidateETH_passes {r : World × Nat}
    (hsender : ¬setup.IsGateway (.account msgSender))
    (hborrower : ¬setup.IsGateway (w₀.state.loanOf setup.punkAsset punkIndex).borrower)
    (h : liquidateETH setup w msgSender msgValue punkIndex = .ok r) :
    Passed setup w₀ r.1 r.2 (.account msgSender) := by
  obtain ⟨_, -, h⟩ := bind_eq_ok.mp h
  obtain ⟨_, hcaller, h⟩ := bind_eq_ok.mp h
  obtain ⟨m, hpay, h⟩ := bind_eq_ok.mp h
  obtain ⟨q, hliquidate, h⟩ := bind_eq_ok.mp h
  obtain ⟨w₁, hwithdraw, h⟩ := bind_eq_ok.mp h
  obtain ⟨m', hrefund, hpure⟩ := bind_eq_ok.mp h
  obtain rfl := pure_eq_ok.mp hpure
  have hsent := sendEther_step ho hsend
  have hbuyer : ¬setup.IsGateway
      (w.state.loanOf setup.punkAsset punkIndex).buyItNowBuyerAddress := by
    have hown : (w.state.loanOf setup.punkAsset punkIndex).buyItNowBuyerAddress =
        .account msgSender := require_eq_ok.mp hcaller
    rw [hown]
    exact hsender
  rw [← hsent.loanOf] at hborrower
  obtain ⟨hpassed, hused⟩ := WETHGateway.liquidateETH_passes hsent.orderly setup.punkGateway_ne
    hborrower hbuyer hpay hliquidate
  obtain ⟨hreturned, hheld⟩ := withdrawPunk_spec hpassed.orderly hsender hwithdraw
  exact WETHGateway.refundETH_passes ho hsend hweth (hpassed.returned hreturned hheld) hused hrefund

end Payable

end PunkGateway

end Confetti
