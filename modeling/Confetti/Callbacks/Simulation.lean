import Confetti.Callbacks.Whereabouts
import Confetti.Invariants.Batches

/-! What an account or the pool does while NFTs are out on loan, it can do while they are
not: the calls of users and of tokens, one by one. -/
namespace Confetti
open Outcome TransitionSystem

def State.withERC721s (s : State) (erc721 : Address → ERC721) : State := { s with erc721 }

/-- There is a receipt for the NFT, and whoever brings it back brings it unapproved. -/
structure LentOut (s : State) (asset : Address) (nft : ERC721) (tokenId : Nat) : Prop where
  receipt : (s.cNFTs asset).owners tokenId ≠ .zero
  unapproved : nft.owners tokenId = .zero ∨ nft.owners tokenId = .cNFT asset →
    nft.tokenApprovals tokenId = .zero

structure Strays (out : Address → Nat → Prop) (s : State) (erc721 : Address → ERC721) : Prop where
  operators : ∀ asset, (erc721 asset).operatorApprovals = (s.erc721 asset).operatorApprovals
  token : ∀ asset tokenId, (s.erc721 asset).SameAt (erc721 asset) tokenId ∨
    (out asset tokenId ∧ LentOut s asset (erc721 asset) tokenId)

/-- The first state is the second with all NFTs at home. -/
def Matches (out : Address → Nat → Prop) (s c : State) : Prop :=
  ∃ erc721, c = s.withERC721s erc721 ∧ Strays out s erc721

variable {out out' : Address → Nat → Prop} {s s' c c' : State} {erc721 : Address → ERC721}
  {asset : Address} {tokenId : Nat}

theorem Strays.home (out : Address → Nat → Prop) (s : State) : Strays out s s.erc721 :=
  ⟨fun _ => rfl, fun _ _ => .inl ⟨rfl, rfl⟩⟩

theorem Matches.refl (out : Address → Nat → Prop) (s : State) : Matches out s s :=
  ⟨s.erc721, rfl, .home out s⟩

theorem Strays.congr (h : Strays out s erc721) (herc721 : s'.erc721 = s.erc721)
    (hcNFTs : s'.cNFTs = s.cNFTs) : Strays out s' erc721 := by
  refine ⟨?_, ?_⟩
  · rw [herc721]
    exact h.operators
  · intro asset tokenId
    rcases h.token asset tokenId with hsame | ⟨hout, hlent⟩
    · rw [herc721]
      exact .inl hsame
    · refine .inr ⟨hout, ?_, hlent.unapproved⟩
      rw [hcNFTs]
      exact hlent.receipt

theorem Matches.eq (h : Matches (fun _ _ => False) s c) : c = s := by
  obtain ⟨erc721, rfl, h⟩ := h
  have htables : erc721 = s.erc721 := by
    funext asset
    have hsame := fun tokenId => (h.token asset tokenId).resolve_right fun hout => hout.1
    have howners : (erc721 asset).owners = (s.erc721 asset).owners :=
      funext fun tokenId => (hsame tokenId).owner
    have happrovals : (erc721 asset).tokenApprovals = (s.erc721 asset).tokenApprovals :=
      funext fun tokenId => (hsame tokenId).approval
    calc erc721 asset
        = ⟨(erc721 asset).owners, (erc721 asset).tokenApprovals,
            (erc721 asset).operatorApprovals⟩ := rfl
      _ = s.erc721 asset := by rw [howners, happrovals, h.operators]
  rw [htables]
  rfl

theorem Strays.sameAt_of_wrapped (h : Strays out s erc721) (hw : Wrapped s)
    (howner : (erc721 asset).owners tokenId = .cNFT asset) :
    (s.erc721 asset).SameAt (erc721 asset) tokenId := by
  rcases h.token asset tokenId with hsame | ⟨-, hlent⟩
  · exact hsame
  · obtain ⟨hhome, hfree⟩ := hw asset tokenId hlent.receipt
    exact ⟨howner.trans hhome.symm, (hlent.unapproved (.inr howner)).trans hfree.symm⟩

theorem Strays.sameAt_of_receipt (h : Strays out s erc721)
    (hreceipt : (s.cNFTs asset).owners tokenId = .zero) :
    (s.erc721 asset).SameAt (erc721 asset) tokenId :=
  (h.token asset tokenId).resolve_right fun hlent => hlent.2.receipt hreceipt

/-! ### Programs of the protocol -/

theorem Strays.follow (program : State → Except Revert State) (h : Strays out s erc721)
    (hlaw : ∀ g, program ((s.withERC721s erc721).relocate g) = .ok (c'.relocate g)) :
    ∃ s', program s = .ok s' ∧ Matches out s' c' := by
  have hhome := hlaw fun _ _ => (s.erc721, s.cNFTs)
  have haway := hlaw fun _ _ => (erc721, s.cNFTs)
  have hself := hlaw fun erc721 cNFTs => (erc721, cNFTs)
  have hsame : c' = c'.relocate fun _ _ => (erc721, s.cNFTs) :=
    Except.ok.inj (hself.symm.trans haway)
  refine ⟨_, hhome, erc721, ?_, h.congr rfl rfl⟩
  rw [hsame]
  rfl

theorem Strays.relocate_graft (h : Strays out s erc721)
    (hsame : (s.erc721 asset).SameAt (erc721 asset) tokenId) :
    s.relocate (graft erc721 s.cNFTs asset tokenId) = s.withERC721s erc721 := by
  have hnft : (s.erc721 asset).graft (erc721 asset) tokenId = erc721 asset := by
    unfold ERC721.graft
    rw [← hsame.owner, ← hsame.approval, ← h.operators, Function.update_eq_self,
      Function.update_eq_self]
  have hreceipt : (s.cNFTs asset).graft (s.cNFTs asset) tokenId = s.cNFTs asset := by
    simp [CNFT.graft]
  unfold State.relocate State.withERC721s graft
  simp only [hnft, hreceipt, Function.update_eq_self]

theorem graft_sameAt (tables : Address → ERC721) {other : Address} {id : Nat} (nft : ERC721)
    (hne : ¬(other = asset ∧ id = tokenId)) :
    (tables other).SameAt (Function.update tables asset (nft.graft (tables asset) tokenId) other)
      id := by
  by_cases hother : other = asset
  · subst hother
    have hid : id ≠ tokenId := fun hid => hne ⟨rfl, hid⟩
    rw [Function.update_self]
    exact ⟨Function.update_of_ne hid _ _, Function.update_of_ne hid _ _⟩
  · rw [Function.update_of_ne hother]
    exact ⟨rfl, rfl⟩

theorem graft_receipt {receipts : Address → CNFT} {other : Address} {id : Nat} (receipt : CNFT)
    (hne : ¬(other = asset ∧ id = tokenId)) :
    (Function.update receipts asset (receipt.graft (receipts asset) tokenId) other).owners id =
      (receipts other).owners id := by
  by_cases hother : other = asset
  · subst hother
    have hid : id ≠ tokenId := fun hid => hne ⟨rfl, hid⟩
    rw [Function.update_self]
    exact Function.update_of_ne hid _ _
  · rw [Function.update_of_ne hother]

theorem ERC721.SameAt.trans {nft nft' nft'' : ERC721} (h : nft.SameAt nft' tokenId)
    (h' : nft'.SameAt nft'' tokenId) : nft.SameAt nft'' tokenId :=
  ⟨h'.owner.trans h.owner, h'.approval.trans h.approval⟩

theorem ERC721.SameAt.symm {nft nft' : ERC721} (h : nft.SameAt nft' tokenId) :
    nft'.SameAt nft tokenId := ⟨h.owner.symm, h.approval.symm⟩

theorem Strays.follow_nft (program : State → Except Revert State) (h : Strays out s erc721)
    (hsame : (s.erc721 asset).SameAt (erc721 asset) tokenId)
    (hlaw : ∀ tables receipts, program (s.relocate (graft tables receipts asset tokenId)) =
      (fun t => t.relocate (graft tables receipts asset tokenId)) <$> program s)
    (hc : program (s.withERC721s erc721) = .ok c') :
    ∃ s', program s = .ok s' ∧ Matches out s' c' := by
  have hmoved := hlaw erc721 s.cNFTs
  have hfixed := hlaw s.erc721 s.cNFTs
  rw [h.relocate_graft hsame, hc] at hmoved
  rw [(Strays.home out s).relocate_graft ⟨rfl, rfl⟩] at hfixed
  change program s = _ at hfixed
  obtain ⟨s', hs', rfl⟩ := map_eq_ok.mp hmoved.symm
  rw [hs'] at hfixed
  -- elsewhere the NFTs and the receipts of the result are those of the start
  have hself : s' = s'.relocate (graft s.erc721 s.cNFTs asset tokenId) := Except.ok.inj hfixed
  have herc721 : s'.erc721 = Function.update s.erc721 asset
      ((s'.erc721 asset).graft (s.erc721 asset) tokenId) := congrArg State.erc721 hself
  have hcNFTs : s'.cNFTs = Function.update s.cNFTs asset
      ((s'.cNFTs asset).graft (s.cNFTs asset) tokenId) := congrArg State.cNFTs hself
  refine ⟨s', hs', Function.update erc721 asset
    ((s'.erc721 asset).graft (erc721 asset) tokenId), ?_, ?_, ?_⟩
  · unfold State.relocate State.withERC721s graft
    rw [← hcNFTs]
  · intro other
    by_cases hother : other = asset
    · subst hother
      rw [Function.update_self]
      rfl
    · rw [Function.update_of_ne hother, h.operators, herc721, Function.update_of_ne hother]
  · intro other id
    by_cases hentry : other = asset ∧ id = tokenId
    · obtain ⟨rfl, rfl⟩ := hentry
      left
      rw [Function.update_self]
      exact ⟨Function.update_self _ _ _, Function.update_self _ _ _⟩
    · have hstart : (s.erc721 other).SameAt (s'.erc721 other) id := by
        rw [herc721]
        exact graft_sameAt _ _ hentry
      have haway := graft_sameAt erc721 (s'.erc721 asset) hentry
      have hreceipt : (s'.cNFTs other).owners id = (s.cNFTs other).owners id := by
        rw [hcNFTs]
        exact graft_receipt _ hentry
      rcases h.token other id with hsame | ⟨hout, hlent⟩
      · exact .inl (hstart.symm.trans (hsame.trans haway))
      · refine .inr ⟨hout, ?_, ?_⟩
        · rw [hreceipt]
          exact hlent.receipt
        · rw [haway.owner, haway.approval]
          exact hlent.unapproved

/-! ### Calls of users -/

theorem Wired.withERC721s (h : Wired s) (erc721 : Address → ERC721) :
    Wired (s.withERC721s erc721) := ⟨h.reserve, h.nft, h.proxy⟩

theorem LendPoolLoan.Releasable.owner_at {loan : LoanData} (h : LendPoolLoan.Releasable s loan)
    (hasset : loan.nftAsset = asset) (htoken : loan.nftTokenId = tokenId) :
    (s.erc721 asset).owners tokenId = .cNFT asset := by
  subst hasset htoken
  exact h.2.2.2.2

section Programs

variable (hs : Reachable operations s) (h : Strays out s erc721)
include hs h

theorem Strays.follow_borrow {p : ExecuteBorrowParams}
    (hc : BorrowLogic.borrow (s.withERC721s erc721) p = .ok c') :
    ∃ s', BorrowLogic.borrow s p = .ok s' ∧ Matches out s' c' := by
  have hw := (regular_of_reachable hs).sound.wired
  have hwc := hw.withERC721s erc721
  obtain ⟨_, _, scaled, heffect⟩ := borrow_effect hwc hc
  rcases heffect.book with hopened | htopped
  · have hreceipt : (s.cNFTs p.nftAsset).owners p.nftTokenId = .zero := hopened.unwrapped
    apply h.follow_nft (BorrowLogic.borrow · p) (h.sameAt_of_receipt hreceipt) _ hc
    exact fun tables receipts => graft_borrow s tables receipts hw p
  · apply h.follow (BorrowLogic.borrow · p)
    intro g
    rw [relocate_borrow_more _ g hwc htopped.registered, hc]
    rfl

theorem Strays.follow_repay {p : ExecuteRepayParams} {r : Nat × Bool}
    (hc : BorrowLogic.repay (s.withERC721s erc721) p = .ok (c', r)) :
    ∃ s' r', BorrowLogic.repay s p = .ok (s', r') ∧ Matches out s' c' := by
  have hreg := regular_of_reachable hs
  have hw := hreg.sound.wired
  obtain ⟨paid, closed⟩ := r
  obtain ⟨_, _, debt, _, heffect, hclosed⟩ :=
    repay_effect (hw.withERC721s erc721) hreg.book.toFiled hc
  have hfollowed : ∃ s', Prod.fst <$> BorrowLogic.repay s p = .ok s' ∧ Matches out s' c' := by
    rcases heffect.book with ⟨hless, -, -⟩ | ⟨-, hended⟩
    · have hpart : closed = false := by
        rw [hclosed]
        exact decide_eq_false (Nat.not_le.mpr hless)
      subst hpart
      apply h.follow (fun m => Prod.fst <$> BorrowLogic.repay m p)
      intro g
      rw [relocate_repay_part _ g hc]
      rfl
    · obtain ⟨hasset, htoken⟩ := hreg.book.toFiled _ _ heffect.registered
      have howner := LendPoolLoan.Releasable.owner_at hended.releasable hasset htoken
      have hsame := h.sameAt_of_wrapped (wrapped_of_reachable hs) howner
      apply h.follow_nft (fun m => Prod.fst <$> BorrowLogic.repay m p) hsame
      · intro tables receipts
        rw [graft_repay s tables receipts hw hreg.book.toFiled p, Functor.map_map, Functor.map_map]
      · rw [hc]
        rfl
  obtain ⟨s', hs', hm⟩ := hfollowed
  obtain ⟨⟨_, r'⟩, hs', rfl⟩ := map_eq_ok.mp hs'
  exact ⟨_, r', hs', hm⟩

theorem Strays.follow_liquidate {p : ExecuteLiquidateParams} {paid : Nat}
    (hc : LiquidateLogic.executeLiquidate (s.withERC721s erc721) p = .ok (c', paid)) :
    ∃ s', Prod.fst <$> LiquidateLogic.executeLiquidate s p = .ok s' ∧ Matches out s' c' := by
  have hreg := regular_of_reachable hs
  have hw := hreg.sound.wired
  obtain ⟨_, _, _, _, _, _, _, _, hliquidation, -, -⟩ :=
    (executeLiquidate_eq_ok (hw.withERC721s erc721) hreg.book.toFiled).mp hc
  obtain ⟨hasset, htoken⟩ := hreg.book.toFiled _ _ hliquidation.registered
  have howner := LendPoolLoan.Releasable.owner_at hliquidation.releasable hasset htoken
  have hsame := h.sameAt_of_wrapped (wrapped_of_reachable hs) howner
  apply h.follow_nft (fun m => Prod.fst <$> LiquidateLogic.executeLiquidate m p) hsame
  · intro tables receipts
    rw [graft_executeLiquidate s tables receipts hw hreg.book.toFiled p, Functor.map_map,
      Functor.map_map]
  · rw [hc]
    rfl

end Programs

theorem UserCall.follow {call : UserCall} (hs : Reachable operations s) (hm : Matches out s c)
    (h : call.run c = .ok c') : ∃ s', call.run s = .ok s' ∧ Matches out s' c' := by
  obtain ⟨erc721, rfl, hstrays⟩ := hm
  cases call with
  | borrow caller asset amount nftAsset nftTokenId onBehalfOf =>
    obtain ⟨_, hstart, hborrow⟩ := bind_eq_ok.mp h
    have hpaused : s.pool.paused = false := require_eq_ok.mp hstart
    obtain ⟨s', hs', hm'⟩ := hstrays.follow_borrow hs hborrow
    exact ⟨s', run_ofBorrow rfl hpaused hs', hm'⟩
  | repay caller nftAsset nftTokenId amount =>
    obtain ⟨⟨_, r⟩, hrepay, rfl⟩ := map_eq_ok.mp h
    obtain ⟨_, hstart, hrepay⟩ := bind_eq_ok.mp hrepay
    have hpaused : s.pool.paused = false := require_eq_ok.mp hstart
    obtain ⟨s', _, hs', hm'⟩ := hstrays.follow_repay hs hrepay
    exact ⟨s', run_ofRepay rfl hpaused hs', hm'⟩
  | liquidate caller nftAsset nftTokenId amount =>
    obtain ⟨⟨_, paid⟩, hliquidate, rfl⟩ := map_eq_ok.mp h
    obtain ⟨_, hstart, hliquidate⟩ := bind_eq_ok.mp hliquidate
    obtain ⟨s', hs', hm'⟩ := hstrays.follow_liquidate hs hliquidate
    have hopen : LendPool.whenNotPaused s = .ok () := hstart
    refine ⟨s', ?_, hm'⟩
    simp only [UserCall.run, LendPool.liquidate, hopen]
    exact hs'
  | _ =>
    apply hstrays.follow
    intro g
    rw [UserCall.relocate_run _ g rfl, h]
    rfl

/-! ### Calls of tokens -/

theorem Strays.of_nft {nft nft' : ERC721} (h : Strays out s erc721)
    (hoperators : nft'.operatorApprovals = nft.operatorApprovals)
    (htoken : ∀ tokenId, nft.SameAt nft' tokenId ∨
      (out asset tokenId ∧ LentOut s asset nft' tokenId)) :
    Matches out (s.withERC721 asset nft) ((s.withERC721s erc721).withERC721 asset nft') := by
  refine ⟨Function.update erc721 asset nft', rfl, ?_, ?_⟩
  · intro other
    unfold State.withERC721
    by_cases hother : other = asset
    · subst hother
      simp only [Function.update_self]
      exact hoperators
    · simp only [Function.update_of_ne hother]
      exact h.operators other
  · intro other id
    unfold State.withERC721
    by_cases hother : other = asset
    · subst hother
      simp only [Function.update_self]
      exact (htoken id).imp_right fun hlent => ⟨hlent.1, hlent.2.receipt, hlent.2.unapproved⟩
    · simp only [Function.update_of_ne hother]
      exact (h.token other id).imp_right fun hlent =>
        ⟨hlent.1, hlent.2.receipt, hlent.2.unapproved⟩

theorem Strays.moves_on {nft : ERC721} (h : Strays out s erc721) (hout : out asset tokenId)
    (hlent : LentOut s asset nft tokenId)
    (hother : ∀ id, id ≠ tokenId → (erc721 asset).SameAt nft id)
    (hoperators : nft.operatorApprovals = (erc721 asset).operatorApprovals) :
    Matches out s ((s.withERC721s erc721).withERC721 asset nft) := by
  have hself : s.withERC721 asset (s.erc721 asset) = s := by
    unfold State.withERC721
    rw [Function.update_eq_self]
  have htoken : ∀ id, (s.erc721 asset).SameAt nft id ∨ (out asset id ∧ LentOut s asset nft id) := by
    intro id
    by_cases hid : id = tokenId
    · subst hid
      exact .inr ⟨hout, hlent⟩
    · have hsame := hother id hid
      rcases h.token asset id with hold | ⟨hout, hold⟩
      · exact .inl (hold.trans hsame)
      · refine .inr ⟨hout, hold.receipt, ?_⟩
        rw [hsame.owner, hsame.approval]
        exact hold.unapproved
  have hmoved := h.of_nft (hoperators.trans (h.operators asset)) htoken
  rwa [hself] at hmoved

theorem Strays.gives_on {recipient : Address} (h : Strays out s erc721) (hout : out asset tokenId)
    (hlent : LentOut s asset (erc721 asset) tokenId) :
    Matches out s ((s.withERC721s erc721).withERC721 asset
      ((erc721 asset).given recipient tokenId)) := by
  refine h.moves_on hout ⟨hlent.receipt, ?_⟩ (fun _ => ERC721.sameAt_given _ _) rfl
  exact fun _ => Function.update_self _ _ _

theorem TokenCall.follow {call : TokenCall} (hs : Reachable operations s) (hm : Matches out s c)
    (h : call.run c = .ok c') :
    ∃ s', (s' = s ∨ call.run s = .ok s') ∧ Matches out s' c' := by
  obtain ⟨erc721, rfl, hstrays⟩ := hm
  have hreg := regular_of_reachable hs
  have hw := hreg.sound.wired
  have hwrapped := wrapped_of_reachable hs
  have hsteps : (∃ s', call.run s = .ok s' ∧ Matches out s' c') →
      ∃ s', (s' = s ∨ call.run s = .ok s') ∧ Matches out s' c' := by
    rintro ⟨s', hs', hm'⟩
    exact ⟨s', .inr hs', hm'⟩
  cases call with
  | transfer | transferFrom | approve | mint | burn =>
    apply hsteps
    apply hstrays.follow (TokenCall.run · _)
    intro g
    rw [TokenCall.relocate_run _ g rfl, h]
    rfl
  | transferNFT caller asset sender recipient entry =>
    rcases hstrays.token asset entry with hsame | ⟨hout, hlent⟩
    · apply hsteps
      apply hstrays.follow_nft (TokenCall.run · _) hsame _ h
      exact fun tables receipts => graft_withERC721 s tables receipts asset entry
        (ERC721.transferFrom · (.account caller) sender recipient entry)
        fun self table => self.graft_transferFrom table entry _ _ _
    · obtain ⟨_, htransfer, rfl⟩ := map_eq_ok.mp h
      obtain ⟨-, -, -, -, rfl⟩ := ERC721.transferFrom_eq_ok.mp htransfer
      exact ⟨s, .inl rfl, hstrays.gives_on hout hlent⟩
  | safeTransferNFT caller asset sender recipient entry =>
    rcases hstrays.token asset entry with hsame | ⟨hout, hlent⟩
    · apply hsteps
      apply hstrays.follow_nft (TokenCall.run · _) hsame _ h
      exact fun tables receipts => graft_safeTransferNFT s tables receipts asset entry _ _ _
    · obtain ⟨-, -, -, -, -, rfl⟩ := State.safeTransferNFT_eq_ok.mp h
      exact ⟨s, .inl rfl, hstrays.gives_on hout hlent⟩
  | approveNFT caller asset spender entry =>
    rcases hstrays.token asset entry with hsame | ⟨hout, hlent⟩
    · apply hsteps
      apply hstrays.follow_nft (TokenCall.run · _) hsame _ h
      exact fun tables receipts => graft_withERC721 s tables receipts asset entry
        (ERC721.approve · (.account caller) spender entry)
        fun self table => self.graft_approve table entry _ _
    · obtain ⟨_, happroved, rfl⟩ := map_eq_ok.mp h
      obtain ⟨hz, -, hcaller, rfl⟩ := ERC721.approve_eq_ok.mp happroved
      refine ⟨s, .inl rfl, hstrays.moves_on hout ⟨hlent.receipt, ?_⟩ (fun id hid => ?_) rfl⟩
      · -- the owner who approves is an account
        rintro (hzero | hhome)
        · exact absurd hzero hz
        · change (erc721 asset).owners entry = .cNFT asset at hhome
          change Address.account caller = (erc721 asset).owners entry ∨
            (erc721 asset).operatorApprovals ((erc721 asset).owners entry) (.account caller) = true
            at hcaller
          rw [hhome, hstrays.operators, hreg.sound.guarded.operators asset _ _ rfl rfl] at hcaller
          simp at hcaller
      · exact ⟨rfl, Function.update_of_ne hid _ _⟩
  | setApprovalForAll caller asset operator approved =>
    obtain ⟨_, happroved, rfl⟩ := map_eq_ok.mp h
    obtain ⟨hne, rfl⟩ := ERC721.setApprovalForAll_eq_ok.mp happroved
    have hs' := ERC721.setApprovalForAll_eq_ok.mpr
      ⟨hne, Eq.refl { s.erc721 asset with
        operatorApprovals := Function.update (s.erc721 asset).operatorApprovals (.account caller)
          (Function.update ((s.erc721 asset).operatorApprovals (.account caller)) operator
            approved) }⟩
    refine ⟨_, .inr (map_eq_ok.mpr ⟨_, hs', rfl⟩), hstrays.of_nft ?_ fun id => ?_⟩
    · exact congrArg (fun approvals => Function.update approvals (.account caller)
        (Function.update (approvals (.account caller)) operator approved)) (hstrays.operators asset)
    · exact (hstrays.token asset id).imp (fun hsame => ⟨hsame.owner, hsame.approval⟩)
        fun hlent => ⟨hlent.1, hlent.2.receipt, hlent.2.unapproved⟩
  | mintNFT asset recipient entry =>
    rcases hstrays.token asset entry with hsame | ⟨hout, hlent⟩
    · apply hsteps
      apply hstrays.follow_nft (TokenCall.run · _) hsame _ h
      exact fun tables receipts => graft_withERC721 s tables receipts asset entry
        (ERC721.mint · recipient entry) fun self table => self.graft_mint table entry _
    · obtain ⟨_, hminted, rfl⟩ := map_eq_ok.mp h
      obtain ⟨-, hfree, rfl⟩ := ERC721.mint_eq_ok.mp hminted
      refine ⟨s, .inl rfl, hstrays.moves_on hout ⟨hlent.receipt, ?_⟩ (fun id hid => ?_) rfl⟩
      · exact fun _ => hlent.unapproved (.inl hfree)
      · exact ⟨Function.update_of_ne hid _ _, rfl⟩
  | burnNFT caller asset entry =>
    rcases hstrays.token asset entry with hsame | ⟨hout, hlent⟩
    · apply hsteps
      apply hstrays.follow_nft (TokenCall.run · _) hsame _ h
      exact fun tables receipts => graft_withERC721 s tables receipts asset entry
        (ERC721.burn · (.account caller) entry) fun self table => self.graft_burn table entry _
    · obtain ⟨_, hburned, rfl⟩ := map_eq_ok.mp h
      obtain ⟨-, -, rfl⟩ := ERC721.burn_eq_ok.mp hburned
      exact ⟨s, .inl rfl, hstrays.gives_on hout hlent⟩
  | mintCNFT caller own recipient entry =>
    have hmint := h
    obtain ⟨asset, hasset, hmint⟩ := bind_eq_ok.mp hmint
    obtain ⟨⟨_, _⟩, hmint, -⟩ := bind_pure_eq_ok.mp hmint
    obtain ⟨-, hreceipt, -⟩ := CNFT.mint_eq_ok.mp hmint
    apply hsteps
    apply hstrays.follow_nft (TokenCall.run · _) (hstrays.sameAt_of_receipt hreceipt) _ h
    intro tables receipts
    exact graft_mintCNFT s tables receipts asset entry (.inr (State.cNFTAt_eq_ok.mp hasset)) _ _
  | burnCNFT caller own entry =>
    have hburn := h
    obtain ⟨asset, hasset, hburn⟩ := bind_eq_ok.mp hburn
    obtain ⟨⟨_, _⟩, hburn, -⟩ := bind_pure_eq_ok.mp hburn
    obtain ⟨-, -, -, howner, -⟩ := CNFT.burn_eq_ok.mp hburn
    apply hsteps
    apply hstrays.follow_nft (TokenCall.run · _) (hstrays.sameAt_of_wrapped hwrapped howner) _ h
    intro tables receipts
    exact graft_burnCNFT s tables receipts asset entry (.inr (State.cNFTAt_eq_ok.mp hasset)) _

end Confetti
