import Confetti.Callbacks.Reactions

/-! Calls of tokens with receivers that call back, flash loans among them, and from these
every tree of calls. -/
namespace Confetti
open Outcome TransitionSystem

variable {out out' : Address → Nat → Prop} {s s' c c' : State} {g g' : Execution}
  {asset : Address} {tokenId n : Nat} {tokenIds : List Nat}

/-! ### Receipts -/

def TokenCall.burnsReceipt : TokenCall → Bool
  | .burnCNFT .. => true
  | _ => false

theorem burnWith_pure {address : Address} :
    CNFT.burnWith address n tokenId pure g = .ok g' ↔
      g.state.burnCNFT address (.account n) tokenId = .ok g'.state ∧ g'.entered = g.entered := by
  simp only [CNFT.burnWith, State.burnCNFT, Execution.received, bind_eq_ok, require_eq_ok,
    exists_const, ite_self, pure_eq_ok, State.safeTransferNFT_eq_ok, State.cNFTAt_eq_ok]
  constructor
  · rintro ⟨asset, rfl, hcontract, hreceipt, hminter, _, ⟨howner, -, -, hz, haccepts, rfl⟩, _, rfl,
      -, rfl⟩
    refine ⟨⟨asset, rfl, (_, _), ?_, rfl⟩, rfl⟩
    exact CNFT.burn_eq_ok.mpr ⟨hcontract, hreceipt, hminter, howner, hz, haccepts, rfl, rfl⟩
  · rintro ⟨⟨asset, rfl, ⟨nft, receipts⟩, hburn, hstate⟩, hentered⟩
    obtain ⟨hcontract, hreceipt, hminter, howner, hz, haccepts, rfl, rfl⟩ := CNFT.burn_eq_ok.mp hburn
    refine ⟨asset, rfl, hcontract, hreceipt, hminter, _,
      ⟨howner, by simp, .inl howner.symm, hz, haccepts, rfl⟩, _, rfl, hreceipt, ?_⟩
    obtain ⟨state, entered⟩ := g'
    subst hstate hentered
    rfl

theorem Safe.tokenCall {callback : Callback} {call : TokenCall} (h : Safe callback)
    (hburn : call.burnsReceipt = true → callback = pure) :
    Safe fun g => call.runWith callback g := by
  have hplain := safe_of_tracks (TokenCall.run · call) fun _ _ _ _ hs hm hrun =>
    TokenCall.tracks hs hm hrun
  cases call with
  | safeTransferNFT caller nftAsset sender recipient entry =>
    intro out s g g' hs hm hrun
    obtain ⟨c, htransfer, hrun⟩ := bind_eq_ok.mp hrun
    have hcall : TokenCall.run g.state
        (.safeTransferNFT caller nftAsset sender recipient entry) = .ok c := htransfer
    exact (h.received recipient).after (g := { g with state := c }) hs
      (TokenCall.tracks hs hm hcall) hrun
  | burnCNFT caller nftAsset entry =>
    obtain rfl := hburn rfl
    intro out s g g' hs hm hrun
    obtain ⟨hstate, hentered⟩ := burnWith_pure.mp hrun
    have hcall : TokenCall.run g.state (.burnCNFT caller nftAsset entry) = .ok g'.state := hstate
    exact ⟨hentered, TokenCall.tracks hs hm hcall⟩
  | _ => exact hplain

/-! ### Flash loans -/

theorem Matches.mono (h : Matches out s c)
    (hmore : ∀ asset tokenId, out asset tokenId → out' asset tokenId) : Matches out' s c := by
  obtain ⟨erc721, hc, hoperators, htoken⟩ := h
  refine ⟨erc721, hc, hoperators, fun asset tokenId => ?_⟩
  exact (htoken asset tokenId).imp_right fun hlent => ⟨hmore _ _ hlent.1, hlent.2⟩

def including (out : Address → Nat → Prop) (asset : Address) (tokenIds : List Nat) :
    Address → Nat → Prop := fun other tokenId =>
  out other tokenId ∨ (other = asset ∧ tokenId ∈ tokenIds)

/-- Step 1: the NFTs go out, and nothing else happens. -/
theorem lendEach_matches {receiver : Address} {callbacks : List Callback}
    (hidle : ∀ callback ∈ callbacks, callback = pure)
    (hout : ∀ tokenId ∈ tokenIds, out asset tokenId ∧ (s.cNFTs asset).owners tokenId ≠ .zero)
    (hm : Matches out s g.state)
    (h : CNFT.lendEach asset receiver g tokenIds callbacks = .ok g') :
    g'.entered = g.entered ∧ Matches out s g'.state := by
  induction tokenIds generalizing g callbacks with
  | nil =>
    obtain rfl := pure_eq_ok.mp h
    exact ⟨rfl, hm⟩
  | cons tokenId tokenIds ih =>
    obtain ⟨c, hlend, h⟩ := bind_eq_ok.mp h
    obtain ⟨m, hreceived, h⟩ := bind_eq_ok.mp h
    have hfirst : callbacks.headD pure = pure := by
      cases callbacks with
      | nil => rfl
      | cons callback callbacks => exact hidle callback List.mem_cons_self
    rw [hfirst] at hreceived
    simp only [Execution.received, ite_self] at hreceived
    obtain rfl := pure_eq_ok.mp hreceived
    have hlent : Matches out s c := by
      obtain ⟨-, -, -, -, -, rfl⟩ := State.safeTransferNFT_eq_ok.mp hlend
      obtain ⟨erc721, hc, hstrays⟩ := hm
      obtain ⟨hmay, hreceipt⟩ := hout tokenId List.mem_cons_self
      rw [hc]
      refine hstrays.moves_on hmay ⟨hreceipt, ?_⟩ (fun _ => ERC721.sameAt_given _ _) rfl
      exact fun _ => Function.update_self _ _ _
    exact ih (g := { g with state := c }) (fun callback hin => hidle callback (List.mem_of_mem_tail hin))
      (fun id hid => hout id (List.mem_cons_of_mem tokenId hid)) hlent h

theorem Matches.comes_home (h : Matches (including out asset (tokenId :: tokenIds)) s c)
    (hwrapped : Wrapped s) (howner : (c.erc721 asset).owners tokenId = .cNFT asset) :
    Matches (including out asset tokenIds) s c := by
  obtain ⟨erc721, rfl, hstrays⟩ := h
  refine ⟨erc721, rfl, hstrays.operators, fun other id => ?_⟩
  rcases hstrays.token other id with hsame | ⟨hout, hlent⟩
  · exact .inl hsame
  · by_cases hentry : other = asset ∧ id = tokenId
    · obtain ⟨rfl, rfl⟩ := hentry
      exact .inl (hstrays.sameAt_of_wrapped hwrapped howner)
    · refine .inr ⟨hout.imp_right ?_, hlent⟩
      rintro ⟨rfl, hid⟩
      exact ⟨rfl, (List.mem_cons.mp hid).resolve_left fun heq => hentry ⟨rfl, heq⟩⟩

/-- Step 3: the NFTs come back, which their holder could have done too. -/
theorem returnEach_tracks (hs : Reachable operations s)
    (hm : Matches (including out asset tokenIds) s c)
    (h : CNFT.returnEach asset (.account n) c tokenIds = .ok c') : Tracks out s c' := by
  induction tokenIds generalizing s c with
  | nil =>
    obtain rfl := pure_eq_ok.mp h
    apply Tracks.of_matches
    apply hm.mono
    intro other id hin
    exact hin.resolve_right fun hin => List.not_mem_nil hin.2
  | cons tokenId tokenIds ih =>
    unfold CNFT.returnEach at h
    rw [List.foldlM_cons] at h
    obtain ⟨m, hreturn, h⟩ := bind_eq_ok.mp h
    obtain ⟨howner, hz, -, hr, haccepts, hm'⟩ := State.safeTransferNFT_eq_ok.mp hreturn
    have hcall : TokenCall.run c
        (.safeTransferNFT n asset (.account n) (.cNFT asset) tokenId) = .ok m :=
      State.safeTransferNFT_eq_ok.mpr ⟨howner, hz, .inl howner.symm, hr, haccepts, hm'⟩
    have hhome : (m.erc721 asset).owners tokenId = .cNFT asset := by
      rw [hm']
      simp [ERC721.given]
    apply (TokenCall.tracks hs hm hcall).bind hs
    intro s' hs' _ hmatches
    exact ih hs' (hmatches.comes_home (wrapped_of_reachable hs') hhome) h

theorem checkOwners_spec {self : CNFT} {caller : Address} {u : Unit}
    (h : tokenIds.forM (CNFT.checkOwner self caller) = .ok u) :
    ∀ tokenId ∈ tokenIds, self.owners tokenId ≠ .zero := by
  induction tokenIds with
  | nil => nofun
  | cons tokenId tokenIds ih =>
    change (CNFT.checkOwner self caller tokenId >>= fun _ =>
      tokenIds.forM (CNFT.checkOwner self caller)) = .ok u at h
    obtain ⟨_, hfirst, h⟩ := bind_eq_ok.mp h
    obtain ⟨_, hreceipt, -⟩ := bind_eq_ok.mp hfirst
    intro id hid
    rcases List.mem_cons.mp hid with rfl | hid
    · exact require_eq_ok.mp hreceipt
    · exact ih h id hid

theorem Safe.flashLoan {callbacks : List Callback} {executeOperation : Callback}
    (h : Safe executeOperation) (hidle : ∀ callback ∈ callbacks, callback = pure)
    (nftAsset receiver : Address) (tokenIds : List Nat) (result : Bool) :
    Safe fun g => CNFT.flashLoan (g.state.cNFTProxys nftAsset) n receiver tokenIds callbacks
      executeOperation result g := by
  intro out s g g' hs hm hrun
  simp only [CNFT.flashLoan, bind_eq_ok, require_eq_ok, exists_const, pure_eq_ok] at hrun
  obtain ⟨asset, -, _, howners, lent, hlend, hcode, m, hexecute, -, c', hreturn, rfl⟩ := hrun
  have hreceipts : ∀ tokenId ∈ tokenIds, (s.cNFTs asset).owners tokenId ≠ .zero := by
    obtain ⟨_, hc, -⟩ := hm
    rw [hc] at howners
    exact checkOwners_spec howners
  have hmore : Matches (including out asset tokenIds) s g.state := hm.mono fun _ _ => .inl
  obtain ⟨hentered, hlent⟩ := lendEach_matches hidle
    (fun tokenId hin => ⟨.inr ⟨rfl, hin⟩, hreceipts tokenId hin⟩) hmore hlend
  obtain ⟨hentered', htracks⟩ := h _ s lent m hs hlent hexecute
  refine ⟨hentered'.trans hentered, htracks.bind hs fun s' hs' _ hm' => ?_⟩
  cases receiver with
  | account k => exact returnEach_tracks hs' hm' hreturn
  | _ => cases hcode

end Confetti
