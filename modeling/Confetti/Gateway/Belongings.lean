import Confetti.Gateway.World
import Confetti.Invariants.Custody

/-! Who has the NFTs and the punks, and which of them the gateways had before. -/
namespace Confetti

inductive Thing
  | nft (asset : Address) (tokenId : Nat)
  | punk (punkIndex : Nat)
  deriving DecidableEq

def World.owner (w : World) : Thing → Address
  | .nft asset tokenId => (w.state.erc721 asset).owners tokenId
  | .punk punkIndex => w.punks.punkIndexToAddress punkIndex

/-- The gateways hold what they held at first, apart from things that none of them held. -/
structure Held (setup : GatewaySetup) (things : List Thing) (w₀ w : World) : Prop where
  same : ∀ x, x ∉ things → ∀ g, setup.IsGateway g → (w.owner x = g ↔ w₀.owner x = g)
  apart : ∀ x ∈ things, ¬setup.IsGateway (w₀.owner x)

variable {setup : GatewaySetup} {w₀ w w' : World} {things : List Thing} {x : Thing} {a : Address}

@[simp] theorem owner_nft (w : World) (asset : Address) (tokenId : Nat) :
    w.owner (.nft asset tokenId) = (w.state.erc721 asset).owners tokenId := rfl

@[simp] theorem owner_punk (w : World) (punkIndex : Nat) :
    w.owner (.punk punkIndex) = w.punks.punkIndexToAddress punkIndex := rfl

theorem owner_of_same (herc721 : w'.state.erc721 = w.state.erc721) (hpunks : w'.punks = w.punks) :
    w'.owner = w.owner := by
  funext x
  cases x with
  | nft asset tokenId => rw [owner_nft, owner_nft, herc721]
  | punk punkIndex => rw [owner_punk, owner_punk, hpunks]

theorem owner_of_given {nft : ERC721} {asset : Address} {tokenId : Nat}
    (herc721 : w'.state.erc721 = Function.update w.state.erc721 asset nft)
    (hnft : nft.owners = Function.update (w.state.erc721 asset).owners tokenId a)
    (hpunks : w'.punks = w.punks) :
    w'.owner = Function.update w.owner (.nft asset tokenId) a := by
  funext x
  cases x with
  | nft other otherId =>
    rw [Function.update_apply, owner_nft, owner_nft, herc721, moved_owners hnft]
    simp
  | punk punkIndex =>
    have hne : Thing.punk punkIndex ≠ .nft asset tokenId := nofun
    rw [Function.update_of_ne hne, owner_punk, owner_punk, hpunks]

theorem owner_of_punk {punkIndex : Nat} (herc721 : w'.state.erc721 = w.state.erc721)
    (hpunks : w'.punks.punkIndexToAddress =
      Function.update w.punks.punkIndexToAddress punkIndex a) :
    w'.owner = Function.update w.owner (.punk punkIndex) a := by
  funext x
  cases x with
  | nft other otherId =>
    have hne : Thing.nft other otherId ≠ .punk punkIndex := nofun
    rw [Function.update_of_ne hne, owner_nft, owner_nft, herc721]
  | punk other =>
    rw [Function.update_apply, owner_punk, owner_punk, hpunks, Function.update_apply]
    simp

namespace Held

theorem refl : Held setup [] w w := ⟨fun _ _ _ _ => Iff.rfl, fun _ h => by cases h⟩

theorem of_owner (h : w'.owner = w.owner) : Held setup [] w w' := by
  refine ⟨fun x _ g _ => ?_, fun _ h => by cases h⟩
  rw [h]

theorem of_mem_iff {things' : List Thing} (h : Held setup things w₀ w)
    (hmem : ∀ x, x ∈ things' ↔ x ∈ things) : Held setup things' w₀ w :=
  ⟨fun x hx => h.same x fun hin => hx ((hmem x).mpr hin), fun x hx => h.apart x ((hmem x).mp hx)⟩

theorem trans (h : Held setup things w₀ w) (h' : Held setup [] w w') : Held setup things w₀ w' :=
  ⟨fun x hx g hg => (h'.same x nofun g hg).trans (h.same x hx g hg), h.apart⟩

theorem not_held (h : Held setup things w₀ w) (hx : ¬setup.IsGateway (w.owner x)) :
    ¬setup.IsGateway (w₀.owner x) := by
  intro hgateway
  by_cases hmem : x ∈ things
  · exact h.apart x hmem hgateway
  · have hnow := (h.same x hmem _ hgateway).mpr rfl
    rw [hnow] at hx
    exact hx hgateway

theorem taken (h : Held setup things w₀ w) (hx : ¬setup.IsGateway (w.owner x))
    (howner : w'.owner = Function.update w.owner x a) : Held setup (x :: things) w₀ w' := by
  refine ⟨fun y hy g hg => ?_, fun y hy => ?_⟩
  · rw [howner, Function.update_of_ne (List.ne_of_not_mem_cons hy)]
    exact h.same y (List.not_mem_of_not_mem_cons hy) g hg
  · rcases List.mem_cons.mp hy with rfl | hmem
    · exact h.not_held hx
    · exact h.apart y hmem

theorem placed (h : Held setup (x :: things) w₀ w) (ha : ¬setup.IsGateway a)
    (howner : w'.owner = Function.update w.owner x a) : Held setup things w₀ w' := by
  refine ⟨fun y hy g hg => ?_, fun y hy => h.apart y (List.mem_cons_of_mem x hy)⟩
  rw [howner]
  by_cases heq : y = x
  · subst heq
    rw [Function.update_self]
    constructor
    · rintro rfl
      exact absurd hg ha
    · intro hfirst
      have hnot := h.apart y List.mem_cons_self
      rw [hfirst] at hnot
      exact absurd hg hnot
  · rw [Function.update_of_ne heq]
    apply h.same y _ g hg
    rw [List.mem_cons, not_or]
    exact ⟨heq, hy⟩

theorem handed (hx : ¬setup.IsGateway (w.owner x)) (ha : ¬setup.IsGateway a)
    (howner : w'.owner = Function.update w.owner x a) : Held setup [] w w' := by
  have htaken : Held setup [x] w w' := refl.taken hx howner
  apply htaken.placed ha
  rw [howner, Function.update_idem]

end Held

end Confetti
