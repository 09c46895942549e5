import Confetti.Library.BinomialExpansion
import Confetti.Library.BitField
import Confetti.Library.Directory
import Confetti.Library.Drift
import Confetti.Library.FiniteLedger
import Confetti.Library.HalfUp
import Confetti.Library.KeyList
import Confetti.Library.Outcome
import Confetti.Library.Refinement
import Confetti.Library.StepFunction
import Confetti.Library.TransitionSystem
import Confetti.Types.DataTypes
import Confetti.Types.Errors
import Confetti.Types.Uint256
import Confetti.Math.FixedPoint
import Confetti.Math.MathUtils
import Confetti.Math.PercentageMath
import Confetti.Math.WadRayMath
import Confetti.Configuration.ConfigurationWord
import Confetti.Configuration.NftConfiguration
import Confetti.Configuration.ReserveConfiguration
import Confetti.Tokens.CNFT
import Confetti.Tokens.CryptoPunks
import Confetti.Tokens.ERC20
import Confetti.Tokens.ERC721
import Confetti.Oracle.NFTOracle
import Confetti.Oracle.PriceHistory
import Confetti.Oracle.ReserveOracle
import Confetti.Oracle.ReserveTwap
import Confetti.Protocol.CToken
import Confetti.Protocol.DebtToken
import Confetti.Protocol.Deployment
import Confetti.Protocol.InterestRate
import Confetti.Protocol.LendPool
import Confetti.Protocol.LendPoolConfigurator
import Confetti.Protocol.LendPoolLoan
import Confetti.Protocol.State
import Confetti.Protocol.System
import Confetti.Logic.BorrowLogic
import Confetti.Logic.GenericLogic
import Confetti.Logic.LiquidateLogic
import Confetti.Logic.ReserveIndexes
import Confetti.Logic.ReserveLogic
import Confetti.Logic.SupplyLogic
import Confetti.Logic.ValidationLogic
import Confetti.Effects.Borrowing
import Confetti.Effects.Frames
import Confetti.Effects.LoanBook
import Confetti.Effects.Outside
import Confetti.Effects.Payment
import Confetti.Effects.PoolStep
import Confetti.Effects.Positions
import Confetti.Effects.Quotes
import Confetti.Effects.Rebalancing
import Confetti.Effects.Selling
import Confetti.Effects.Steps
import Confetti.Effects.Supplying
import Confetti.Invariants.AssetLists
import Confetti.Invariants.Batches
import Confetti.Invariants.Book
import Confetti.Invariants.Custody
import Confetti.Invariants.DepositorSupply
import Confetti.Invariants.Escrow
import Confetti.Invariants.Ledger
import Confetti.Invariants.PriceFeeds
import Confetti.Invariants.Registry
import Confetti.Invariants.Shortfall
import Confetti.Invariants.Solvency
import Confetti.Invariants.TokenSupply
import Confetti.Gateway.Approvals
import Confetti.Gateway.Belongings
import Confetti.Gateway.Holdings
import Confetti.Gateway.Owners
import Confetti.Gateway.PoolCharges
import Confetti.Gateway.PunkGateway
import Confetti.Gateway.PunkPasses
import Confetti.Gateway.Refinement
import Confetti.Gateway.Segments
import Confetti.Gateway.System
import Confetti.Gateway.WETHGateway
import Confetti.Gateway.WETHPasses
import Confetti.Gateway.World
import Confetti.Callbacks.FlashLoans
import Confetti.Callbacks.Reactions
import Confetti.Callbacks.Relocation
import Confetti.Callbacks.Simulation
import Confetti.Callbacks.System
import Confetti.Callbacks.Whereabouts
import Confetti.Access.AddressesProvider
import Confetti.Access.Governance
import Confetti.Access.Parameters
import Confetti.Properties.BalanceMoves
import Confetti.Properties.BorrowingPower
import Confetti.Properties.CompoundInterest
import Confetti.Properties.ConfigurationCodec
import Confetti.Properties.ConfigurationRules
import Confetti.Properties.CoveredDeposits
import Confetti.Properties.CurrentRates
import Confetti.Properties.Deactivation
import Confetti.Properties.DebtLedger
import Confetti.Properties.DelegatedCredit
import Confetti.Properties.DepositorBalances
import Confetti.Properties.DisplacedBuyers
import Confetti.Properties.ETHWithdrawals
import Confetti.Properties.EscrowCoverage
import Confetti.Properties.ExactQuotes
import Confetti.Properties.FactorChange
import Confetti.Properties.FixedPointRounding
import Confetti.Properties.Freezing
import Confetti.Properties.FreshLoans
import Confetti.Properties.FullRepayment
import Confetti.Properties.FullWithdrawal
import Confetti.Properties.GatewayApprovals
import Confetti.Properties.GatewayStates
import Confetti.Properties.HealthFactors
import Confetti.Properties.IdleAccounts
import Confetti.Properties.InterestMargin
import Confetti.Properties.ListPositions
import Confetti.Properties.LiveDebts
import Confetti.Properties.LoanHistory
import Confetti.Properties.LoanRegistry
import Confetti.Properties.NFTCustody
import Confetti.Properties.OracleKeys
import Confetti.Properties.PassThrough
import Confetti.Properties.Pause
import Confetti.Properties.ProxyLives
import Confetti.Properties.RateAvailability
import Confetti.Properties.RateCurve
import Confetti.Properties.Receipts
import Confetti.Properties.RedeemBounds
import Confetti.Properties.Reentrancy
import Confetti.Properties.ReserveTwaps
import Confetti.Properties.Roles
import Confetti.Properties.RoundTrips
import Confetti.Properties.SaleExit
import Confetti.Properties.SaleFields
import Confetti.Properties.ShownDebts
import Confetti.Properties.TwapPrices
import Confetti.Properties.Views
