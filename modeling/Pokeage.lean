import Pokeage.Infra.Machine
import Pokeage.Program.Opening
import Pokeage.Program.Properties.Ledger
import Pokeage.Program.Properties.FailClosed
import Pokeage.Program.Properties.Rates
import Pokeage.Program.Properties.MintedOnly
import Pokeage.Program.Properties.SinkRouting
import Pokeage.Program.Properties.Solvency
import Pokeage.Program.Properties.Custody
import Pokeage.Program.Properties.Books
import Pokeage.Program.Properties.Authorization
import Pokeage.Program.Properties.Escrow
import Pokeage.Program.Properties.Recover
import Pokeage.Program.Properties.Settlement
import Pokeage.Program.Properties.Pause
import Pokeage.Program.Properties.Purchase
import Pokeage.Program.Properties.Lifecycle
import Pokeage.Program.Properties.Conservation
import Pokeage.Program.Properties.Traits
import Pokeage.Program.Properties.Capacity
import Pokeage.Program.Properties.BasisPoints
import Pokeage.Game.Rng
import Pokeage.Game.Monster
import Pokeage.Game.Properties.Resume
import Pokeage.Game.Properties.Badges
import Pokeage.Game.Properties.LevelCap
import Pokeage.Game.Properties.Evolution
import Pokeage.Game.Properties.Tally
import Pokeage.Game.Properties.Power
import Pokeage.Game.Properties.GymDamage
import Pokeage.Game.Properties.BattleLog
import Pokeage.Game.Properties.MoveCache
import Pokeage.Game.Properties.AutoFight
import Pokeage.Game.Properties.Experience
import Pokeage.Game.Properties.Release
import Pokeage.Game.Properties.RarePool
import Pokeage.Game.Properties.Bond
import Pokeage.Game.Properties.Absence
import Pokeage.Sdk.Properties.Layouts
import Pokeage.Sdk.Properties.Calls
import Pokeage.Sdk.Properties.RoundTrip
import Pokeage.Cli.Properties.Projection
import Pokeage.Program.Properties.EventLog
import Pokeage.Program.Properties.Availability
import Pokeage.Program.Properties.Supply
import Pokeage.Program.Properties.Interleaving
import Pokeage.Program.Properties.PauseGates
import Pokeage.Cli.Properties.Views
import Pokeage.Game.Properties.Opponents
import Pokeage.Game.Properties.Afflictions
import Pokeage.Game.Properties.Cooldown
import Pokeage.Game.Properties.Switches
import Pokeage.Sdk.Properties.Quotes
import Pokeage.Sdk.Properties.Prices
import Pokeage.Game.Properties.Resave
import Pokeage.Game.Properties.Batch
import Pokeage.Game.Properties.Draws
