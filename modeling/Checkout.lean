import Checkout.Flags.Store
import Checkout.Http.Collaborators
import Checkout.Order.Describe
import Checkout.Order.Json
import Checkout.Publish.Producer
import Checkout.Saga.Error
import Checkout.Saga.Log
import Checkout.Saga.Metrics
import Checkout.Saga.Run
import Checkout.Saga.State
import Checkout.Services.Tables
import Checkout.Services.Ledger
import Checkout.Services.World
import Checkout.TraceContext
import Checkout.Wire.Order
import Checkout.Proofs.Progress
import Checkout.Proofs.Trail
import Checkout.Proofs.Account
import Checkout.Proofs.Preparing
import Checkout.Proofs.Placing
import Checkout.Proofs.Questions
import Checkout.Proofs.CallTiming
import Checkout.Proofs.Finishing
import Checkout.Proofs.Totals
import Checkout.Proofs.Paying
import Checkout.Proofs.CallOrder
import Checkout.Proofs.ChargedAmount
import Checkout.Proofs.Bookkeeping
import Checkout.Proofs.PaidUnshipped
import Checkout.Proofs.CommitPoint
import Checkout.Proofs.MessageRows
import Checkout.Proofs.Amounts
import Checkout.Proofs.ExactMoney
import Checkout.Proofs.Identifiers
import Checkout.Proofs.WrittenOrders
import Checkout.Proofs.Milestones
import Checkout.Proofs.ReachedStates
import Checkout.Proofs.Turns
import Checkout.Proofs.PublishedOrders
import Checkout.Proofs.Segments
import Checkout.Proofs.EndedContexts
import Checkout.Proofs.Ledgers
import Checkout.Proofs.Histories
import Checkout.Proofs.Protocols
import Checkout.Proofs.SharedWorlds
import Checkout.Proofs.Conduct
import Checkout.Proofs.Sharing
import Checkout.Proofs.Crowds
import Checkout.Proofs.JsonTexts
import Checkout.Proofs.JsonForms
import Checkout.Proofs.Consumption
import Checkout.Proofs.ReadOrders
import Checkout.Proofs.Races
import Checkout.Proofs.SettledPublications
import Checkout.Proofs.Statuses
import Checkout.Proofs.Requests
import Checkout.Proofs.HeaderTexts
import Checkout.Proofs.TraceHeaders
import Checkout.Proofs.TracePropagation
import Checkout.Proofs.CardConfinement
import Checkout.Proofs.UnknownFields
import Checkout.Proofs.OrderFields
import Checkout.Proofs.Truncations
import Checkout.Proofs.CutOrders
import Checkout.Proofs.Numerals
import Checkout.Proofs.ParentHeaders
import Checkout.Proofs.RepeatedSums
import Checkout.Proofs.PrefixTotals
import Checkout.Proofs.AgreeingEnds
import Checkout.Proofs.DerivedContexts
import Checkout.Proofs.FirstFailures
import Checkout.Proofs.FaultInjection
import Checkout.Proofs.FlagReplies
import Checkout.Proofs.ContainedPaths
import Checkout.Proofs.IdentifierTexts
import Checkout.Proofs.Decimals
import Checkout.Proofs.PrintedAmounts
import Checkout.Proofs.Settings
import Checkout.Proofs.NormalAddresses
import Checkout.Proofs.Conversions
import Checkout.Proofs.KeptEntries
import Checkout.Proofs.ReportedSends
