import Numu.Foundation.Run
import Numu.Foundation.Table
import Numu.Foundation.IntegerText
import Numu.Foundation.Binary64
import Numu.Foundation.Rounding
import Numu.Foundation.UuidText
import Numu.Foundation.FloatText
import Numu.Foundation.FloatRepr
import Numu.Foundation.JsonText
import Numu.Foundation.JsonRoundTrip
import Numu.Foundation.JsonScan
import Numu.Foundation.IsoDate
import Numu.Foundation.DecimalContext
import Numu.Foundation.Journal
import Numu.Foundation.Outcome
import Numu.Foundation.Carried
import Numu.Foundation.Counters
import Numu.Foundation.Window
import Numu.Orders.Order
import Numu.Stock.StockService
import Numu.Stock.LineDelta
import Numu.Stock.Inverse
import Numu.Orders.OrderRepository
import Numu.Orders.UpdateStatus
import Numu.Orders.StatusHistory
import Numu.Orders.Goods
import Numu.Stock.Conservation
import Numu.Payments.Webhooks
import Numu.Payments.Coverage
import Numu.Payments.FawryStock
import Numu.Payments.ExpirySweep
import Numu.Refunds.Refund
import Numu.Refunds.Budget
import Numu.Promotions.DiscountRule
import Numu.Promotions.DiscountCalculator
import Numu.Promotions.Accounting
import Numu.Promotions.Scope
import Numu.Wallet.WalletService
import Numu.Wallet.Topup
import Numu.Wallet.TopupHold
import Numu.GiftCards.GiftCardService
import Numu.GiftCards.Ledger
import Numu.GiftCards.Voided
import Numu.Shipping.ShippingZone
import Numu.Shipping.Coverage
import Numu.Shipping.ShippingResolver
import Numu.Shipping.Agreement
import Numu.Shipping.Checkout
import Numu.Invoices.TaxResolver
import Numu.Invoices.Invoice
import Numu.Orders.CreateOrder
import Numu.Orders.PartialAcceptance
import Numu.Invoices.InvoiceFromOrder
import Numu.Invoices.VatAgreement
import Numu.Payments.AutoApproval
import Numu.Payments.PaymentProof
import Numu.Payments.ProofCoverage
import Numu.Payments.ApprovalCaps
import Numu.AppBilling.Books
import Numu.AppBilling.Subscription
import Numu.AppBilling.Conservation
import Numu.AppBilling.Payable
import Numu.AppBilling.Periods
import Numu.Subscriptions.Renewal
import Numu.Entitlements.Rules
import Numu.Entitlements.Snapshot
import Numu.ApiLimits.Limits
import Numu.Stock.Transfers
import Numu.Stock.LevelMirror
import Numu.Refunds.ReturnRequests
import Numu.Foundation.Grouping
import Numu.Payments.Reconciliation
import Numu.Recovery.RecoveryFlow
import Numu.Recovery.Rollup
import Numu.Recovery.Finality
import Numu.Autopilot.DeliveryCheck
import Numu.Autopilot.Lifecycle
import Numu.Autopilot.ExceptionsReply
import Numu.Foundation.Json
import Numu.Themes.ThemeSettingsV3
import Numu.Themes.Mappers
import Numu.Themes.Resolution
import Numu.Themes.KillSwitch
import Numu.Themes.UpdateClassifier
import Numu.Themes.UpdateSafety
import Numu.Access.PermissionService
import Numu.Access.Precedence
import Numu.Access.Expiry
import Numu.Meta.Outbox
import Numu.Meta.AttemptCount
import Numu.Meta.DedupWindow
import Numu.Meta.Exclusive
import Numu.Webhooks.DeliveryLog
import Numu.Webhooks.Leasing
import Numu.Campaigns.Runner
import Numu.Campaigns.OnceEach
import Numu.Campaigns.StateMachine
import Numu.BackInStock.Waiters
import Numu.BackInStock.Stopping
import Numu.BackInStock.DailyCap
import Numu.Auth.RefreshToken
import Numu.Auth.Rotation
import Numu.Overage.Billing
import Numu.Payments.IntentFinality
import Numu.AppBilling.PayoutBound
import Numu.Foundation.TopSums
import Numu.Promotions.Multibuy
import Numu.Promotions.Bundles
import Numu.Promotions.TierLadders
import Numu.Promotions.AddingUnits
import Numu.Stock.Headline
import Numu.Shipping.Shipment
import Numu.Shipping.CarrierReports
import Numu.Shipping.BostaCallback
import Numu.Shipping.CarrierWebhook
import Numu.Attribution.AttributionModels
import Numu.Attribution.MultiTouch
import Numu.Promotions.BuyGet
import Numu.Promotions.Turns
import Numu.Promotions.ListOrder
import Numu.Promotions.CartMinimum
import Numu.Promotions.Spelling
import Numu.Promotions.Coupon
import Numu.Promotions.CouponSync
import Numu.Promotions.CouponBogo
import Numu.Foundation.LargestRemainder
import Numu.Invoices.DiscountShares
import Numu.Foundation.ExactFloats
import Numu.Invoices.RateNotations
import Numu.Invoices.EtaDocument
import Numu.Invoices.EtaReconciles
import Numu.Foundation.Shares
import Numu.ValueObjects.Money
import Numu.Foundation.Rescale
import Numu.Promotions.AppliedSnapshot
import Numu.Promotions.CheckoutDiscounts
import Numu.Promotions.CheckoutTotals
import Numu.Orders.StatusEvents
import Numu.Orders.LineValues
import Numu.Refunds.Settlement
import Numu.Foundation.Latch
import Numu.Wallet.CheckoutGate
import Numu.Shipping.FreeThreshold
import Numu.AppBilling.UsageCap
import Numu.Foundation.Vouchers
import Numu.AppBilling.CouponBudget
import Numu.AppBilling.InvoiceNumbers
import Numu.Foundation.Recency
import Numu.Catalog.Metafields
import Numu.Catalog.SlugHistory
import Numu.Foundation.Keyed
import Numu.Carts.Basket
import Numu.Foundation.Separated
import Numu.ApiLimits.Usage
import Numu.ApiLimits.UsageRoundTrip
import Numu.ApiLimits.Idempotency
import Numu.Attribution.CreditRange
import Numu.Entitlements.Expiry
import Numu.Entitlements.Seats
import Numu.Foundation.Calendar
import Numu.AppBilling.Statement
import Numu.Themes.Autosave
import Numu.Themes.UpdateChain
import Numu.Foundation.LastWrite
import Numu.Themes.LegacyView
import Numu.Themes.LegacyRoundTrip
import Numu.Foundation.Repair
import Numu.Themes.Presets
import Numu.Themes.PresetReconcile
import Numu.Auth.OtpVerify
import Numu.Auth.Lockout
import Numu.Shipping.CodRoundTrip
import Numu.Wallet.NightlyHeal
import Numu.Foundation.Assignment
import Numu.Orders.ImportMapping
import Numu.Orders.CheckoutReplay
import Numu.Shipping.StatusSheet
import Numu.Access.ScopeCompiler
import Numu.Access.Scopes
import Numu.Access.TemporaryGrants
import Numu.Access.AddedRoles
