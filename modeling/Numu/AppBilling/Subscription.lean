import Numu.AppBilling.Books
import Numu.Foundation.Run
import Numu.Invoices.TaxResolver

/-! Paid apps and themes: what subscribing, renewing, metering, buying and refunding do. -/

namespace Numu.AppBilling
open Numu.Orders (UUID Time)
open Numu.Invoices (UpperCase strip)
open Numu.Wallet (MerchantWallet)
open Numu.Outcome (orKeep bind_eq_ok map_eq_ok)

inductive Cycle where
  | monthly
  | annual
  deriving DecidableEq, Repr

/-- `CYCLE_DAYS`. -/
def Cycle.days : Cycle → Nat
  | .monthly => 30
  | .annual => 365

theorem Cycle.days_pos (cycle : Cycle) : 0 < cycle.days := by
  cases cycle <;> decide

def Cycle.text : Cycle → String
  | .monthly => "monthly"
  | .annual => "annual"

/-- `GRACE`: a lapsed payment keeps the app working for three days. -/
def grace : Time := 3 * Calendar.dayLength

structure UsagePricing where
  priceCents : Option Nat := none
  capCents : Nat
  deriving DecidableEq

/-- `app_price`: what a published manifest, whose numbers are validated, asks for. -/
structure AppPrice where
  priceCents : Nat
  currency : String := "EGP"
  cycle : Cycle := .monthly
  trialDays : Nat := 0
  usage : Option UsagePricing := none
  deriving DecidableEq

structure App where
  id : UUID
  slug : String
  name : String
  developerId : Option UUID := none
  published : Bool := true
  /-- `None` when it is free or priced outside NUMU. -/
  price : Option AppPrice := none
  deriving DecidableEq

structure Installation where
  id : UUID
  tenantId : UUID
  storeId : UUID
  isEnabled : Bool := true
  /-- Its status is `active`. -/
  active : Bool := true
  deriving DecidableEq

structure Theme where
  id : UUID
  slug : String
  name : String
  priceCents : Int
  developerId : UUID
  deriving DecidableEq

inductive SubscriptionStatus where
  | active
  | pastDue
  | cancelled
  deriving DecidableEq, Repr

structure AppSubscription where
  id : UUID
  tenantId : UUID
  storeId : UUID
  appId : UUID
  status : SubscriptionStatus := .active
  priceCents : Nat
  currency : String
  cycle : Cycle
  currentPeriodStart : Time
  currentPeriodEnd : Time
  cancelAtPeriodEnd : Bool := false
  isTrial : Bool := false
  usageCapCents : Option Nat := none
  usageUnitCents : Option Nat := none
  couponId : Option UUID := none
  couponCyclesLeft : Option Int := none
  vatGrandfathered : Bool := false
  deriving DecidableEq

structure UsageRecord where
  tenantId : UUID
  storeId : UUID
  appId : UUID
  subscriptionId : UUID
  periodStart : Time
  units : Option Int
  amountCents : Int
  description : String
  createdAt : Time
  deriving DecidableEq

inductive PurchaseStatus where
  | succeeded
  | refunded
  deriving DecidableEq, Repr

structure ThemePurchase where
  userId : UUID
  themeId : UUID
  storeId : UUID
  tenantId : UUID
  amountCents : Int
  currency : String
  status : PurchaseStatus := .succeeded
  walletTransactionId : UUID
  refundedAmountCents : Int := 0
  refundReason : Option String := none
  deriving DecidableEq

/-- The rows a billing call reads and never writes. -/
structure Catalogue where
  apps : UUID → Option App := fun _ => none
  installations : UUID → Option Installation := fun _ => none
  /-- Partner accounts by their user. -/
  accounts : UUID → Option PartnerAccount := fun _ => none
  coupons : List (UUID × AppCoupon) := []

/-- Subscriptions are kept by installation, trials by store and app, redemptions by coupon and
store, and usage by installation and key, as their unique constraints have it. -/
structure BillingState where
  books : Books := {}
  subscriptions : Table UUID AppSubscription := .empty
  trials : Table (UUID × UUID) UUID := .empty
  redemptions : Table (UUID × UUID) UUID := .empty
  usage : Table (UUID × String) UsageRecord := .empty
  purchases : Table UUID ThemePurchase := .empty

/-- `partner_terms`. -/
def partnerTerms (catalogue : Catalogue) (app : App) : Option UUID × Nat :=
  match app.developerId with
  | none => (none, 0)
  | some developerId =>
      let account := catalogue.accounts developerId
      (account.map PartnerAccount.id, effectiveShareBps account)

/-- The terms of `theme_quote`. -/
def themeTerms (catalogue : Catalogue) (theme : Theme) : Option UUID × Nat :=
  match catalogue.accounts theme.developerId with
  | none => (none, 0)
  | some account => (some account.id, effectiveShareBps (some account))

/-- `sub_vat_bps`. -/
def subVatBps (sub : AppSubscription) : Nat :=
  if sub.vatGrandfathered then 0 else standardVatBps

/-- `quote_for`. -/
def quoteFor (catalogue : Catalogue) (app : App) (listCents : Int) (coupon : Option AppCoupon)
    (vatBps : Nat := standardVatBps) : Quote :=
  let (partnerId, shareBps) := partnerTerms catalogue app
  let discount := match coupon with
    | none => 0
    | some coupon => couponDiscount coupon listCents
  quote listCents shareBps discount partnerId vatBps

/-- `theme_quote`. -/
def themeQuote (catalogue : Catalogue) (theme : Theme) : Quote :=
  let (partnerId, shareBps) := themeTerms catalogue theme
  quote theme.priceCents shareBps 0 partnerId standardVatBps

/-- `paid_through`. -/
def paidThrough (sub : AppSubscription) (now : Time) : Bool :=
  sub.status = .active && now < sub.currentPeriodEnd

/-- `coverage_end`: nothing after it when the merchant cancelled, else the grace days. -/
def coverageEnd (sub : AppSubscription) : Option Time :=
  if sub.status = .cancelled then none
  else if sub.status = .active && sub.cancelAtPeriodEnd then some sub.currentPeriodEnd
  else some (sub.currentPeriodEnd + grace)

def covers (sub : Option AppSubscription) (now : Time) : Bool :=
  ((sub.bind coverageEnd).map fun until_ => decide (now < until_)).getD false

def startKey (installationId : UUID) (now : Time) : String :=
  s!"app-sub:{UuidText.writeUuid installationId}:start:{Calendar.isoformat now}"

def renewKey (subscriptionId : UUID) (start : Time) : String :=
  s!"app-sub:{UuidText.writeUuid subscriptionId}:renew:{Calendar.isoformat start}"

def usageKey (installationId : UUID) (idempotencyKey : String) : String :=
  s!"app-usage:{UuidText.writeUuid installationId}:{idempotencyKey}"

def themeKey (storeId themeId : UUID) (earlier : Nat) : String :=
  "theme-purchase:" ++ ":".intercalate
    [UuidText.writeUuid storeId, UuidText.writeUuid themeId, Nat.repr earlier]

def cut (text : String) : String := String.ofList (text.toList.take 255)

/-- `_active_coupon`. -/
def activeCoupon (catalogue : Catalogue) (sub : Option AppSubscription) : Option AppCoupon :=
  (sub.bind AppSubscription.couponId).bind fun id => catalogue.coupons.lookup id

/-- `_consume_coupon`. -/
def consumeCoupon (sub : AppSubscription) : AppSubscription :=
  match sub.couponCyclesLeft with
  | none => sub
  | some left =>
      if left - 1 ≤ 0 then { sub with couponId := none, couponCyclesLeft := none }
      else { sub with couponCyclesLeft := some (left - 1) }

/-- `redeemable_coupon`. -/
def redeemableCoupon [UpperCase] (state : BillingState) (catalogue : Catalogue) (app : App)
    (storeId : UUID) (code : String) (now : Time) : Except BillingError (UUID × AppCoupon) :=
  match catalogue.coupons.find? fun row =>
      row.2.appId = app.id && row.2.code = UpperCase.upper (strip code) with
  | none => .error (.coupon "coupon_invalid")
  | some (id, coupon) =>
      if !coupon.active || coupon.storeId.any (· ≠ storeId) then .error (.coupon "coupon_invalid")
      else if coupon.expiresAt.any (· ≤ now) then .error (.coupon "coupon_expired")
      else if (state.redemptions.get? (id, storeId)).isSome then .error (.coupon "coupon_used")
      else
        let used := (state.redemptions.rows.filter fun row => row.1.1 = id).length
        if coupon.maxRedemptions.any (· ≤ used) then .error (.coupon "coupon_exhausted")
        else .ok (id, coupon)

/-- The coupon of a `subscribe` call; an empty code names none. -/
def requestedCoupon [UpperCase] (state : BillingState) (catalogue : Catalogue) (app : App)
    (storeId : UUID) (couponCode : Option String) (now : Time) :
    Except BillingError (Option (UUID × AppCoupon)) :=
  match couponCode.filter (· ≠ "") with
  | none => .ok none
  | some code => (redeemableCoupon state catalogue app storeId code now).map some

/-- One call, with the rows it reads and the ids of the rows it makes. -/
inductive BillingLabel where
  | subscribe (catalogue : Catalogue) (installation : Installation) (app : App)
      (couponCode : Option String) (newId chargeId : UUID) (now : Time)
  | cancel (installationId : UUID)
  | renewDue (catalogue : Catalogue) (locked : UUID → Bool) (chargeId : UUID → UUID) (now : Time)
  | recordUsage (catalogue : Catalogue) (installation : Installation) (app : App)
      (description idempotencyKey : String) (amountCents units : Option Int) (chargeId : UUID)
      (now : Time)
  | purchaseTheme (catalogue : Catalogue) (theme : Theme)
      (storeId tenantId userId purchaseId chargeId : UUID) (now : Time)
  | refundCharge (id chargeId actorUserId : UUID) (note : String) (now : Time)
  /-- Anything else that changes a wallet: a top-up, a commission, a suspension. -/
  | setWallet (tenantId : UUID) (wallet : MerchantWallet)

namespace BillingState

def setSubscription (state : BillingState) (installationId : UUID) (sub : AppSubscription) :
    BillingState :=
  { state with subscriptions := state.subscriptions.set installationId sub }

/-- `_redeem`. -/
def redeem (state : BillingState) (couponId : UUID) (coupon : AppCoupon) (sub : AppSubscription) :
    Except BillingError (BillingState × AppSubscription) :=
  if (state.redemptions.get? (couponId, sub.storeId)).isSome then .error (.coupon "coupon_used")
  else
    .ok ({ state with redemptions := state.redemptions.set (couponId, sub.storeId) sub.id },
      { sub with
        couponId := some couponId
        couponCyclesLeft := coupon.durationCycles.map fun cycles => (cycles : Int) })

def redeemAny (state : BillingState) (coupon : Option (UUID × AppCoupon)) (sub : AppSubscription) :
    Except BillingError (BillingState × AppSubscription) :=
  match coupon with
  | none => .ok (state, sub)
  | some (id, coupon) => state.redeem id coupon sub

/-- The columns that `subscribe` writes on a new row or on the one that is there. -/
def startPeriod (installation : Installation) (app : App) (price : AppPrice) (newId : UUID)
    (sub : Option AppSubscription) (trial : Bool) (start until_ : Time) : AppSubscription where
  id := (sub.map AppSubscription.id).getD newId
  tenantId := (sub.map AppSubscription.tenantId).getD installation.tenantId
  storeId := (sub.map AppSubscription.storeId).getD installation.storeId
  appId := (sub.map AppSubscription.appId).getD app.id
  status := .active
  priceCents := price.priceCents
  currency := price.currency
  cycle := price.cycle
  currentPeriodStart := start
  currentPeriodEnd := until_
  cancelAtPeriodEnd := false
  isTrial := trial
  usageCapCents := price.usage.map UsagePricing.capCents
  usageUnitCents := price.usage.bind UsagePricing.priceCents
  couponId := sub.bind AppSubscription.couponId
  couponCyclesLeft := sub.bind AppSubscription.couponCyclesLeft
  vatGrandfathered := false

/-- The end of `subscribe`: the subscription's row, the coupon and the books. -/
def finishSubscribe (state : BillingState) (installation : Installation) (app : App) (sub : AppSubscription)
    (coupon : Option (UUID × AppCoupon)) (applied : Bool)
    (charged : Option (Quote × Charged)) (now : Time) : Except BillingError BillingState := do
  let (redeemed, sub) ← state.redeemAny coupon sub
  match charged with
  | none => .ok (redeemed.setSubscription installation.id sub)
  | some (q, tx) => do
      let sub := if applied then consumeCoupon sub else sub
      let books ← redeemed.books.book q tx (startKey installation.id now) (some sub.id)
        { storeId := some sub.storeId
          appId := some app.id
          themeId := none
          description := tx.row.note.getD app.name } now
      .ok { redeemed.setSubscription installation.id sub with books := books }

/-- `subscribe`, and whether it started a period. A new subscription and a charge get the given
ids. -/
def subscribe [UpperCase] (state : BillingState) (catalogue : Catalogue)
    (installation : Installation) (app : App) (couponCode : Option String)
    (newId chargeId : UUID) (now : Time) : Except BillingError (BillingState × Bool) :=
  match app.price with
  | none => .error (.notPaid app.slug)
  | some price =>
      let sub := state.subscriptions.get? installation.id
      match sub.filter fun sub => paidThrough sub now with
      | some paid =>
          .ok (state.setSubscription installation.id { paid with cancelAtPeriodEnd := false },
            false)
      | none => do
          let coupon ← requestedCoupon state catalogue app installation.storeId couponCode now
          let applied := (coupon.map Prod.snd).or (activeCoupon catalogue sub)
          let trial := 0 < price.trialDays &&
            (state.trials.get? (installation.storeId, app.id)).isNone
          if sub.isNone && state.subscriptions.rows.any (fun row => row.2.id = newId) then
            .error .integrity
          else if trial then
            let claimed := { state with
              trials := state.trials.set (installation.storeId, app.id) installation.tenantId }
            let sub := startPeriod installation app price newId sub true now
              (now + price.trialDays * Calendar.dayLength)
            (claimed.finishSubscribe installation app sub coupon applied.isSome none now).map (·, true)
          else
            let sub := startPeriod installation app price newId sub false now
              (now + price.cycle.days * Calendar.dayLength)
            if price.priceCents = 0 then
              (state.finishSubscribe installation app sub coupon applied.isSome none now).map (·, true)
            else
              let q := quoteFor catalogue app price.priceCents applied
              let (books, tx) ← state.books.charge chargeId installation.tenantId q.totalCents
                price.currency (startKey installation.id now) s!"{app.slug} ({price.cycle.text})"
              match tx with
              | none => .ok (state, false)
              | some tx =>
                  ({ state with books := books }.finishSubscribe installation app sub coupon
                    applied.isSome (some (q, tx)) now).map (·, true)

/-- `cancel`. -/
def cancel (state : BillingState) (installationId : UUID) : BillingState :=
  match (state.subscriptions.get? installationId).filter fun sub => sub.status = .active with
  | none => state
  | some sub => state.setSubscription installationId { sub with cancelAtPeriodEnd := true }

/-- The app that a due subscription is renewed for, if it is still installed and published. -/
def liveApp (catalogue : Catalogue) (installationId appId : UUID) : Option App :=
  match catalogue.installations installationId with
  | none => none
  | some install =>
      if install.isEnabled && install.active then (catalogue.apps appId).filter App.published
      else none

/-- The period after the current one. -/
def nextPeriod (sub : AppSubscription) : AppSubscription :=
  { sub with
    currentPeriodStart := sub.currentPeriodEnd
    currentPeriodEnd := sub.currentPeriodEnd + sub.cycle.days * Calendar.dayLength
    isTrial := false }

/-- One round of the loop of `renew_due`. -/
def renew (state : BillingState) (catalogue : Catalogue) (chargeId : UUID → UUID) (now : Time)
    (installationId : UUID) (sub : AppSubscription) : Except BillingError BillingState :=
  match (liveApp catalogue installationId sub.appId).filter fun _ => !sub.cancelAtPeriodEnd with
  | none => .ok (state.setSubscription installationId { sub with status := .cancelled })
  | some app =>
      let renewed := nextPeriod sub
      if sub.priceCents = 0 then .ok (state.setSubscription installationId renewed)
      else
        let key := renewKey sub.id sub.currentPeriodEnd
        let coupon := activeCoupon catalogue (some sub)
        let q := quoteFor catalogue app sub.priceCents coupon (subVatBps sub)
        match state.books.charge (chargeId sub.id) sub.tenantId q.totalCents sub.currency key
            s!"{app.slug} ({sub.cycle.text}) renewal" with
        | .error (.insufficientFunds _ _) | .error .walletSuspended =>
            .ok (state.setSubscription installationId { sub with status := .pastDue })
        | .error error => .error error
        | .ok (_, none) => .ok (state.setSubscription installationId renewed)
        | .ok (charged, some tx) => do
            let renewed := if coupon.isSome then consumeCoupon renewed else renewed
            let books ← charged.book q tx key (some sub.id)
              { storeId := some sub.storeId
                appId := some app.id
                themeId := none
                description := tx.row.note.getD app.name } now
            .ok { state.setSubscription installationId renewed with books := books }

/-- The rows of `renew_due`; a row that another transaction has locked is skipped. -/
def due (state : BillingState) (locked : UUID → Bool) (now : Time) :
    List (UUID × AppSubscription) :=
  ((state.subscriptions.rows.filter fun row =>
      row.2.status = .active && row.2.currentPeriodEnd ≤ now && !locked row.1).mergeSort
    fun left right => left.2.currentPeriodEnd ≤ right.2.currentPeriodEnd).take 500

/-- `renew_due`. -/
def renewDue (state : BillingState) (catalogue : Catalogue) (locked : UUID → Bool)
    (chargeId : UUID → UUID) (now : Time) : Except BillingError BillingState :=
  (state.due locked now).foldlM
    (fun state row => state.renew catalogue chargeId now row.1 row.2) state

/-- `usage_used_cents`. -/
def usageUsedCents (state : BillingState) (sub : AppSubscription) : Int :=
  (state.usage.rows.filter fun row =>
    row.2.subscriptionId = sub.id && row.2.periodStart = sub.currentPeriodStart).foldl
    (fun total row => total + row.2.amountCents) 0

/-- The amount of a usage report, by the subscription's unit price if it has one. -/
def usageAmount (sub : AppSubscription) (amountCents units : Option Int) :
    Except BillingError Int :=
  let unitCents : Int := sub.usageUnitCents.getD 0
  if unitCents ≠ 0 then
    match units.filter (1 ≤ ·), amountCents with
    | some units, none => .ok (units * unitCents)
    | _, _ => .error (.usage "invalid_amount" "Report units, not an amount.")
  else
    match amountCents.filter (1 ≤ ·), units with
    | some amount, none => .ok amount
    | _, _ => .error (.usage "invalid_amount" "Report amount_cents, not units.")

/-- `record_usage`, and whether the record is new. -/
def recordUsage (state : BillingState) (catalogue : Catalogue) (installation : Installation)
    (app : App) (description idempotencyKey : String) (amountCents units : Option Int)
    (chargeId : UUID) (now : Time) : Except BillingError (BillingState × Bool) :=
  if (state.usage.get? (installation.id, idempotencyKey)).isSome then .ok (state, false)
  else match (state.subscriptions.get? installation.id).filter fun sub => paidThrough sub now with
    | none =>
        .error (.usage "subscription_inactive"
          "The store's subscription to this app is not active.")
    | some sub =>
        let cap : Int := sub.usageCapCents.getD 0
        if cap = 0 then
          .error (.usage "usage_not_enabled" "This subscription has no usage pricing.")
        else do
          let amount ← usageAmount sub amountCents units
          let used := state.usageUsedCents sub
          if cap < used + amount then
            .error (.usage "usage_cap_exceeded"
              s!"This charge would exceed the approved cap of {cap} piasters for the period ({used} used).")
          else
            let key := usageKey installation.id idempotencyKey
            let q := quoteFor catalogue app amount none (subVatBps sub)
            let (charged, tx) ← state.books.charge chargeId installation.tenantId q.totalCents
              sub.currency key (cut s!"{app.slug} usage: {description}")
            let recorded := { state with
              usage := state.usage.set (installation.id, idempotencyKey)
                { tenantId := installation.tenantId
                  storeId := installation.storeId
                  appId := app.id
                  subscriptionId := sub.id
                  periodStart := sub.currentPeriodStart
                  units := units
                  amountCents := amount
                  description := description
                  createdAt := now } }
            match tx with
            | none => .ok (recorded, true)
            | some tx => do
                let books ← charged.book q tx key (some sub.id)
                  { storeId := some sub.storeId
                    appId := some app.id
                    themeId := none
                    description := tx.row.note.getD app.name } now
                .ok ({ recorded with books := books }, true)

/-- `purchase_theme`, and whether it charged. -/
def purchaseTheme (state : BillingState) (catalogue : Catalogue) (theme : Theme)
    (storeId tenantId userId purchaseId chargeId : UUID) (now : Time) :
    Except BillingError (BillingState × Bool) :=
  let bought := state.purchases.rows.filter fun row =>
    row.2.storeId = storeId && row.2.themeId = theme.id
  if theme.priceCents ≤ 0 then .error (.notPaid theme.slug)
  else if bought.any fun row => row.2.status = .succeeded then .ok (state, false)
  else do
    let key := themeKey storeId theme.id bought.length
    let q := themeQuote catalogue theme
    let (charged, tx) ← state.books.charge chargeId tenantId q.totalCents "EGP" key
      (cut s!"theme {theme.slug}")
    match tx with
    | none => .error (.runtime s!"theme charge {key} already taken")
    | some tx =>
        if (state.purchases.get? purchaseId).isSome then .error .integrity
        else do
          let books ← charged.book q tx key none
            { storeId := some storeId
              appId := none
              themeId := some theme.id
              description := cut s!"Theme: {theme.name}" } now
          .ok ({ state with
            books := books
            purchases := state.purchases.set purchaseId
              { userId := userId
                themeId := theme.id
                storeId := storeId
                tenantId := tenantId
                amountCents := q.totalCents
                currency := "EGP"
                walletTransactionId := tx.id } }, true)

/-- `refund_charge`, and whether it refunded. -/
def refundCharge (state : BillingState) (id chargeId actorUserId : UUID) (note : String)
    (now : Time) : Except BillingError (BillingState × Bool) := do
  let (books, reversal) ← state.books.refundCharge id chargeId actorUserId note now
  match reversal with
  | none => .ok (state, false)
  | some _ =>
      let purchases := match state.purchases.rows.find? fun row =>
          row.2.walletTransactionId = chargeId with
        | none => state.purchases
        | some (purchaseId, _) => state.purchases.modify purchaseId fun purchase =>
            { purchase with
              status := .refunded
              refundedAmountCents := purchase.amountCents
              refundReason := some note }
      .ok ({ state with books := books, purchases := purchases }, true)

/-- A call that raises is rolled back. -/
def step [UpperCase] (state : BillingState) : BillingLabel → BillingState
  | .subscribe catalogue installation app couponCode newId chargeId now =>
      orKeep state
        ((state.subscribe catalogue installation app couponCode newId chargeId now).map Prod.fst)
  | .cancel installationId => state.cancel installationId
  | .renewDue catalogue locked chargeId now =>
      orKeep state (state.renewDue catalogue locked chargeId now)
  | .recordUsage catalogue installation app description idempotencyKey amountCents units chargeId
      now =>
      orKeep state ((state.recordUsage catalogue installation app description idempotencyKey
        amountCents units chargeId now).map Prod.fst)
  | .purchaseTheme catalogue theme storeId tenantId userId purchaseId chargeId now =>
      orKeep state ((state.purchaseTheme catalogue theme storeId tenantId userId purchaseId
        chargeId now).map Prod.fst)
  | .refundCharge id chargeId actorUserId note now =>
      orKeep state ((state.refundCharge id chargeId actorUserId note now).map Prod.fst)
  | .setWallet tenantId wallet =>
      { state with books := { state.books with
        wallets := state.books.wallets.set tenantId wallet } }

/-- What holds when `subscribe` starts a period. -/
structure Starts (state : BillingState) (installation : Installation) (app : App) (newId : UUID)
    (now : Time) (price : AppPrice) : Prop where
  priced : app.price = some price
  lapsed : ∀ sub, state.subscriptions.get? installation.id = some sub →
    paidThrough sub now = false
  fresh : state.subscriptions.get? installation.id = none →
    ∀ row ∈ state.subscriptions.rows, row.2.id ≠ newId

section Specs
variable {state after : BillingState} {catalogue : Catalogue} {installation : Installation}
  {app : App} {newId chargeId : UUID} {now : Time}

/-- A call of `subscribe` that returns resumes a paid period, finds its charge taken, or starts
a trial, a free period or a charged one. -/
theorem subscribe_ok [UpperCase] {couponCode : Option String} {started : Bool}
    (ok : state.subscribe catalogue installation app couponCode newId chargeId now =
      .ok (after, started)) :
    (∃ paid, state.subscriptions.get? installation.id = some paid ∧ paidThrough paid now = true ∧
      after = state.setSubscription installation.id { paid with cancelAtPeriodEnd := false }) ∨
    after = state ∨
    ∃ price coupon, state.Starts installation app newId now price ∧
      requestedCoupon state catalogue app installation.storeId couponCode now = .ok coupon ∧
      let applied := (coupon.map Prod.snd).or
        (activeCoupon catalogue (state.subscriptions.get? installation.id))
      let sub trial days := startPeriod installation app price newId
        (state.subscriptions.get? installation.id) trial now (now + days * Calendar.dayLength)
      ((∃ trials, 0 < price.trialDays ∧
          { state with trials := trials }.finishSubscribe installation app
            (sub true price.trialDays) coupon applied.isSome none now = .ok after) ∨
        (price.priceCents = 0 ∧
          state.finishSubscribe installation app (sub false price.cycle.days) coupon
            applied.isSome none now = .ok after) ∨
        ∃ books tx,
          let q := quoteFor catalogue app price.priceCents applied
          state.books.charge chargeId installation.tenantId q.totalCents price.currency
            (startKey installation.id now) s!"{app.slug} ({price.cycle.text})" =
              .ok (books, some tx) ∧
          { state with books := books }.finishSubscribe installation app
            (sub false price.cycle.days) coupon applied.isSome (some (q, tx)) now =
              .ok after) := by
  simp only [subscribe] at ok
  split at ok
  · cases ok
  rename_i price priced
  split at ok
  · rename_i paid found
    cases ok
    rw [Option.filter_eq_some_iff] at found
    exact .inl ⟨paid, found.1, found.2, rfl⟩
  rename_i lapsed
  rw [Option.filter_eq_none_iff] at lapsed
  obtain ⟨coupon, requested, rest⟩ := bind_eq_ok.mp ok
  split at rest
  · cases rest
  rename_i fresh
  have starts : state.Starts installation app newId now price := by
    refine ⟨priced, fun sub found => ?_, fun absent row member same => fresh ?_⟩
    · simpa using lapsed sub found
    · simp only [absent, Option.isNone_none, Bool.true_and, List.any_eq_true]
      exact ⟨row, member, by simpa using same⟩
  split at rest
  · rename_i trial
    obtain ⟨done, finished, shape⟩ := map_eq_ok.mp rest
    cases shape
    refine .inr (.inr ⟨price, coupon, starts, requested, .inl ⟨_, ?_, finished⟩⟩)
    rw [Bool.and_eq_true, decide_eq_true_eq] at trial
    exact trial.1
  split at rest
  · rename_i free
    obtain ⟨done, finished, shape⟩ := map_eq_ok.mp rest
    cases shape
    exact .inr (.inr ⟨price, coupon, starts, requested, .inr (.inl ⟨free, finished⟩)⟩)
  obtain ⟨⟨books, tx⟩, charged, rest⟩ := bind_eq_ok.mp rest
  cases tx with
  | none =>
      cases rest
      exact .inr (.inl rfl)
  | some tx =>
      obtain ⟨done, finished, shape⟩ := map_eq_ok.mp rest
      cases shape
      exact .inr (.inr ⟨price, coupon, starts, requested,
        .inr (.inr ⟨books, tx, charged, finished⟩)⟩)

/-- A round of the sweep lapses the subscription, or starts its next period: for nothing, because
the key was charged already, or for a new charge. -/
theorem renew_ok {chargeId : UUID → UUID} {installationId : UUID} {sub : AppSubscription}
    (ok : state.renew catalogue chargeId now installationId sub = .ok after) :
    (∃ status, status ≠ .active ∧
      after = state.setSubscription installationId { sub with status := status }) ∨
    sub.cancelAtPeriodEnd = false ∧
      (sub.priceCents = 0 ∧ after = state.setSubscription installationId (nextPeriod sub) ∨
        ∃ app books tx note,
          let coupon := activeCoupon catalogue (some sub)
          let q := quoteFor catalogue app sub.priceCents coupon (subVatBps sub)
          state.books.charge (chargeId sub.id) sub.tenantId q.totalCents sub.currency
            (renewKey sub.id sub.currentPeriodEnd) note = .ok (books, tx) ∧
          match tx with
          | none => after = state.setSubscription installationId (nextPeriod sub)
          | some tx => ∃ (subscriptionId : Option UUID) (subject : Subject) (booked : Books),
              subject.original = none ∧
              books.book q tx (renewKey sub.id sub.currentPeriodEnd) subscriptionId subject now =
                .ok booked ∧
              after = { state.setSubscription installationId
                (if coupon.isSome then consumeCoupon (nextPeriod sub) else nextPeriod sub) with
                books := booked }) := by
  simp only [renew] at ok
  split at ok
  · cases ok
    exact .inl ⟨.cancelled, by decide, rfl⟩
  rename_i app live
  rw [Option.filter_eq_some_iff] at live
  have going : sub.cancelAtPeriodEnd = false := by simpa using live.2
  split at ok
  · rename_i free
    cases ok
    exact .inr ⟨going, .inl ⟨free, rfl⟩⟩
  split at ok
  · cases ok
    exact .inl ⟨.pastDue, by decide, rfl⟩
  · cases ok
    exact .inl ⟨.pastDue, by decide, rfl⟩
  · cases ok
  · rename_i charged
    cases ok
    exact .inr ⟨going, .inr ⟨app, _, none, _, charged, rfl⟩⟩
  · rename_i books tx charged
    obtain ⟨booked, book, shape⟩ := bind_eq_ok.mp ok
    cases shape
    exact .inr ⟨going, .inr ⟨app, books, some tx, _, charged, _, _, booked, rfl, book, rfl⟩⟩

/-- A usage report that returns is an old one, or records a charge. -/
theorem recordUsage_ok {description idempotencyKey : String} {amountCents units : Option Int}
    {new : Bool}
    (ok : state.recordUsage catalogue installation app description idempotencyKey amountCents units
      chargeId now = .ok (after, new)) :
    after = state ∨
      ∃ sub amount usage books tx note, after.subscriptions = state.subscriptions ∧
        usageAmount sub amountCents units = .ok amount ∧
        let q := quoteFor catalogue app amount none (subVatBps sub)
        state.books.charge chargeId installation.tenantId q.totalCents sub.currency
          (usageKey installation.id idempotencyKey) note = .ok (books, tx) ∧
        match tx with
        | none => after = { state with usage := usage }
        | some tx => ∃ subscriptionId subject booked, subject.original = none ∧
            books.book q tx (usageKey installation.id idempotencyKey) subscriptionId subject now =
              .ok booked ∧
            after = { state with usage := usage, books := booked } := by
  simp only [recordUsage] at ok
  split at ok
  · cases ok
    exact .inl rfl
  split at ok
  · cases ok
  rename_i sub found
  split at ok
  · cases ok
  obtain ⟨amount, reported, ok⟩ := bind_eq_ok.mp ok
  split at ok
  · cases ok
  obtain ⟨⟨books, tx⟩, charged, ok⟩ := bind_eq_ok.mp ok
  cases tx with
  | none =>
      cases ok
      exact .inr ⟨sub, amount, _, books, none, _, rfl, reported, charged, rfl⟩
  | some tx =>
      obtain ⟨booked, book, shape⟩ := bind_eq_ok.mp ok
      cases shape
      exact .inr ⟨sub, amount, _, books, some tx, _, rfl, reported, charged, _, _, booked, rfl, book,
        rfl⟩

/-- A purchase that returns finds the theme owned, or charges for it. -/
theorem purchaseTheme_ok {theme : Theme} {storeId tenantId userId purchaseId : UUID}
    {charged : Bool}
    (ok : state.purchaseTheme catalogue theme storeId tenantId userId purchaseId chargeId now =
      .ok (after, charged)) :
    after = state ∨
      ∃ earlier books tx note subject booked purchases, 0 < theme.priceCents ∧
        subject.original = none ∧
        state.books.charge chargeId tenantId (themeQuote catalogue theme).totalCents "EGP"
          (themeKey storeId theme.id earlier) note = .ok (books, some tx) ∧
        books.book (themeQuote catalogue theme) tx (themeKey storeId theme.id earlier) none subject
          now = .ok booked ∧
        after = { state with books := booked, purchases := purchases } := by
  simp only [purchaseTheme] at ok
  split at ok
  · cases ok
  rename_i priced
  split at ok
  · cases ok
    exact .inl rfl
  obtain ⟨⟨books, tx⟩, taken, ok⟩ := bind_eq_ok.mp ok
  cases tx with
  | none => cases ok
  | some tx =>
      simp only at ok
      split at ok
      · cases ok
      obtain ⟨booked, book, shape⟩ := bind_eq_ok.mp ok
      cases shape
      exact .inr ⟨_, books, tx, _, _, booked, _, Int.not_le.mp priced, rfl, taken, book, rfl⟩

/-- A refund that returns changes the books alone, and the purchase it was charged for. -/
theorem refundCharge_ok {id actorUserId : UUID} {note : String} {refunded : Bool}
    (ok : state.refundCharge id chargeId actorUserId note now = .ok (after, refunded)) :
    ∃ tx, after.subscriptions = state.subscriptions ∧
      (after = state ∨
        state.books.refundCharge id chargeId actorUserId note now = .ok (after.books, tx)) := by
  simp only [refundCharge] at ok
  obtain ⟨⟨books, tx⟩, refund, ok⟩ := bind_eq_ok.mp ok
  refine ⟨tx, ?_⟩
  cases tx with
  | none =>
      cases ok
      exact ⟨rfl, .inl rfl⟩
  | some tx =>
      cases ok
      exact ⟨rfl, .inr refund⟩

end Specs

end BillingState
/-- A Partner App at 100 pounds a month. -/
def labelsApp : App where
  id := 3
  slug := "labels"
  name := "Labels"
  developerId := some 9
  price := some { priceCents := 10000 }

end Numu.AppBilling
