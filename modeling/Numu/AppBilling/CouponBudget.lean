import Numu.AppBilling.Conservation
import Numu.AppBilling.Periods
import Numu.Foundation.Vouchers

/-! What the coupons of an app give away: their redemptions, and the charges that each discounts. -/

namespace Numu.AppBilling
open Numu.Orders (UUID Time)
open Numu.Invoices (UpperCase)
open Numu.Outcome (bind_eq_ok)
open Numu.Voucher (Limits Holding Within)

/-- The coupons that a call reads have the limits they were created with, and a coupon that is
limited in its cycles was created for at least one. -/
def Catalogue.Obeys (limits : UUID → Limits) (catalogue : Catalogue) : Prop :=
  ∀ row ∈ catalogue.coupons, (limits row.1).redemptions = row.2.maxRedemptions ∧
    (limits row.1).uses = row.2.durationCycles ∧ row.2.durationCycles ≠ some 0

instance (limits : UUID → Limits) (catalogue : Catalogue) : Decidable (catalogue.Obeys limits) :=
  inferInstanceAs (Decidable (∀ row ∈ catalogue.coupons, _))

/-- The coupon that a subscription has, with the cycles left. -/
def AppSubscription.holding (sub : AppSubscription) : Option (Holding UUID UUID) :=
  sub.couponId.map fun coupon => ⟨coupon, sub.storeId, sub.couponCyclesLeft⟩

theorem holding_consumeCoupon (sub : AppSubscription) :
    (consumeCoupon sub).holding = sub.holding.bind Holding.consumed := by
  rw [consumeCoupon]
  split
  · rename_i uncounted
    cases coupon : sub.couponId <;>
      simp [AppSubscription.holding, coupon, uncounted, Holding.consumed]
  · rename_i left counted
    split
    · rename_i last
      cases coupon : sub.couponId <;>
        simp [AppSubscription.holding, coupon, counted, Holding.consumed, last]
    · rename_i more
      cases coupon : sub.couponId <;>
        simp [AppSubscription.holding, coupon, counted, Holding.consumed, more]

namespace BillingState

def redeemed (state : BillingState) : List (UUID × UUID) :=
  state.redemptions.rows.map Prod.fst

/-- What each installation's subscription holds. -/
def holdings (state : BillingState) (installationId : UUID) : Option (Holding UUID UUID) :=
  (state.subscriptions.get? installationId).bind AppSubscription.holding

/-- The wallet row is one that the call made. -/
def Charges (state after : BillingState) (chargeId : UUID) : Prop :=
  state.books.transactions.get? chargeId = none ∧
    (after.books.transactions.get? chargeId).isSome = true

instance (state after : BillingState) (chargeId : UUID) :
    Decidable (state.Charges after chargeId) :=
  inferInstanceAs (Decidable (_ ∧ _))

/-- The redemption that discounts a charge of the subscription, if its coupon is there. -/
def activeRedemption (catalogue : Catalogue) (sub : Option AppSubscription) :
    Option (UUID × UUID) :=
  (activeCoupon catalogue sub).bind fun _ =>
    (sub.bind AppSubscription.holding).map Holding.redemption

/-- The redemption that discounts the charge of a `subscribe` call: of its own coupon, or of the
one that the subscription still has. -/
def appliedRedemption [UpperCase] (state : BillingState) (catalogue : Catalogue)
    (installation : Installation) (app : App) (couponCode : Option String) (now : Time) :
    Option (UUID × UUID) :=
  let sub := state.subscriptions.get? installation.id
  match requestedCoupon state catalogue app installation.storeId couponCode now with
  | .ok (some (id, _)) => some (id, (sub.map AppSubscription.storeId).getD installation.storeId)
  | _ => activeRedemption catalogue sub

/-- The discounted charges of the rounds of `renew_due`, with their redemptions. -/
def sweepUses (catalogue : Catalogue) (chargeId : UUID → UUID) (now : Time) :
    BillingState → List (UUID × AppSubscription) → List (UUID × UUID × UUID)
  | _, [] => []
  | state, row :: rest =>
      match state.renew catalogue chargeId now row.1 row.2 with
      | .error _ => []
      | .ok after =>
          (if state.Charges after (chargeId row.2.id) then
            ((activeRedemption catalogue (some row.2)).map (chargeId row.2.id, ·)).toList
          else []) ++ sweepUses catalogue chargeId now after rest

/-- The discounted charges of one call, with their redemptions. -/
def couponUses [UpperCase] (state : BillingState) (label : BillingLabel) :
    List (UUID × UUID × UUID) :=
  match label with
  | .subscribe catalogue installation app couponCode _ chargeId now =>
      if state.Charges (state.step label) chargeId then
        ((state.appliedRedemption catalogue installation app couponCode now).map
          (chargeId, ·)).toList
      else []
  | .renewDue catalogue locked chargeId now =>
      match state.renewDue catalogue locked chargeId now with
      | .error _ => []
      | .ok _ => sweepUses catalogue chargeId now state (state.due locked now)
  | _ => []

end BillingState

/-- The invoices with a discount that are not of before are for one of the charges. -/
def Books.DiscountsOnly (books after : Books) (charges : List UUID) : Prop :=
  ∀ id invoice, after.invoices.get? (id, .invoice) = some invoice → invoice.discountCents ≠ 0 →
    books.invoices.get? (id, .invoice) = some invoice ∨ id ∈ charges

namespace Books
variable {books mid after : Books} {q : Quote} {tx : Charged} {key : String} {now : Time}

theorem discountsOnly_of_invoices (same : after.invoices = books.invoices) (charges : List UUID) :
    books.DiscountsOnly after charges := by
  intro id invoice found _
  rw [same] at found
  exact Or.inl found

/-- An invoice is issued for the quote's discount, and a credit note is none. -/
theorem issueFeeInvoice_discounts {kind : FeeInvoiceKind} {subject : Subject}
    (ok : books.issueFeeInvoice tx kind q subject now = .ok after) {charges : List UUID}
    (counted : kind = .invoice → q.discountCents ≠ 0 → tx.id ∈ charges) :
    books.DiscountsOnly after charges := by
  cases present : books.invoices.get? (tx.id, kind) with
  | some invoice =>
      simp only [issueFeeInvoice, present, Option.isSome_some, if_true] at ok
      cases ok
      exact discountsOnly_of_invoices rfl charges
  | none =>
      obtain ⟨number, rfl⟩ := issueFeeInvoice_ok present ok
      intro id invoice found discounted
      rw [Table.get?_set] at found
      split at found
      · rename_i same
        cases same
        cases found
        refine Or.inr (counted rfl fun none_ => discounted ?_)
        simp [feeInvoice, none_]
      · exact Or.inl found

theorem book_discounts {subscriptionId : Option UUID} {subject : Subject}
    (ok : mid.book q tx key subscriptionId subject now = .ok after) {charges : List UUID}
    (counted : q.discountCents ≠ 0 → tx.id ∈ charges) : mid.DiscountsOnly after charges := by
  rw [book] at ok
  have issued := issueFeeInvoice_discounts ok fun _ => counted
  have same : ∀ entry, (mid.ledgerSale key entry).invoices = mid.invoices := by
    intro entry
    rw [ledgerSale]
    split <;> rfl
  intro id invoice found discounted
  rcases issued id invoice found discounted with before | charged
  · split at before
    · exact Or.inl before
    · rw [same] at before
      exact Or.inl before
  · exact Or.inr charged

theorem applyEntry_invoices {id tenantId : UUID} {entry : Wallet.Entry} {tx : Option Charged}
    (ok : books.applyEntry id tenantId entry = .ok (after, tx)) :
    after.invoices = books.invoices := by
  rcases applyEntry_ok ok with ⟨-, rfl⟩ | ⟨wallets, row, -, -, rfl, -, -⟩
  · rfl
  · rfl

/-- A charge that is taken is a new wallet row of the given id. -/
theorem charge_row {id tenantId : UUID} {amountCents : Int} {currency note : String}
    (ok : books.charge id tenantId amountCents currency key note = .ok (mid, some tx)) :
    tx.id = id ∧ books.transactions.get? id = none ∧
      (mid.transactions.get? id).isSome = true ∧ mid.invoices = books.invoices := by
  have invoices := applyEntry_invoices (charge_ok ok)
  rcases applyEntry_ok (charge_ok ok) with ⟨none_, -⟩ | ⟨wallets, row, some_, absent, shape, -, -⟩
  · cases none_
  · cases some_
    refine ⟨rfl, absent, ?_, invoices⟩
    rw [shape, Table.get?_set, if_pos rfl]
    rfl

/-- A charge and its booking give a discount to nothing else. -/
theorem booked_discounts {id tenantId : UUID} {amountCents : Int} {currency note key' : String}
    {subscriptionId : Option UUID} {subject : Subject}
    (charged : books.charge id tenantId amountCents currency key note = .ok (mid, some tx))
    (ok : mid.book q tx key' subscriptionId subject now = .ok after) {charges : List UUID}
    (counted : q.discountCents ≠ 0 → id ∈ charges) : books.DiscountsOnly after charges := by
  obtain ⟨here, -, -, invoices⟩ := charge_row charged
  have booked := book_discounts ok fun discounted => here ▸ counted discounted
  intro other invoice found discounted
  rw [← invoices]
  exact booked other invoice found discounted

theorem refundCharge_discounts {id chargeId actorUserId : UUID} {note : String}
    {tx : Option Charged} (ok : books.refundCharge id chargeId actorUserId note now = .ok (after, tx)) :
    books.DiscountsOnly after [] := by
  simp only [refundCharge] at ok
  split at ok
  · cases ok
  split at ok
  · cases ok
  obtain ⟨⟨reversed, reversal⟩, applied, ok⟩ := bind_eq_ok.mp ok
  have invoices := applyEntry_invoices applied
  cases reversal with
  | none =>
      cases ok
      exact discountsOnly_of_invoices invoices []
  | some reversal =>
      obtain ⟨credited, credit, ok⟩ := bind_eq_ok.mp ok
      obtain ⟨debited, debit, ok⟩ := bind_eq_ok.mp ok
      cases ok
      have unbilled : after.invoices = credited.invoices := by
        simp only [debitPartner] at debit
        split at debit
        · cases debit
          rfl
        · split at debit
          · cases debit
          · cases debit
            rfl
      have noted : reversed.DiscountsOnly credited [] := by
        simp only [creditInvoice] at credit
        split at credit
        · cases credit
          exact discountsOnly_of_invoices rfl []
        · exact issueFeeInvoice_discounts credit fun isInvoice => by cases isInvoice
      intro other invoice found discounted
      rw [unbilled] at found
      rw [← invoices]
      exact noted other invoice found discounted

end Books

/-- A quote without a coupon has no discount. -/
theorem quoteFor_none (catalogue : Catalogue) (app : App) {list : Int} (list_nonneg : 0 ≤ list)
    (vatBps : Nat) : (quoteFor catalogue app list none vatBps).discountCents = 0 := by
  have fee : bpsOf list (10000 - (partnerTerms catalogue app).2) ≤ list :=
    bpsOf_le list_nonneg (by omega)
  exact min_eq_left (by exact Int.sub_nonneg_of_le fee)

theorem themeQuote_undiscounted (catalogue : Catalogue) (theme : Theme)
    (priced : 0 < theme.priceCents) : (themeQuote catalogue theme).discountCents = 0 := by
  have fee : bpsOf theme.priceCents (10000 - (themeTerms catalogue theme).2) ≤ theme.priceCents :=
    bpsOf_le (Int.le_of_lt priced) (by omega)
  exact min_eq_left (by exact Int.sub_nonneg_of_le fee)

namespace BillingState
section Coupons
variable {limits : UUID → Limits} {state mid after : BillingState} {catalogue : Catalogue}
  {installation : Installation} {app : App} {newId chargeId : UUID} {now : Time}
  {uses : List (UUID × UUID)}

theorem holdings_set {id : UUID} {sub : AppSubscription}
    (written : after.subscriptions = state.subscriptions.set id sub) :
    after.holdings = Function.update state.holdings id sub.holding := by
  funext other
  rw [holdings, written, Table.get?_set]
  by_cases same : other = id
  · subst same
    rw [if_pos rfl, Function.update_self]
    rfl
  · rw [if_neg same, Function.update_of_ne same]
    rfl

theorem holding_startPeriod (installation : Installation) (app : App) (price : AppPrice)
    (newId : UUID) (sub : Option AppSubscription) (trial : Bool) (start until_ : Time) :
    (startPeriod installation app price newId sub trial start until_).holding =
      sub.bind AppSubscription.holding := by
  cases sub <;> rfl

/-- A subscription's coupon that is there discounts for the subscription's own redemption. -/
theorem activeRedemption_some {coupon : AppCoupon} {sub : Option AppSubscription}
    (active : activeCoupon catalogue sub = some coupon) :
    ∃ holding, sub.bind AppSubscription.holding = some holding ∧
      activeRedemption catalogue sub = some holding.redemption := by
  have present := active
  rw [activeCoupon, Option.bind_eq_some_iff] at present
  obtain ⟨id, found, -⟩ := present
  rw [Option.bind_eq_some_iff] at found
  obtain ⟨sub, rfl, couponId⟩ := found
  have held : sub.holding = some ⟨id, sub.storeId, sub.couponCyclesLeft⟩ := by
    rw [AppSubscription.holding, couponId]
    rfl
  refine ⟨_, held, ?_⟩
  rw [activeRedemption, active]
  simp [held]

theorem activeRedemption_none {sub : Option AppSubscription}
    (inactive : activeCoupon catalogue sub = none) : activeRedemption catalogue sub = none := by
  rw [activeRedemption, inactive]
  rfl

/-- A code that is accepted names a coupon of the catalogue with redemptions left. -/
theorem requestedCoupon_some [UpperCase] {storeId : UUID} {couponCode : Option String} {id : UUID}
    {coupon : AppCoupon}
    (ok : requestedCoupon state catalogue app storeId couponCode now = .ok (some (id, coupon))) :
    (id, coupon) ∈ catalogue.coupons ∧ ∀ most, coupon.maxRedemptions = some most →
      (state.redeemed.filter fun redemption => redemption.1 = id).length < most := by
  rw [requestedCoupon] at ok
  split at ok
  · cases ok
  obtain ⟨found, redeemable, shape⟩ := Outcome.map_eq_ok.mp ok
  cases shape
  rw [redeemableCoupon] at redeemable
  split at redeemable
  · cases redeemable
  rename_i id' coupon' present
  split at redeemable
  · cases redeemable
  split at redeemable
  · cases redeemable
  split at redeemable
  · cases redeemable
  simp only at redeemable
  split at redeemable
  · cases redeemable
  rename_i room
  cases redeemable
  refine ⟨List.mem_of_find?_eq_some present, fun most limit => ?_⟩
  rw [redeemed, List.filter_map, List.length_map]
  simp only [limit, Option.any_some, decide_eq_true_eq, not_le] at room
  exact room

/-- The coupon of a `subscribe` call is redeemed within its budget, or the old one is kept. -/
theorem redeemAny_within [UpperCase] (within : Within limits state.redeemed state.holdings uses)
    (obeys : catalogue.Obeys limits) {couponCode : Option String}
    {coupon : Option (UUID × AppCoupon)} {sub sub' : AppSubscription}
    (requested : requestedCoupon state catalogue app installation.storeId couponCode now =
      .ok coupon)
    (redemptions : mid.redemptions = state.redemptions)
    (held : sub.holding = state.holdings installation.id)
    (ok : mid.redeemAny coupon sub = .ok (after, sub')) :
    Within limits after.redeemed (Function.update state.holdings installation.id sub'.holding)
      uses := by
  cases coupon with
  | none =>
      cases ok
      rw [redeemed, redemptions, held, Function.update_eq_self]
      exact within
  | some row =>
      obtain ⟨id, coupon⟩ := row
      obtain ⟨member, room⟩ := requestedCoupon_some requested
      obtain ⟨most, cycles, usable⟩ := obeys _ member
      rw [redeemAny, redeem] at ok
      split at ok
      · cases ok
      rename_i first
      rw [Bool.not_eq_true, Option.isSome_eq_false_iff, Option.isNone_iff_eq_none] at first
      have absent : (id, sub.storeId) ∉ state.redeemed := by
        intro used
        have taken := (Table.isSome_get?_iff _ _).mpr used
        rw [← redemptions, first] at taken
        cases taken
      have next := within.redeem installation.id absent (most ▸ room) (cycles ▸ usable)
      have left (counted : Option Nat) : (counted.map fun cycles => (cycles : Int)) =
          counted.map fun most : Nat => (most : Int) := by
        cases counted <;> rfl
      rw [cycles, ← left] at next
      cases ok
      rw [redeemed, Table.set_rows_of_absent _ first, redemptions, List.map_append]
      exact next

/-- The rows that the end of `subscribe` writes, besides the books. -/
theorem finishSubscribe_rows {sub : AppSubscription} {coupon : Option (UUID × AppCoupon)}
    {applied : Bool} {charged : Option (Quote × Charged)}
    (ok : mid.finishSubscribe installation app sub coupon applied charged now = .ok after) :
    ∃ redeemed sub', mid.redeemAny coupon sub = .ok (redeemed, sub') ∧
      after.redeemed = redeemed.redeemed ∧
      after.subscriptions = mid.subscriptions.set installation.id
        (if charged.isSome && applied then consumeCoupon sub' else sub') := by
  obtain ⟨⟨redeemed, sub'⟩, redemption, rest⟩ := bind_eq_ok.mp ok
  have subscriptions := (redeemAny_kept redemption).1
  refine ⟨redeemed, sub', redemption, ?_⟩
  cases charged with
  | none =>
      cases rest
      exact ⟨rfl, by rw [← subscriptions]; rfl⟩
  | some charged =>
      obtain ⟨booked, -, rest⟩ := bind_eq_ok.mp rest
      cases rest
      exact ⟨rfl, by rw [← subscriptions]; rfl⟩

/-- The charge of a `subscribe` call is counted for a redemption exactly if a coupon applies. -/
theorem appliedRedemption_isSome [UpperCase] {couponCode : Option String}
    {coupon : Option (UUID × AppCoupon)}
    (requested : requestedCoupon state catalogue app installation.storeId couponCode now =
      .ok coupon) :
    (state.appliedRedemption catalogue installation app couponCode now).isSome =
      ((coupon.map Prod.snd).or
        (activeCoupon catalogue (state.subscriptions.get? installation.id))).isSome := by
  rw [appliedRedemption, requested]
  cases coupon with
  | some row => rfl
  | none =>
      rw [Option.map_none, Option.none_or]
      cases active : activeCoupon catalogue (state.subscriptions.get? installation.id) with
      | none =>
          simp only [activeRedemption_none active]
          rfl
      | some coupon =>
          obtain ⟨holding, -, counted⟩ := activeRedemption_some active
          simp only [counted]
          rfl

/-- What the end of `subscribe` does to the coupons: a redemption, and a use if it charged. -/
theorem finishSubscribe_within [UpperCase]
    (within : Within limits state.redeemed state.holdings uses) (obeys : catalogue.Obeys limits)
    {couponCode : Option String} {coupon : Option (UUID × AppCoupon)} {price : AppPrice}
    {trial : Bool} {start until_ : Time} {charged : Option (Quote × Charged)}
    (requested : requestedCoupon state catalogue app installation.storeId couponCode now =
      .ok coupon)
    (ok : mid.finishSubscribe installation app
      (startPeriod installation app price newId (state.subscriptions.get? installation.id) trial
        start until_) coupon
      ((coupon.map Prod.snd).or
        (activeCoupon catalogue (state.subscriptions.get? installation.id))).isSome charged now =
          .ok after)
    (redemptions : mid.redemptions = state.redemptions)
    (subscriptions : mid.subscriptions = state.subscriptions) :
    Within limits after.redeemed after.holdings (uses ++ if charged.isSome then
      (state.appliedRedemption catalogue installation app couponCode now).toList else []) := by
  obtain ⟨redeemed, sub, redemption, same, written⟩ := finishSubscribe_rows ok
  have held := holding_startPeriod installation app price newId
    (state.subscriptions.get? installation.id) trial start until_
  have next := redeemAny_within within obeys requested redemptions held redemption
  rw [subscriptions] at written
  rw [same, holdings_set written]
  -- The redemption that the charge is counted for is the one that the new row holds.
  have applied (discounted : ((coupon.map Prod.snd).or
      (activeCoupon catalogue (state.subscriptions.get? installation.id))).isSome = true) :
      ∃ holding, sub.holding = some holding ∧
        state.appliedRedemption catalogue installation app couponCode now =
          some holding.redemption := by
    cases coupon with
    | some row =>
        rw [appliedRedemption, requested]
        simp only [redeemAny, redeem] at redemption
        split at redemption
        · cases redemption
        · cases redemption
          exact ⟨_, rfl, rfl⟩
    | none =>
        rw [Option.map_none, Option.none_or, Option.isSome_iff_exists] at discounted
        obtain ⟨active, found⟩ := discounted
        obtain ⟨holding, holds, counted⟩ := activeRedemption_some found
        cases redemption
        refine ⟨holding, held.trans holds, ?_⟩
        rw [appliedRedemption, requested]
        exact counted
  cases discounted : ((coupon.map Prod.snd).or
      (activeCoupon catalogue (state.subscriptions.get? installation.id))).isSome with
  | false =>
      rw [← appliedRedemption_isSome requested, Option.isSome_eq_false_iff,
        Option.isNone_iff_eq_none] at discounted
      rw [discounted, Option.toList_none, ite_self, List.append_nil, Bool.and_false]
      exact next
  | true =>
      obtain ⟨holding, holds, counted⟩ := applied discounted
      cases charged with
      | none =>
          rw [Option.isSome_none, Bool.false_and, if_neg Bool.false_ne_true,
            if_neg Bool.false_ne_true, List.append_nil]
          exact next
      | some charged =>
          have used := next.use (by rw [Function.update_self, holds])
          rw [Function.update_idem] at used
          rw [Option.isSome_some, if_pos rfl, counted, Option.toList_some, Bool.and_true,
            if_pos rfl, holding_consumeCoupon, holds]
          exact used

/-- The coupons keep to their limits, and every discount on an invoice is a counted use. -/
structure Budgeted (limits : UUID → Limits) (state : BillingState)
    (uses : List (UUID × UUID × UUID)) : Prop where
  within : Within limits state.redeemed state.holdings (uses.map Prod.snd)
  discounted : ∀ id invoice, state.books.invoices.get? (id, .invoice) = some invoice →
    invoice.discountCents ≠ 0 → id ∈ uses.map Prod.fst

theorem not_charges_of_books (same : after.books = state.books) (id : UUID) :
    ¬state.Charges after id := by
  rintro ⟨absent, present⟩
  rw [same, absent] at present
  cases present

variable {counted : List (UUID × UUID × UUID)}

theorem Budgeted.next (budgeted : Budgeted limits state counted)
    {more : List (UUID × UUID × UUID)}
    (within : Within limits after.redeemed after.holdings
      (counted.map Prod.snd ++ more.map Prod.snd))
    (discounts : state.books.DiscountsOnly after.books (more.map Prod.fst)) :
    Budgeted limits after (counted ++ more) where
  within := by
    rw [List.map_append]
    exact within
  discounted := by
    intro id invoice found discounted
    rw [List.map_append, List.mem_append]
    rcases discounts id invoice found discounted with before | now
    · exact Or.inl (budgeted.discounted id invoice before discounted)
    · exact Or.inr now

/-- The call leaves the coupons alone. -/
structure Spares (state after : BillingState) : Prop where
  redemptions : after.redemptions = state.redemptions
  holdings : after.holdings = state.holdings
  discounts : state.books.DiscountsOnly after.books []

theorem spares_of_invoices (redemptions : after.redemptions = state.redemptions)
    (holdings : after.holdings = state.holdings)
    (invoices : after.books.invoices = state.books.invoices) : Spares state after :=
  ⟨redemptions, holdings, Books.discountsOnly_of_invoices invoices []⟩

theorem Spares.refl (state : BillingState) : Spares state state :=
  spares_of_invoices rfl rfl rfl

theorem Spares.budgeted (spares : Spares state after) (budgeted : Budgeted limits state counted) :
    Budgeted limits after counted := by
  have next : Budgeted limits after (counted ++ []) := budgeted.next (by
    rw [List.map_nil, List.append_nil, redeemed, spares.redemptions, spares.holdings]
    exact budgeted.within) spares.discounts
  rw [List.append_nil] at next
  exact next

theorem map_redemption (redemption : Option (UUID × UUID)) (id : UUID) :
    ((redemption.map (id, ·)).toList).map Prod.snd = redemption.toList := by
  cases redemption <;> rfl

theorem subscribe_budgeted [UpperCase] (budgeted : Budgeted limits state counted)
    (obeys : catalogue.Obeys limits) {couponCode : Option String} {started : Bool}
    (ok : state.subscribe catalogue installation app couponCode newId chargeId now =
      .ok (after, started)) :
    Budgeted limits after (counted ++ if state.Charges after chargeId then
      ((state.appliedRedemption catalogue installation app couponCode now).map
        (chargeId, ·)).toList else []) := by
  rcases subscribe_ok ok with ⟨paid, found, -, shape⟩ | shape |
    ⟨price, coupon, starts, requested, started⟩
  · rw [if_neg (not_charges_of_books (by rw [shape]; rfl) chargeId), List.append_nil]
    have same : ({ paid with cancelAtPeriodEnd := false } : AppSubscription).holding =
        state.holdings installation.id := by
      rw [holdings, found]
      rfl
    have spares : Spares state after := by
      rw [shape]
      refine spares_of_invoices rfl ?_ rfl
      rw [holdings_set rfl, same, Function.update_eq_self]
    exact spares.budgeted budgeted
  · rw [shape, if_neg (not_charges_of_books rfl chargeId), List.append_nil]
    exact budgeted
  have free {mid : BillingState} {days : Nat} {trial : Bool}
      (finished : mid.finishSubscribe installation app
        (startPeriod installation app price newId (state.subscriptions.get? installation.id) trial
          now (now + days * Calendar.dayLength)) coupon
        ((coupon.map Prod.snd).or
          (activeCoupon catalogue (state.subscriptions.get? installation.id))).isSome none now =
            .ok after)
      (redemptions : mid.redemptions = state.redemptions)
      (subscriptions : mid.subscriptions = state.subscriptions) (books : mid.books = state.books) :
      Budgeted limits after (counted ++ if state.Charges after chargeId then
        ((state.appliedRedemption catalogue installation app couponCode now).map
          (chargeId, ·)).toList else []) := by
    have same : after.books = state.books := (finishSubscribe_books finished).trans books
    rw [if_neg (not_charges_of_books same chargeId)]
    exact budgeted.next
      (finishSubscribe_within budgeted.within obeys requested finished redemptions subscriptions)
      (Books.discountsOnly_of_invoices (by rw [same]) [])
  rcases started with ⟨trials, -, finished⟩ | ⟨-, finished⟩ | ⟨books, tx, charged, finished⟩
  · exact free finished rfl rfl rfl
  · exact free finished rfl rfl rfl
  · obtain ⟨subscriptionId, subject, -, booked⟩ := finishSubscribe_books finished
    obtain ⟨-, absent, present, -⟩ := Books.charge_row charged
    have charges : state.Charges after chargeId :=
      ⟨absent, by rw [Books.book_transactions booked]; exact present⟩
    rw [if_pos charges]
    have within := finishSubscribe_within budgeted.within obeys requested finished rfl rfl
    rw [Option.isSome_some, if_pos rfl] at within
    refine budgeted.next (by rw [map_redemption]; exact within) ?_
    refine Books.booked_discounts charged booked fun discounted => ?_
    cases applied : state.appliedRedemption catalogue installation app couponCode now with
    | some redemption => exact List.mem_singleton_self _
    | none =>
        have unused := appliedRedemption_isSome requested
        rw [applied, Option.isSome_none, eq_comm, Option.isSome_eq_false_iff,
          Option.isNone_iff_eq_none] at unused
        rw [unused] at discounted
        exact absurd (quoteFor_none catalogue app (Int.natCast_nonneg _) _) discounted

/-- A round of the sweep over the row as it is stored. -/
theorem renew_budgeted (budgeted : Budgeted limits state counted) {chargeId : UUID → UUID}
    {installationId : UUID} {sub : AppSubscription}
    (found : state.subscriptions.get? installationId = some sub)
    (ok : state.renew catalogue chargeId now installationId sub = .ok after) :
    Budgeted limits after (counted ++ if state.Charges after (chargeId sub.id) then
      ((activeRedemption catalogue (some sub)).map (chargeId sub.id, ·)).toList else []) ∧
      ∃ sub', after.subscriptions = state.subscriptions.set installationId sub' := by
  have held : state.holdings installationId = sub.holding := by
    rw [holdings, found]
    rfl
  have quiet {sub' : AppSubscription}
      (shape : after = state.setSubscription installationId sub')
      (same : sub'.holding = sub.holding) :
      Budgeted limits after (counted ++ if state.Charges after (chargeId sub.id) then
        ((activeRedemption catalogue (some sub)).map (chargeId sub.id, ·)).toList else []) ∧
        ∃ sub', after.subscriptions = state.subscriptions.set installationId sub' := by
    have written : after.subscriptions = state.subscriptions.set installationId sub' := by
      rw [shape]
      rfl
    rw [if_neg (not_charges_of_books (by rw [shape]; rfl) _), List.append_nil]
    have spares : Spares state after := by
      refine spares_of_invoices (by rw [shape]; rfl) ?_ (by rw [shape]; rfl)
      rw [holdings_set written, same, ← held, Function.update_eq_self]
    exact ⟨spares.budgeted budgeted, sub', written⟩
  rcases renew_ok ok with ⟨status, -, shape⟩ | ⟨-, ⟨-, shape⟩ |
    ⟨app, books, tx, note, charged, rest⟩⟩
  · exact quiet shape rfl
  · exact quiet shape rfl
  cases tx with
  | none => exact quiet rest rfl
  | some tx =>
      obtain ⟨subscriptionId, subject, booked, -, book, shape⟩ := rest
      have written : after.subscriptions = state.subscriptions.set installationId
          (if (activeCoupon catalogue (some sub)).isSome then consumeCoupon (nextPeriod sub)
            else nextPeriod sub) := by
        rw [shape]
        rfl
      have books : after.books = booked := by rw [shape]
      obtain ⟨-, absent, present, -⟩ := Books.charge_row charged
      have charges : state.Charges after (chargeId sub.id) :=
        ⟨absent, by rw [books, Books.book_transactions book]; exact present⟩
      refine ⟨?_, _, written⟩
      rw [if_pos charges]
      have redemptions : after.redeemed = state.redeemed := by
        rw [shape]
        rfl
      have renewed : (nextPeriod sub).holding = sub.holding := rfl
      apply budgeted.next
      · rw [map_redemption, redemptions, holdings_set written]
        cases active : activeCoupon catalogue (some sub) with
        | none =>
            rw [activeRedemption_none active, Option.isSome_none, if_neg Bool.false_ne_true,
              Option.toList_none, List.append_nil, renewed, ← held, Function.update_eq_self]
            exact budgeted.within
        | some coupon =>
            obtain ⟨holding, holds, used⟩ := activeRedemption_some active
            rw [Option.bind_some] at holds
            rw [used, Option.isSome_some, if_pos rfl, Option.toList_some, holding_consumeCoupon,
              renewed, holds]
            exact budgeted.within.use (held.trans holds)
      · rw [books]
        refine Books.booked_discounts charged book fun discounted => ?_
        cases active : activeCoupon catalogue (some sub) with
        | none =>
            rw [active] at discounted
            exact absurd (quoteFor_none catalogue app (Int.natCast_nonneg _) _) discounted
        | some coupon =>
            obtain ⟨holding, -, used⟩ := activeRedemption_some active
            rw [used]
            exact List.mem_singleton_self _

theorem sweep_budgeted {chargeId : UUID → UUID} {rows : List (UUID × AppSubscription)}
    (budgeted : Budgeted limits state counted) (pending : state.Pending now rows)
    (ok : rows.foldlM (fun state row => state.renew catalogue chargeId now row.1 row.2) state =
      .ok after) :
    Budgeted limits after (counted ++ sweepUses catalogue chargeId now state rows) := by
  induction rows generalizing state counted with
  | nil =>
      cases ok
      rw [sweepUses, List.append_nil]
      exact budgeted
  | cons row rest ih =>
      rw [List.foldlM_cons] at ok
      obtain ⟨mid, first, later⟩ := bind_eq_ok.mp ok
      obtain ⟨found, -, -⟩ := pending.2 row List.mem_cons_self
      obtain ⟨next, sub', written⟩ := renew_budgeted budgeted found first
      rw [sweepUses, first, ← List.append_assoc]
      exact ih next (pending.tail written) later

theorem recordUsage_spares {description idempotencyKey : String} {amountCents units : Option Int}
    {new : Bool}
    (ok : state.recordUsage catalogue installation app description idempotencyKey amountCents units
      chargeId now = .ok (after, new)) : Spares state after := by
  rcases recordUsage_ok ok with shape | ⟨sub, amount, usage, books, tx, note, -, reported, charged,
    rest⟩
  · rw [shape]
    exact .refl state
  cases tx with
  | none =>
      rw [rest]
      exact spares_of_invoices rfl rfl rfl
  | some tx =>
      obtain ⟨subscriptionId, subject, booked, -, book, shape⟩ := rest
      rw [shape]
      refine ⟨rfl, rfl, Books.booked_discounts charged book fun discounted => ?_⟩
      exact absurd (quoteFor_none catalogue app (usageAmount_nonneg reported) _) discounted

theorem purchaseTheme_spares {theme : Theme} {storeId tenantId userId purchaseId : UUID}
    {bought : Bool}
    (ok : state.purchaseTheme catalogue theme storeId tenantId userId purchaseId chargeId now =
      .ok (after, bought)) : Spares state after := by
  rcases purchaseTheme_ok ok with shape |
    ⟨earlier, books, tx, note, subject, booked, purchases, priced, -, charged, book, shape⟩
  · rw [shape]
    exact .refl state
  · rw [shape]
    refine ⟨rfl, rfl, Books.booked_discounts charged book fun discounted => ?_⟩
    exact absurd (themeQuote_undiscounted catalogue theme priced) discounted

theorem refundCharge_spares {id actorUserId : UUID} {note : String} {refunded : Bool}
    (ok : state.refundCharge id chargeId actorUserId note now = .ok (after, refunded)) :
    Spares state after := by
  simp only [refundCharge] at ok
  obtain ⟨⟨books, tx⟩, refund, ok⟩ := bind_eq_ok.mp ok
  cases tx with
  | none =>
      cases ok
      exact .refl state
  | some tx =>
      cases ok
      exact ⟨rfl, rfl, Books.refundCharge_discounts refund⟩

theorem cancel_spares (state : BillingState) (installationId : UUID) :
    Spares state (state.cancel installationId) := by
  rw [cancel]
  split
  · exact .refl state
  · rename_i sub active
    have found := (Option.filter_eq_some_iff.mp active).1
    have same : ({ sub with cancelAtPeriodEnd := true } : AppSubscription).holding =
        state.holdings installationId := by
      rw [holdings, found]
      rfl
    refine spares_of_invoices rfl ?_ rfl
    rw [holdings_set rfl, same, Function.update_eq_self]

/-- A `subscribe` call adds at most one redemption, and takes none away. -/
theorem subscribe_redeemed [UpperCase] {couponCode : Option String} {started : Bool}
    (ok : state.subscribe catalogue installation app couponCode newId chargeId now =
      .ok (after, started)) : state.redeemed <+: after.redeemed := by
  have finished (mid : BillingState) {sub : AppSubscription} {coupon : Option (UUID × AppCoupon)}
      {applied : Bool} {charged : Option (Quote × Charged)}
      (ok : mid.finishSubscribe installation app sub coupon applied charged now = .ok after) :
      mid.redeemed <+: after.redeemed := by
    obtain ⟨redeemed, sub', redemption, same, -⟩ := finishSubscribe_rows ok
    rw [same]
    cases coupon with
    | none =>
        cases redemption
        exact List.prefix_rfl
    | some coupon =>
        simp only [redeemAny, redeem] at redemption
        split at redemption
        · cases redemption
        rename_i first
        rw [Bool.not_eq_true, Option.isSome_eq_false_iff, Option.isNone_iff_eq_none] at first
        cases redemption
        rw [BillingState.redeemed, BillingState.redeemed, Table.set_rows_of_absent _ first,
          List.map_append]
        exact List.prefix_append _ _
  rcases subscribe_ok ok with ⟨paid, -, -, shape⟩ | shape | ⟨price, coupon, -, -, started⟩
  · subst shape
    exact List.prefix_rfl
  · subst shape
    exact List.prefix_rfl
  rcases started with ⟨trials, -, done⟩ | ⟨-, done⟩ | ⟨books, tx, -, done⟩
  · exact finished { state with trials := trials } done
  · exact finished state done
  · exact finished { state with books := books } done

theorem renew_redemptions {chargeId : UUID → UUID} {installationId : UUID} {sub : AppSubscription}
    (ok : state.renew catalogue chargeId now installationId sub = .ok after) :
    after.redemptions = state.redemptions := by
  rcases renew_ok ok with ⟨status, -, shape⟩ | ⟨-, ⟨-, shape⟩ |
    ⟨app, books, tx, note, charged, rest⟩⟩
  · rw [shape]
    rfl
  · rw [shape]
    rfl
  cases tx with
  | none =>
      rw [rest]
      rfl
  | some tx =>
      obtain ⟨subscriptionId, subject, booked, -, book, shape⟩ := rest
      rw [shape]
      rfl

end Coupons
end BillingState

/-- The limits are those of the coupons that a call may redeem. -/
def BillingLabel.Obeys (limits : UUID → Limits) : BillingLabel → Prop
  | .subscribe catalogue _ _ _ _ _ _ => catalogue.Obeys limits
  | _ => True

instance (limits : UUID → Limits) : ∀ label : BillingLabel, Decidable (label.Obeys limits)
  | .subscribe catalogue _ _ _ _ _ _ => inferInstanceAs (Decidable (catalogue.Obeys limits))
  | .cancel _ => isTrue trivial
  | .renewDue .. => isTrue trivial
  | .recordUsage .. => isTrue trivial
  | .purchaseTheme .. => isTrue trivial
  | .refundCharge .. => isTrue trivial
  | .setWallet .. => isTrue trivial

namespace BillingState
variable {limits : UUID → Limits} {state : BillingState} {counted : List (UUID × UUID × UUID)}

/-- Only `subscribe` and the sweep touch the coupons. -/
theorem step_spares [UpperCase] (state : BillingState) (label : BillingLabel) :
    (∃ catalogue installation app couponCode newId chargeId now,
      label = .subscribe catalogue installation app couponCode newId chargeId now) ∨
    (∃ catalogue locked chargeId now, label = .renewDue catalogue locked chargeId now) ∨
    state.couponUses label = [] ∧ Spares state (state.step label) := by
  cases label with
  | subscribe => exact Or.inl ⟨_, _, _, _, _, _, _, rfl⟩
  | renewDue => exact Or.inr (Or.inl ⟨_, _, _, _, rfl⟩)
  | cancel installationId => exact Or.inr (Or.inr ⟨rfl, cancel_spares state installationId⟩)
  | recordUsage =>
      refine Or.inr (Or.inr ⟨rfl, Outcome.orKeep_keeps (P := Spares state) (.refl state) ?_⟩)
      intro after ok
      obtain ⟨⟨mid, new⟩, returned, rfl⟩ := Outcome.map_eq_ok.mp ok
      exact recordUsage_spares returned
  | purchaseTheme =>
      refine Or.inr (Or.inr ⟨rfl, Outcome.orKeep_keeps (P := Spares state) (.refl state) ?_⟩)
      intro after ok
      obtain ⟨⟨mid, charged⟩, returned, rfl⟩ := Outcome.map_eq_ok.mp ok
      exact purchaseTheme_spares returned
  | refundCharge =>
      refine Or.inr (Or.inr ⟨rfl, Outcome.orKeep_keeps (P := Spares state) (.refl state) ?_⟩)
      intro after ok
      obtain ⟨⟨mid, refunded⟩, returned, rfl⟩ := Outcome.map_eq_ok.mp ok
      exact refundCharge_spares returned
  | setWallet => exact Or.inr (Or.inr ⟨rfl, spares_of_invoices rfl rfl rfl⟩)

theorem step_budgeted [UpperCase] (budgeted : Budgeted limits state counted)
    {label : BillingLabel} (obeys : label.Obeys limits) :
    Budgeted limits (state.step label) (counted ++ state.couponUses label) := by
  rcases step_spares state label with
    ⟨catalogue, installation, app, couponCode, newId, chargeId, now, rfl⟩ |
    ⟨catalogue, locked, chargeId, now, rfl⟩ | ⟨unused, spares⟩
  · rw [couponUses]
    cases ok : state.subscribe catalogue installation app couponCode newId chargeId now with
    | error error =>
        have unchanged : state.step (.subscribe catalogue installation app couponCode newId
            chargeId now) = state := by
          rw [step, ok]
          rfl
        rw [unchanged, if_neg (not_charges_of_books rfl chargeId), List.append_nil]
        exact budgeted
    | ok result =>
        obtain ⟨after, started⟩ := result
        have returned : state.step (.subscribe catalogue installation app couponCode newId
            chargeId now) = after := by
          rw [step, ok]
          rfl
        rw [returned]
        exact subscribe_budgeted budgeted obeys ok
  · rw [couponUses, step]
    cases ok : state.renewDue catalogue locked chargeId now with
    | error error =>
        rw [List.append_nil]
        exact budgeted
    | ok after => exact sweep_budgeted budgeted (due_pending state locked now) ok
  · rw [unused, List.append_nil]
    exact spares.budgeted budgeted

/-- No call takes a redemption away. -/
theorem step_redeemed [UpperCase] (state : BillingState) (label : BillingLabel) :
    state.redeemed <+: (state.step label).redeemed := by
  have same {after : BillingState} (redemptions : after.redemptions = state.redemptions) :
      state.redeemed <+: after.redeemed := by
    have equal : after.redeemed = state.redeemed :=
      congrArg (fun table : Table _ _ => table.rows.map Prod.fst) redemptions
    exact equal ▸ List.prefix_rfl
  rcases step_spares state label with
    ⟨catalogue, installation, app, couponCode, newId, chargeId, now, rfl⟩ |
    ⟨catalogue, locked, chargeId, now, rfl⟩ | ⟨-, spares⟩
  · refine Outcome.orKeep_keeps (P := fun after : BillingState => state.redeemed <+: after.redeemed)
      List.prefix_rfl ?_
    intro after ok
    obtain ⟨⟨mid, started⟩, returned, rfl⟩ := Outcome.map_eq_ok.mp ok
    exact subscribe_redeemed returned
  · refine Outcome.orKeep_keeps (P := fun after : BillingState => state.redeemed <+: after.redeemed)
      List.prefix_rfl ?_
    intro after ok
    apply same
    exact Outcome.foldlM_ok (P := fun after => after.redemptions = state.redemptions)
      (fun before row after same ok => (renew_redemptions ok).trans same) ok rfl
  · exact same spares.redemptions

end BillingState

/-- A run with the discounted charges so far, each with the redemption it is counted for. -/
structure CouponTrack where
  state : BillingState := {}
  uses : List (UUID × UUID × UUID) := []

namespace CouponTrack

def step [UpperCase] (track : CouponTrack) (label : BillingLabel) : CouponTrack where
  state := track.state.step label
  uses := track.uses ++ track.state.couponUses label

/-- How many charges a redemption has discounted. -/
def usesOf (track : CouponTrack) (redemption : UUID × UUID) : Nat :=
  (track.uses.filter fun use => use.2 = redemption).length

/-- Coupons are redeemed once by a store and so many times in all, and a redemption discounts so
many charges; no invoice has a discount of another kind. A cycle is taken off what a subscription
has left by a charge alone. -/
structure KeepsBudget (limits : UUID → Limits) (track : CouponTrack) : Prop where
  once : track.state.redeemed.Nodup
  bounded : ∀ coupon most, (limits coupon).redemptions = some most →
    (track.state.redeemed.filter fun redemption => redemption.1 = coupon).length ≤ most
  limited : ∀ redemption most, (limits redemption.1).uses = some most →
    track.usesOf redemption ≤ most
  discounted : ∀ id invoice, track.state.books.invoices.get? (id, .invoice) = some invoice →
    invoice.discountCents ≠ 0 → ∃ redemption ∈ track.state.redeemed, (id, redemption) ∈ track.uses
  left : ∀ installationId sub coupon most,
    track.state.subscriptions.get? installationId = some sub → sub.couponId = some coupon →
      (limits coupon).uses = some most →
        ∃ left : Int, sub.couponCyclesLeft = some left ∧
          track.usesOf (coupon, sub.storeId) + left = most

theorem usesOf_eq_count (track : CouponTrack) (redemption : UUID × UUID) :
    track.usesOf redemption = (track.uses.map Prod.snd).count redemption := by
  rw [usesOf, List.count, List.countP_map, List.countP_eq_length_filter]
  congr 1
  apply List.filter_congr
  intro use _
  exact (beq_eq_decide use.2 redemption).symm

theorem keepsBudget_of_budgeted {limits : UUID → Limits} {track : CouponTrack}
    (budgeted : BillingState.Budgeted limits track.state track.uses) :
    KeepsBudget limits track where
  once := budgeted.within.once
  bounded := budgeted.within.bounded
  limited := by
    intro redemption most limit
    rw [usesOf_eq_count]
    exact budgeted.within.limited redemption most limit
  discounted := by
    intro id invoice found discounted
    obtain ⟨⟨_, redemption⟩, member, rfl⟩ :=
      List.mem_map.mp (budgeted.discounted id invoice found discounted)
    exact ⟨redemption, budgeted.within.used redemption (List.mem_map_of_mem member), member⟩
  left := by
    intro installationId sub coupon most found couponId limit
    have held : track.state.holdings installationId =
        some ⟨coupon, sub.storeId, sub.couponCyclesLeft⟩ := by
      rw [BillingState.holdings, found, Option.bind_some, AppSubscription.holding, couponId]
      rfl
    obtain ⟨left, isLeft, -, sum⟩ := budgeted.within.counted installationId _ most held limit
    refine ⟨left, isLeft, ?_⟩
    rw [usesOf_eq_count]
    exact sum

theorem always_keepsBudget [UpperCase] {limits : UUID → Limits} {track : CouponTrack}
    (budgeted : BillingState.Budgeted limits track.state track.uses) {labels : List BillingLabel}
    (obeys : ∀ label ∈ labels, label.Obeys limits) :
    Run.Always step (KeepsBudget limits) track labels := by
  induction labels generalizing track with
  | nil => exact keepsBudget_of_budgeted budgeted
  | cons label rest ih =>
      have next := BillingState.step_budgeted budgeted (obeys label List.mem_cons_self)
      exact ⟨keepsBudget_of_budgeted budgeted,
        ih next fun other member => obeys other (List.mem_cons_of_mem _ member)⟩

theorem redemptions_last [UpperCase] (track : CouponTrack) (labels : List BillingLabel) :
    Run.Transitions step (fun track after => track.state.redeemed <+: after.state.redeemed) track
      labels := by
  induction labels generalizing track with
  | nil => trivial
  | cons label rest ih => exact ⟨BillingState.step_redeemed track.state label, ih _⟩

end CouponTrack

/-- In every run whose coupons keep the limits they were created with, no coupon gives more than
its budget, and no redemption is ever taken back. -/
theorem coupons_keep_budget [UpperCase] (limits : UUID → Limits) (labels : List BillingLabel)
    (obeys : ∀ label ∈ labels, label.Obeys limits) :
    Run.Always CouponTrack.step (CouponTrack.KeepsBudget limits) {} labels ∧
      Run.Transitions CouponTrack.step
        (fun track after => track.state.redeemed <+: after.state.redeemed) {} labels := by
  have initial : BillingState.Budgeted limits {} [] := by
    refine ⟨Within.empty limits, fun id invoice found => ?_⟩
    cases found
  constructor
  · exact CouponTrack.always_keepsBudget initial obeys
  · exact CouponTrack.redemptions_last {} labels

/-- A coupon for two cycles and one store is redeemed with a trial, refused to another store,
discounts two renewals, and leaves a third and a later subscription alone. -/
def couponRuns : List BillingLabel :=
  let app : App := { labelsApp with price := some { priceCents := 1000, trialDays := 7 } }
  let installation : Installation := { id := 4, tenantId := 1, storeId := 2 }
  let other : Installation := { id := 14, tenantId := 1, storeId := 12 }
  let coupon : AppCoupon :=
    { appId := 3
      code := "HALF"
      percentOff := some 50
      durationCycles := some 2
      maxRedemptions := some 1 }
  let catalogue : Catalogue :=
    { apps := fun _ => some app
      installations := fun _ => some installation
      coupons := [(7, coupon)] }
  let renew (chargeId : UUID) (day : Nat) : BillingLabel :=
    .renewDue catalogue (fun _ => false) (fun _ => chargeId) (day * Calendar.dayLength)
  [.setWallet 1 { balanceCents := 50000 },
    .subscribe catalogue installation app (some "half") 5 6 0,
    .subscribe catalogue other app (some "half") 15 16 0,
    renew 20 8,
    renew 21 38,
    renew 22 68,
    .cancel 4,
    renew 23 98,
    .subscribe catalogue installation app (some "half") 5 24 (99 * Calendar.dayLength),
    .subscribe catalogue installation app none 5 25 (99 * Calendar.dayLength)]

theorem couponRuns_keep_budget :
    let _ := UpperCase.ascii
    Run.Always CouponTrack.step
        (CouponTrack.KeepsBudget fun _ => { redemptions := some 1, uses := some 2 }) {}
        couponRuns ∧
      Run.Transitions CouponTrack.step
        (fun track after => track.state.redeemed <+: after.state.redeemed) {} couponRuns := by
  intro _
  exact coupons_keep_budget _ couponRuns (by decide +kernel)

/-- The discounts on the invoices of that run, and the charges counted for the redemption. -/
example :
    let _ := UpperCase.ascii
    let track := Run.run CouponTrack.step {} couponRuns
    track.state.books.invoices.rows.map (fun row => (row.1.1, row.2.discountCents)) =
        [(20, 500), (21, 500), (22, 0), (25, 0)] ∧
      track.uses = [(20, 7, 2), (21, 7, 2)] := by decide +kernel

end Numu.AppBilling
