import Numu.Foundation.Run
import Numu.Wallet.Topup

/-! Interleavings of uploads, reviews, gateway calls and expiry sweeps over one wallet. -/

namespace Numu.Wallet
open Numu.Orders (UUID Time)

inductive TopupLabel where
  /-- `CreateTopupUseCase`: a card intent waits for the gateway, a manual one for a proof. -/
  | create (intentId : UUID) (method : TopupMethod) (amountCents : Nat) (reference : String)
      (expiresAt : Time) (amount_pos : 0 < amountCents)
  /-- An upload reads the intent without a lock. -/
  | readIntent (session : Nat) (intentId : UUID) (transactionRef : String) (now : Time)
  /-- The upload stores its proof and locks the intent. -/
  | submit (session : Nat) (proofId : UUID) (approved : Bool) (txId : UUID)
  | readProof (session : Nat) (proofId : UUID)
  | approve (session : Nat) (adminUserId txId : UUID) (now : Time)
  | reject (session : Nat) (adminUserId : UUID) (reason : String) (now : Time)
  | gateway (intentId : UUID) (call : GatewayCall) (txId : UUID)
  | expire (now : Time)
  /-- An entry of one of the other callers, which name no top-up intent. -/
  | applyEntry (entry : Entry)
  | setStatus (status : WalletStatus)

namespace TopupState

def submitTo (state : TopupState) (session : Nat) (intentId : Option UUID) : TopupState :=
  { state with submitting := Function.update state.submitting session intentId }

def reviewOf (state : TopupState) (session : Nat) (proof : Option (UUID × TopupProof)) :
    TopupState :=
  { state with reviewing := Function.update state.reviewing session proof }

def newIntent (method : TopupMethod) (amountCents : Nat) (reference : String) (expiresAt : Time)
    (amount_pos : 0 < amountCents) : TopupIntent where
  method := method
  amountCents := amountCents
  status := if method = .card then .pending else .awaitingProof
  specialReference := reference
  expiresAt := some expiresAt
  amount_pos := amount_pos

def storeProof (state : TopupState) (intentId proofId : UUID) (approved : Bool)
    (absent : proofId ∉ state.proofs.rows.map Prod.fst) : TopupState :=
  let proof : TopupProof := {
    topupIntentId := intentId
    status := if approved then .autoApproved else .awaitingReview }
  { state with proofs := state.proofs.insert proofId proof absent }

/-- The transaction of an upload, from the insert of the proof. -/
def submitProof (state : TopupState) (intentId : UUID) (intent : TopupIntent) (proofId : UUID)
    (approved : Bool) (txId : UUID) : Option TopupState :=
  if absent : proofId ∉ state.proofs.rows.map Prod.fst then
    let stored := state.storeProof intentId proofId approved absent
    if approved then stored.creditTopupIntent intentId intent (proofKey proofId) none txId
    else some (stored.queueForReview intentId intent)
  else none

/-- An entry of another caller, on the locked wallet. -/
def applyOther (state : TopupState) (entry : Entry) : TopupState :=
  let plain := { entry with topupIntentId := none }
  match WalletService.applyEntry (state.ledger ++ state.others) state.wallet plain with
  | .applied tx =>
      { state with
        wallet := { state.wallet with balanceCents := tx.balanceAfterCents }
        ledger := state.ledger ++ [tx] }
  | _ => state

/-- The committed state after a label; a request that fails leaves it as it was. -/
def step (state : TopupState) (label : TopupLabel) : TopupState :=
  match label with
  | .create intentId method amountCents reference expiresAt amount_pos =>
      if absent : intentId ∉ state.intents.rows.map Prod.fst then
        { state with intents := state.intents.insert intentId (newIntent method amountCents reference
            expiresAt amount_pos) absent }
      else state
  | .readIntent session intentId transactionRef now =>
      match checkSubmission (state.intents.get? intentId) transactionRef now with
      | .ok _ => state.submitTo session (some intentId)
      | .error _ => state.submitTo session none
  | .submit session proofId approved txId =>
      match state.submitting session with
      | some intentId =>
          match state.intents.get? intentId with
          | some intent =>
              ((state.submitProof intentId intent proofId approved txId).getD state).submitTo
                session none
          | none => state
      | none => state
  | .readProof session proofId =>
      match checkReview (state.proofs.get? proofId) with
      | .ok proof => state.reviewOf session (some (proofId, proof))
      | .error _ => state.reviewOf session none
  | .approve session adminUserId txId now =>
      match state.reviewing session with
      | some (proofId, proof) =>
          match state.intents.get? proof.topupIntentId with
          | some intent =>
              ((state.approveProof proofId proof.topupIntentId intent adminUserId txId now).getD
                state).reviewOf session none
          | none => state
      | none => state
  | .reject session adminUserId reason now =>
      match state.reviewing session with
      | some (proofId, proof) =>
          match state.intents.get? proof.topupIntentId with
          | some intent =>
              (state.rejectProof proofId proof.topupIntentId intent adminUserId reason now).reviewOf
                session none
          | none => state
      | none => state
  | .gateway intentId call txId =>
      match state.intents.get? intentId with
      | some intent => (state.gatewayWebhook intentId intent call txId).getD state
      | none => state
  | .expire now => { state with intents := state.intents.updateAll (expireIntent now) }
  | .applyEntry entry => state.applyOther entry
  | .setStatus status => { state with wallet := { state.wallet with status := status } }

/-- What an intent holds of the pending balance. -/
def held (intent : TopupIntent) : Nat :=
  if intent.status = .underReview then intent.amountCents else 0

def sameIntent (left right : WalletTransaction) : Bool :=
  sameValue left.topupIntentId right.topupIntentId

/-- The pending balance is what is under review, and no intent is credited twice. -/
structure Balanced (state : TopupState) : Prop where
  pending : state.wallet.pendingBalanceCents = state.intents.total held
  once : state.ledger.Pairwise fun earlier later => sameIntent earlier later = false

def Succeeded (state : TopupState) (intentId : UUID) : Prop :=
  (state.intents.get? intentId).map TopupIntent.status = some .succeeded

/-- Beside the balance: what the ledger credits has succeeded. -/
structure Sound (state : TopupState) : Prop extends Balanced state where
  credited : ∀ tx ∈ state.ledger, ∀ intentId, tx.topupIntentId = some intentId →
    state.Succeeded intentId

def Pending (state : TopupState) : Prop :=
  state.wallet.pendingBalanceCents = state.intents.total held

/-- What a request does to the intents that have succeeded and to the ledger, and, where it is
admissible, to the hold. -/
structure Moves (before after : TopupState) (admissible : Prop) : Prop where
  pending : admissible → Pending before → Pending after
  succeeded : ∀ intentId, before.Succeeded intentId → after.Succeeded intentId
  ledger : after.ledger = before.ledger ∨ ∃ tx, after.ledger = before.ledger ++ [tx] ∧
    ∀ intentId, tx.topupIntentId = some intentId →
      ¬ before.Succeeded intentId ∧ after.Succeeded intentId

theorem Moves.refl (state : TopupState) (admissible : Prop) : Moves state state admissible :=
  ⟨fun _ pending => pending, fun _ done => done, .inl rfl⟩

theorem Moves.weaken {before after : TopupState} {weak strong : Prop}
    (moves : Moves before after weak) (implies : strong → weak) : Moves before after strong :=
  ⟨fun admissible => moves.pending (implies admissible), moves.succeeded, moves.ledger⟩

/-- A step that leaves the ledger may come first. -/
theorem Moves.trans {first second third : TopupState} {admissible : Prop}
    (idle : Moves first second admissible) (same : second.ledger = first.ledger)
    (moves : Moves second third admissible) : Moves first third admissible := by
  refine ⟨fun admissible pending => ?_, fun intentId done => ?_, ?_⟩
  · exact moves.pending admissible (idle.pending admissible pending)
  · exact moves.succeeded intentId (idle.succeeded intentId done)
  · rcases moves.ledger with kept | ⟨tx, added, credits⟩
    · exact .inl (kept.trans same)
    · refine .inr ⟨tx, by rw [added, same], fun intentId names => ?_⟩
      obtain ⟨open_, done⟩ := credits intentId names
      exact ⟨fun earlier => open_ (idle.succeeded intentId earlier), done⟩

theorem Sound.of_moves {before after : TopupState} {admissible : Prop} (sound : Sound before)
    (moves : Moves before after admissible) (allowed : admissible) : Sound after := by
  refine ⟨⟨moves.pending allowed sound.pending, ?_⟩, ?_⟩
  · rcases moves.ledger with kept | ⟨tx, added, credits⟩
    · rw [kept]
      exact sound.once
    · rw [added, List.pairwise_append]
      refine ⟨sound.once, List.pairwise_singleton _ _, ?_⟩
      intro earlier member later single
      rw [List.mem_singleton.mp single]
      cases names : earlier.topupIntentId with
      | none => simp [sameIntent, sameValue, names]
      | some intentId =>
          have done := sound.credited earlier member intentId names
          have different : tx.topupIntentId ≠ some intentId :=
            fun again => (credits intentId again).1 done
          simp [sameIntent, sameValue, names, Ne.symm different]
  · rcases moves.ledger with kept | ⟨tx, added, credits⟩
    · intro tx member intentId names
      rw [kept] at member
      exact moves.succeeded intentId (sound.credited tx member intentId names)
    · intro row member intentId names
      rw [added, List.mem_append, List.mem_singleton] at member
      rcases member with earlier | same
      · exact moves.succeeded intentId (sound.credited row earlier intentId names)
      · subst same
        exact (credits intentId names).2

section
variable {state : TopupState} {intentId : UUID} {row : TopupIntent}

theorem succeeded_setIntent (present : state.intents.get? intentId = some row)
    {f : TopupIntent → TopupIntent} (kept : row.status = .succeeded → (f row).status = .succeeded)
    (wallet : MerchantWallet) (ledger : List WalletTransaction) {other : UUID}
    (done : state.Succeeded other) :
    ({ state with wallet := wallet, ledger := ledger }.setIntent intentId f).Succeeded other := by
  unfold Succeeded at done ⊢
  by_cases same : other = intentId
  · subst same
    rw [present] at done
    simp only [Option.map_some, Option.some.injEq] at done
    simp [setIntent, present, kept done]
  · simp only [setIntent, Table.get?_modify_of_ne _ _ same]
    exact done

/-- One intent and the hold it takes from the wallet move together. -/
theorem moves_setIntent (present : state.intents.get? intentId = some row)
    {f : TopupIntent → TopupIntent} (kept : row.status = .succeeded → (f row).status = .succeeded)
    {wallet : MerchantWallet} {admissible : Prop}
    (balance : admissible → Pending state → wallet.pendingBalanceCents + held row =
      state.wallet.pendingBalanceCents + held (f row)) :
    Moves state ({ state with wallet := wallet }.setIntent intentId f) admissible := by
  refine ⟨fun admissible pending => ?_, fun other done => ?_, .inl rfl⟩
  · have change := state.intents.total_modify f present held
    have moved := balance admissible pending
    simp only [Pending, setIntent] at pending ⊢
    omega
  · exact succeeded_setIntent present kept wallet state.ledger done

/-- A credit appends one row for an intent that had not succeeded and now has. -/
theorem moves_credit (present : state.intents.get? intentId = some row)
    (open_ : row.status ≠ .succeeded) {f : TopupIntent → TopupIntent}
    (closes : (f row).status = .succeeded) {wallet : MerchantWallet} {tx : WalletTransaction}
    (names : tx.topupIntentId = some intentId)
    (balance : Pending state → wallet.pendingBalanceCents + held row =
      state.wallet.pendingBalanceCents) :
    Moves state ({ state with
      wallet := wallet
      ledger := state.ledger ++ [tx] }.setIntent intentId f) True := by
  have closed : held (f row) = 0 := by simp [held, closes]
  refine ⟨fun _ pending => ?_, fun other done => ?_, .inr ⟨tx, rfl, fun other same => ?_⟩⟩
  · have change := state.intents.total_modify f present held
    have released := balance pending
    simp only [Pending, setIntent] at pending ⊢
    omega
  · exact succeeded_setIntent present (fun done => absurd done open_) wallet _ done
  · rw [names] at same
    cases same
    constructor
    · intro done
      unfold Succeeded at done
      rw [present] at done
      exact open_ (by simpa using done)
    · simp [Succeeded, setIntent, present, closes]

/-- The hold of an intent is part of the pending balance, so that a release takes all of it. -/
theorem releaseReviewHold_pending (pending : Pending state)
    (present : state.intents.get? intentId = some row) {intent : TopupIntent}
    (status : row.status = intent.status) (amount : row.amountCents = intent.amountCents) :
    (releaseReviewHold state.wallet intent).pendingBalanceCents + held row =
      state.wallet.pendingBalanceCents := by
  have part := state.intents.le_total present held
  by_cases review : intent.status = .underReview
  · have whole : held row = intent.amountCents := by simp [held, status, amount, review]
    simp only [releaseReviewHold, review, if_true, WalletService.releasePendingHold]
    simp only [Pending] at pending
    omega
  · simp [releaseReviewHold, held, status, review]

theorem creditTopupIntent_moves (present : state.intents.get? intentId = some row)
    {intent : TopupIntent} (status : row.status = intent.status)
    (amount : row.amountCents = intent.amountCents) {key : String} {actor : Option UUID}
    {txId : UUID} {after : TopupState}
    (ok : state.creditTopupIntent intentId intent key actor txId = some after) :
    Moves state after True := by
  have release (pending : Pending state) :=
    releaseReviewHold_pending pending present status amount
  simp only [creditTopupIntent] at ok
  split at ok
  · cases ok
    exact .refl state True
  · rename_i open_
    rw [not_or] at open_
    split at ok
    · cases ok
    · cases ok
      refine moves_setIntent present (fun _ => rfl) fun _ pending => ?_
      simpa [held] using release pending
    · rename_i tx applied
      cases ok
      obtain ⟨made, -⟩ := WalletService.applyEntry_applied applied
      have names : tx.topupIntentId = some intentId := by rw [made]; rfl
      exact moves_credit present (status ▸ open_.1) rfl names release

/-- The statuses in which a queued upload may find its intent once it is locked. -/
def openStatuses : List TopupIntentStatus := [.awaitingProof, .underReview, .succeeded]

theorem queueForReview_moves (present : state.intents.get? intentId = some row) :
    Moves state (state.queueForReview intentId row) (row.status ∈ openStatuses) := by
  unfold queueForReview
  by_cases done : row.status = .succeeded
  · simp only [done]
    exact .refl state _
  · by_cases waiting : row.status = .awaitingProof
    · simp only [waiting, if_true]
      refine moves_setIntent present (fun closed => absurd closed done) fun _ _ => ?_
      simp [held, waiting, WalletService.addPendingHold]
    · rw [if_neg waiting, if_pos done]
      refine moves_setIntent present (fun closed => absurd closed done) fun listed _ => ?_
      have review : row.status = .underReview := by simpa [openStatuses, waiting, done] using listed
      simp [held, review]

theorem rejectProof_moves (present : state.intents.get? intentId = some row)
    (proofId adminUserId : UUID) (reason : String) (now : Time) :
    Moves state (state.rejectProof proofId intentId row adminUserId reason now) True := by
  unfold rejectProof
  simp only
  split
  · rename_i open_
    have moves : Moves state ({ state with
        wallet := releaseReviewHold state.wallet row }.setIntent intentId fun stored =>
          { stored with
            status := .awaitingProof
            failureReason := some (if reason = "" then "Rejected by admin" else reason) }) True :=
      moves_setIntent present (fun done => absurd done open_) fun _ pending => by
        simpa [held] using releaseReviewHold_pending pending present rfl rfl
    exact ⟨moves.pending, moves.succeeded, moves.ledger⟩
  · rename_i closed
    have done : row.status = .succeeded := not_not.mp closed
    have untouched : releaseReviewHold state.wallet row = state.wallet := by
      simp [releaseReviewHold, done]
    refine ⟨fun _ pending => ?_, fun _ done => done, .inl rfl⟩
    simp only [setProof, untouched]
    exact pending

theorem approveProof_moves (present : state.intents.get? intentId = some row)
    {proofId adminUserId txId : UUID} {now : Time} {after : TopupState}
    (ok : state.approveProof proofId intentId row adminUserId txId now = some after) :
    Moves state after True := by
  unfold approveProof at ok
  have marked : (state.setProof proofId fun stored =>
      { stored with
        status := .approved
        reviewDecisionBy := some adminUserId
        reviewDecisionAt := some now }).intents.get? intentId = some row := present
  have moves := creditTopupIntent_moves marked rfl rfl ok
  exact ⟨moves.pending, moves.succeeded, moves.ledger⟩

theorem submitProof_moves (present : state.intents.get? intentId = some row)
    {proofId txId : UUID} {approved : Bool} {after : TopupState}
    (ok : state.submitProof intentId row proofId approved txId = some after) :
    Moves state after (approved = false → row.status ∈ openStatuses) := by
  unfold submitProof at ok
  split at ok
  · rename_i absent
    have stored : (state.storeProof intentId proofId approved absent).intents.get? intentId =
        some row := present
    have moves : Moves (state.storeProof intentId proofId approved absent) after
        (approved = false → row.status ∈ openStatuses) := by
      cases approved with
      | true =>
          exact (creditTopupIntent_moves stored rfl rfl ok).weaken fun _ => trivial
      | false =>
          cases ok
          exact (queueForReview_moves stored).weaken fun listed => listed rfl
    exact ⟨moves.pending, moves.succeeded, moves.ledger⟩
  · cases ok

theorem gatewayWebhook_moves (present : state.intents.get? intentId = some row)
    {call : GatewayCall} {txId : UUID} {after : TopupState}
    (ok : state.gatewayWebhook intentId row call txId = some after) : Moves state after True := by
  unfold gatewayWebhook at ok
  split at ok
  · cases ok
    exact .refl state True
  · split at ok
    · split at ok
      · rename_i pending
        cases ok
        refine moves_setIntent present (fun done => absurd (pending.symm.trans done) (by decide))
          fun _ _ => ?_
        simp [held, pending]
      · cases ok
        exact .refl state True
    · split at ok
      · cases ok
        exact .refl state True
      · split at ok
        · cases ok
          exact .refl state True
        · -- The gateway's transaction id is noted on the intent before it is credited.
          have naming : Moves state (state.setIntent intentId fun stored =>
              { stored with gatewayTransactionId := some call.transactionId }) True :=
            moves_setIntent present (fun done => done) fun _ _ => rfl
          have noted : (state.setIntent intentId fun stored =>
              { stored with gatewayTransactionId := some call.transactionId }).intents.get? intentId =
              some { row with gatewayTransactionId := some call.transactionId } := by
            simp [setIntent, present]
          exact naming.trans rfl (creditTopupIntent_moves noted rfl rfl ok)

end

theorem expire_moves (state : TopupState) (now : Time) :
    Moves state { state with intents := state.intents.updateAll (expireIntent now) } True := by
  have fixed (intent : TopupIntent) : held (expireIntent now intent) = held intent := by
    unfold expireIntent
    split
    · rename_i due
      rcases due.1 with waiting | waiting <;> simp [held, waiting]
    · rfl
  refine ⟨fun _ pending => ?_, fun intentId done => ?_, .inl rfl⟩
  · simp only [Pending, Table.total_updateAll _ _ fixed]
    exact pending
  · unfold Succeeded at done ⊢
    rw [Table.get?_updateAll]
    cases found : state.intents.get? intentId with
    | none => simp [found] at done
    | some intent =>
        have closed : intent.status = .succeeded := by simpa [found] using done
        simp [expireIntent, closed]

theorem applyOther_moves (state : TopupState) (entry : Entry) :
    Moves state (state.applyOther entry) True := by
  unfold applyOther
  simp only
  split
  · rename_i tx applied
    obtain ⟨made, -⟩ := WalletService.applyEntry_applied applied
    refine ⟨fun _ pending => pending, fun _ done => done, .inr ⟨tx, rfl, fun intentId names => ?_⟩⟩
    rw [made] at names
    cases names
  · exact .refl state True

theorem create_moves {state : TopupState} {intentId : UUID}
    (absent : intentId ∉ state.intents.rows.map Prod.fst) (method : TopupMethod)
    (amountCents : Nat) (reference : String) (expiresAt : Time) (amount_pos : 0 < amountCents) :
    Moves state { state with
      intents := state.intents.insert intentId
        (newIntent method amountCents reference expiresAt amount_pos) absent } True := by
  have unheld : held (newIntent method amountCents reference expiresAt amount_pos) = 0 := by
    unfold held newIntent
    simp only
    split <;> simp
  refine ⟨fun _ pending => ?_, fun other done => ?_, .inl rfl⟩
  · simp only [Pending, Table.total_insert, unheld, Nat.add_zero]
    exact pending
  · unfold Succeeded at done ⊢
    have different : other ≠ intentId := by
      intro same
      rcases same with rfl
      cases found : state.intents.get? other with
      | none => simp [found] at done
      | some intent =>
          have member := (state.intents.get?_eq_some_iff other intent).mp found
          exact absent (List.mem_map_of_mem (f := Prod.fst) member)
    rw [Table.get?_insert, if_neg different]
    exact done

/-- An upload that is queued for review finds its intent, once locked, still waiting, under
review or already credited. -/
def StillOpen (state : TopupState) (label : TopupLabel) : Prop :=
  match label with
  | .submit session proofId false _ =>
      ∀ intentId intent, state.submitting session = some intentId →
        state.intents.get? intentId = some intent →
        proofId ∉ state.proofs.rows.map Prod.fst → intent.status ∈ openStatuses
  | _ => True

theorem step_moves (state : TopupState) (label : TopupLabel) :
    Moves state (state.step label) (StillOpen state label) := by
  -- A request that changes no row of the tables moves nothing.
  have same : Moves state state (StillOpen state label) := .refl state _
  have plain {after : TopupState} (moves : Moves state after True) :
      Moves state after (StillOpen state label) := moves.weaken fun _ => trivial
  cases label with
  | create intentId method amountCents reference expiresAt amount_pos =>
      simp only [step]
      split
      · rename_i absent
        exact plain (create_moves absent method amountCents reference expiresAt amount_pos)
      · exact same
  | readIntent session intentId transactionRef now =>
      simp only [step]
      split <;> exact ⟨same.pending, same.succeeded, same.ledger⟩
  | submit session proofId approved txId =>
      simp only [step]
      split
      · rename_i intentId found
        split
        · rename_i intent present
          cases ok : state.submitProof intentId intent proofId approved txId with
          | none => exact ⟨same.pending, same.succeeded, same.ledger⟩
          | some after =>
              have moves := submitProof_moves present ok
              refine ⟨fun stillOpen => moves.pending fun queued => ?_, moves.succeeded, moves.ledger⟩
              subst queued
              refine stillOpen intentId intent found present fun taken => ?_
              simp [submitProof, taken] at ok
        · exact same
      · exact same
  | readProof session proofId =>
      simp only [step]
      split <;> exact ⟨same.pending, same.succeeded, same.ledger⟩
  | approve session adminUserId txId now =>
      simp only [step]
      split
      · rename_i proofId proof found
        split
        · rename_i intent present
          cases ok : state.approveProof proofId proof.topupIntentId intent adminUserId txId now with
          | none => exact ⟨same.pending, same.succeeded, same.ledger⟩
          | some after =>
              have moves := plain (approveProof_moves present ok)
              exact ⟨moves.pending, moves.succeeded, moves.ledger⟩
        · exact same
      · exact same
  | reject session adminUserId reason now =>
      simp only [step]
      split
      · rename_i proofId proof found
        split
        · rename_i intent present
          have moves := plain (rejectProof_moves present proofId adminUserId reason now)
          exact ⟨moves.pending, moves.succeeded, moves.ledger⟩
        · exact same
      · exact same
  | gateway intentId call txId =>
      simp only [step]
      split
      · rename_i intent present
        cases ok : state.gatewayWebhook intentId intent call txId with
        | none => exact same
        | some after => exact plain (gatewayWebhook_moves present ok)
      · exact same
  | expire now => exact plain (expire_moves state now)
  | applyEntry entry => exact plain (applyOther_moves state entry)
  | setStatus status => exact ⟨same.pending, same.succeeded, same.ledger⟩

/-- A queued upload that reopens its intent without a hold leaves the amount uncovered. -/
theorem stillOpen_of_pending {state : TopupState} {label : TopupLabel} (before : Pending state)
    (after : Pending (state.step label)) : StillOpen state label := by
  unfold StillOpen
  split
  · rename_i session proofId txId
    intro intentId intent found present absent
    by_contra closed
    simp only [openStatuses, List.mem_cons, List.not_mem_nil, or_false, not_or] at closed
    obtain ⟨waiting, review, done⟩ := closed
    have change := state.intents.total_modify
      (fun stored => { stored with status := .underReview }) present held
    have unheld : held intent = 0 := by simp [held, review]
    have reopened : held { intent with status := .underReview } = intent.amountCents := by
      simp [held]
    have amount_pos := intent.amount_pos
    simp only [step, found, present, submitProof, absent, not_false_eq_true, dif_pos,
      Bool.false_eq_true, if_false, Option.getD_some, queueForReview, waiting, done, ne_eq,
      if_true] at after
    simp only [Pending, submitTo, setIntent, storeProof] at before after
    omega
  · trivial

end TopupState

/-- In every state a success is final. Over every interleaving the pending balance is what is
under review and no intent is credited twice, exactly when every queued upload finds its intent
still open. -/
theorem balanced_iff_stillOpen (labels : List TopupLabel) :
    (∀ (state : TopupState) label intentId, state.Succeeded intentId →
      (state.step label).Succeeded intentId) ∧
    (Run.Always TopupState.step TopupState.Balanced {} labels ↔
      Run.Guarded TopupState.step TopupState.StillOpen {} labels) := by
  constructor
  · exact fun state label => (state.step_moves label).succeeded
  · apply Run.always_iff_guarded (I := TopupState.Sound)
    · exact fun state label sound stillOpen => sound.of_moves (state.step_moves label) stillOpen
    · exact fun state sound => sound.toBalanced
    · exact fun state label sound next =>
        TopupState.stillOpen_of_pending sound.pending next.pending
    · exact ⟨⟨rfl, .nil⟩, fun _ member => by cases member⟩

/-- The sweep expires the intent while its receipt is being uploaded. -/
def expiredDuringUpload : List TopupLabel :=
  [.create 21 .instapay 5000 "WT-7K2M9Q" 100 (by decide),
    .readIntent 0 21 "TR-1" 50,
    .expire 101,
    .submit 0 61 false 71]

/-- The intent is back under review with nothing on hold. -/
theorem expired_intent_reviewed_without_hold :
    ¬ Run.Always TopupState.step TopupState.Balanced {} expiredDuringUpload := by
  intro always
  exact absurd always.last.pending (by decide)

end Numu.Wallet
