import Mathlib.Logic.Function.Basic
import Numu.Foundation.Calendar
import Numu.Foundation.Run
import Numu.Foundation.Table

/-!
# Staff seats

The members and invitations of one tenant whose plan limits its staff. A seat is a member who was not
removed, or an invitation that waits for an answer. An invitation that needs a seat is counted under
an advisory lock, which its transaction holds until it ends; accepting, removing and revoking take no
lock, and the steps of all requests fall in any order.
-/

namespace Numu.Entitlements

/-- `MAX_RESEND_COUNT`. -/
def maxResendCount : Nat := 5

/-- `INVITE_EXPIRY_DAYS`. -/
def inviteExpiry : Nat := 7 * 24 * 60 * 60 * Calendar.secondLength

structure StaffInvitation where
  expiresAt : Nat
  accepted : Bool := false
  revoked : Bool := false
  resentCount : Nat := 0

structure TenantMembership where
  isOwner : Bool := false
  revoked : Bool := false

def StaffInvitation.pending (invitation : StaffInvitation) : Bool :=
  !invitation.accepted && !invitation.revoked

def StaffInvitation.seat (now : Nat) (invitation : StaffInvitation) : Nat :=
  if invitation.pending && now < invitation.expiresAt then 1 else 0

def TenantMembership.seat (membership : TenantMembership) : Nat :=
  if membership.isOwner || membership.revoked then 0 else 1

/-- Where a request is; one that invites carries the resends of the pending row that it has found and
the limit that it has read. -/
inductive SeatPhase where
  | idle
  | asking (email : String) (resent : Option Nat) (limit : Nat)
  | holding (email : String) (resent : Option Nat) (limit : Nat)
  | seated (email : String) (resent : Option Nat) (limit : Nat)
  | accepting (email : String)
  | done

/-- Past the lock. -/
def SeatPhase.locking : SeatPhase → Bool
  | .holding .. => true
  | .seated .. => true
  | _ => false

/-- The rows, by the address of the invited in lower case. -/
structure Team where
  now : Nat
  limit : Nat
  members : Table String TenantMembership
  invitations : Table String StaffInvitation
  lock : Option Nat := none
  phase : Nat → SeatPhase := fun _ => .idle

inductive TeamStep where
  | wait (elapsed : Nat)
  | plan (limit : Nat)
  | invite (request : Nat) (email : String)
  | lock (request : Nat)
  | count (request : Nat)
  | send (request : Nat)
  | read (request : Nat) (email : String)
  | accept (request : Nat)
  | remove (email : String)
  | revoke (email : String)
  | die (request : Nat)

namespace Team

/-- `_count_staff`. -/
def seats (team : Team) : Nat :=
  team.members.sumOf TenantMembership.seat + team.invitations.sumOf (StaffInvitation.seat team.now)

def moveTo (team : Team) (request : Nat) (phase : SeatPhase) : Team :=
  { team with phase := Function.update team.phase request phase }

/-- The end of a transaction, which gives the lock back. -/
def finish (team : Team) (request : Nat) : Team :=
  { team.moveTo request .done with
    lock := if team.lock = some request then none else team.lock }

/-- `rotate_token`, which leaves the expiry as it is. -/
def rotateToken (team : Team) (email : String) (resent : Nat) : Team :=
  if maxResendCount ≤ resent then team
  else { team with
    invitations := team.invitations.modify email fun row =>
      { row with resentCount := row.resentCount + 1 } }

/-- `create_invitation` up to the seat. -/
def invite (team : Team) (request : Nat) (email : String) : Team :=
  match (team.invitations.get? email).filter StaffInvitation.pending with
  | none => team.moveTo request (.asking email none team.limit)
  | some existing =>
      if existing.expiresAt ≤ team.now then
        team.moveTo request (.asking email (some existing.resentCount) team.limit)
      else (team.rotateToken email existing.resentCount).moveTo request .done

/-- The rest of `create_invitation`; a second row for an address violates the unique index. -/
def send (team : Team) (email : String) : Option Nat → Team
  | some resent => team.rotateToken email resent
  | none =>
      if (team.invitations.get? email).isSome then team
      else { team with
        invitations := team.invitations.set email { expiresAt := team.now + inviteExpiry } }

/-- The member whom an accepted invitation makes. -/
def joined (team : Team) (email : String) : TenantMembership :=
  { isOwner := (team.members.get? email).any TenantMembership.isOwner }

def accept (team : Team) (email : String) : Team :=
  { team with
    members := team.members.set email (team.joined email)
    invitations := team.invitations.modify email fun row => { row with accepted := true } }

/-- A step that is not the next one of its request does nothing. -/
def step (team : Team) : TeamStep → Team
  | .wait elapsed => { team with now := team.now + elapsed }
  | .plan limit => { team with limit := limit }
  | .invite request email =>
      match team.phase request with
      | .idle => team.invite request email
      | _ => team
  | .lock request =>
      match team.phase request, team.lock with
      | .asking email resent limit, none =>
          { team.moveTo request (.holding email resent limit) with lock := some request }
      | _, _ => team
  | .count request =>
      match team.phase request with
      | .holding email resent limit =>
          if team.seats + 1 ≤ limit then team.moveTo request (.seated email resent limit)
          else team.finish request
      | _ => team
  | .send request =>
      match team.phase request with
      | .seated email resent _ => (team.send email resent).finish request
      | _ => team
  | .read request email =>
      match team.phase request, team.invitations.get? email with
      | .idle, some row =>
          if row.seat team.now = 1 then team.moveTo request (.accepting email) else team
      | _, _ => team
  | .accept request =>
      match team.phase request with
      | .accepting email => (team.accept email).moveTo request .done
      | _ => team
  | .remove email =>
      { team with
        members := team.members.modify email fun row =>
          if row.isOwner then row else { row with revoked := true } }
  | .revoke email =>
      { team with
        invitations := team.invitations.modify email fun row => { row with revoked := true } }
  | .die request => team.finish request

/-- The limit that the request of a step has read. -/
def limitRead (team : Team) : TeamStep → Option Nat
  | .send request =>
      match team.phase request with
      | .seated _ _ limit => some limit
      | _ => none
  | _ => none

/-- The team does not grow, or grows within the limit. -/
def Fits (team : Team) (a : TeamStep) : Prop :=
  (team.step a).seats ≤ team.seats ∨ ∃ limit ∈ team.limitRead a, (team.step a).seats ≤ limit

/-- An acceptance is written while its invitation still counts, or makes a member of who is one, or
of the owner. -/
def Timely (team : Team) : TeamStep → Prop
  | .accept request =>
      match team.phase request with
      | .accepting email =>
          (team.joined email).seat ≤ (team.members.get? email).elim 0 TenantMembership.seat +
            (team.invitations.get? email).elim 0 (StaffInvitation.seat team.now)
      | _ => True
  | _ => True

/-- Who is past the lock holds it, and who has counted has room. -/
structure Orderly (team : Team) : Prop where
  holding : ∀ request email resent limit, team.phase request = .holding email resent limit →
    team.lock = some request
  seated : ∀ request email resent limit, team.phase request = .seated email resent limit →
    team.lock = some request ∧ team.seats + 1 ≤ limit

/-! ## The seats that a step takes -/

section Proofs
variable {team : Team} {request : Nat} {email : String}

theorem sumOf_modify_le {ρ : Type*} (table : Table String ρ) (email : String) {f : ρ → ρ}
    {value : ρ → Nat} (below : ∀ row, value (f row) ≤ value row) :
    (table.modify email f).sumOf value ≤ table.sumOf value := by
  cases found : table.get? email with
  | some row =>
      have same := table.sumOf_modify found f value
      have less := below row
      omega
  | none =>
      have kept : table.modify email f = table := table.modify_eq_self email f fun row present => by
        cases found.symm.trans present
      exact le_of_eq (congrArg (Table.sumOf · value) kept)

/-- Overwriting a row, or adding one, changes the sum by as much as its value. -/
theorem sumOf_set_add {ρ : Type*} (table : Table String ρ) (email : String) (row : ρ)
    (value : ρ → Nat) : (table.set email row).sumOf value + (table.get? email).elim 0 value =
      table.sumOf value + value row := by
  cases found : table.get? email with
  | some old => exact table.sumOf_set_of_present found row value
  | none => exact table.sumOf_set_of_absent found row value

theorem seat_wait (now elapsed : Nat) (row : StaffInvitation) :
    row.seat (now + elapsed) ≤ row.seat now := by
  simp only [StaffInvitation.seat, Bool.and_eq_true, decide_eq_true_eq]
  split
  · rename_i later
    rw [if_pos ⟨later.1, by omega⟩]
  · exact Nat.zero_le _

theorem rotateToken_seats (team : Team) (email : String) (resent : Nat) :
    (team.rotateToken email resent).seats ≤ team.seats := by
  rw [rotateToken]
  split
  · exact le_refl _
  · exact Nat.add_le_add_left (sumOf_modify_le _ _ fun row => le_refl (row.seat team.now)) _

theorem send_seats (team : Team) (email : String) (resent : Option Nat) :
    (team.send email resent).seats ≤ team.seats + 1 := by
  cases resent with
  | some resent => exact (rotateToken_seats team email resent).trans (Nat.le_succ _)
  | none =>
      rw [send]
      split
      · exact Nat.le_succ _
      · rename_i absent
        rw [Bool.not_eq_true, Option.isSome_eq_false_iff, Option.isNone_iff_eq_none] at absent
        have added := team.invitations.sumOf_set_of_absent absent
          { expiresAt := team.now + inviteExpiry } (StaffInvitation.seat team.now)
        have one : StaffInvitation.seat team.now { expiresAt := team.now + inviteExpiry } ≤ 1 := by
          rw [StaffInvitation.seat]
          split <;> omega
        dsimp only [seats]
        omega

/-- An accepted invitation gives its seat to the member. -/
theorem accept_seats (team : Team) (email : String) :
    (team.accept email).seats + ((team.members.get? email).elim 0 TenantMembership.seat +
      (team.invitations.get? email).elim 0 (StaffInvitation.seat team.now)) =
        team.seats + (team.joined email).seat := by
  have members := sumOf_set_add team.members email (team.joined email) TenantMembership.seat
  dsimp only [seats, accept]
  cases found : team.invitations.get? email with
  | some row =>
      have modified := team.invitations.sumOf_modify found
        (fun row => { row with accepted := true }) (StaffInvitation.seat team.now)
      have gone : StaffInvitation.seat team.now { row with accepted := true } = 0 := rfl
      dsimp only [Option.elim_some]
      omega
  | none =>
      have kept := team.invitations.modify_eq_self email (fun row => { row with accepted := true })
        fun row present => by cases found.symm.trans present
      rw [kept]
      dsimp only [Option.elim_none]
      omega

/-! ## The lock -/

theorem Orderly.of_phase (orderly : team.Orderly) {after : Team} (lock : after.lock = team.lock)
    (seats : after.seats ≤ team.seats)
    (phase : ∀ i, after.phase i = team.phase i ∨ (after.phase i).locking = false) :
    after.Orderly := by
  refine ⟨fun i email resent limit held => ?_, fun i email resent limit held => ?_⟩
  · rcases phase i with same | other
    · rw [lock]
      exact orderly.holding i email resent limit (same ▸ held)
    · cases other.symm.trans (congrArg SeatPhase.locking held)
  · rcases phase i with same | other
    · obtain ⟨mine, room⟩ := orderly.seated i email resent limit (same ▸ held)
      exact ⟨lock.trans mine, le_trans (Nat.succ_le_succ seats) room⟩
    · cases other.symm.trans (congrArg SeatPhase.locking held)

theorem moveTo_phase (team : Team) (request : Nat) (phase : SeatPhase) (i : Nat) :
    (i = request ∧ (team.moveTo request phase).phase i = phase) ∨
      i ≠ request ∧ (team.moveTo request phase).phase i = team.phase i := by
  by_cases same : i = request
  · exact .inl ⟨same, same ▸ Function.update_self _ _ _⟩
  · exact .inr ⟨same, Function.update_of_ne same _ _⟩

/-- A request moves on without the lock. -/
theorem Orderly.move (orderly : team.Orderly) {after : Team} {phase : SeatPhase}
    (lock : after.lock = team.lock) (seats : after.seats ≤ team.seats)
    (phases : after.phase = Function.update team.phase request phase)
    (free : phase.locking = false) : after.Orderly := by
  refine orderly.of_phase lock seats fun i => ?_
  have here := congrFun phases i
  rcases team.moveTo_phase request phase i with ⟨-, moved⟩ | ⟨-, kept⟩
  · exact .inr ((congrArg SeatPhase.locking (here.trans moved)).trans free)
  · exact .inl (here.trans kept)

/-- The end of a transaction; what it has written takes a seat only if it holds the lock. -/
theorem Orderly.finish (orderly : team.Orderly) {after : Team} (lock : after.lock = team.lock)
    (phase : after.phase = team.phase)
    (seats : after.seats ≤ team.seats ∨ team.lock = some request) :
    (after.finish request).Orderly := by
  have others : ∀ i, (after.finish request).phase i = .done ∨
      i ≠ request ∧ (after.finish request).phase i = team.phase i := by
    intro i
    rcases after.moveTo_phase request .done i with ⟨-, done⟩ | ⟨other, kept⟩
    · exact .inl done
    · exact .inr ⟨other, kept.trans (congrFun phase i)⟩
  have still : ∀ i, i ≠ request → team.lock = some i → (after.finish request).lock = some i := by
    intro i other mine
    have apart : after.lock ≠ some request := by
      rw [lock, mine]
      exact fun same => other (Option.some.inj same)
    exact (if_neg apart).trans (lock.trans mine)
  refine ⟨fun i email resent limit held => ?_, fun i email resent limit held => ?_⟩
  · rcases others i with done | ⟨other, kept⟩
    · cases done.symm.trans held
    · exact still i other (orderly.holding i email resent limit (kept ▸ held))
  · rcases others i with done | ⟨other, kept⟩
    · cases done.symm.trans held
    · obtain ⟨mine, room⟩ := orderly.seated i email resent limit (kept ▸ held)
      refine ⟨still i other mine, ?_⟩
      rcases seats with less | held'
      · exact le_trans (Nat.succ_le_succ less) room
      · exact absurd (Option.some.inj (mine.symm.trans held')) other

theorem Orderly.invite (orderly : team.Orderly) (request : Nat) (email : String) :
    (team.invite request email).Orderly ∧ (team.invite request email).seats ≤ team.seats := by
  rw [Team.invite]
  split
  · exact ⟨orderly.move rfl (le_refl _) rfl rfl, le_refl _⟩
  · rename_i existing found
    have less := rotateToken_seats team email existing.resentCount
    split
    · exact ⟨orderly.move rfl (le_refl _) rfl rfl, le_refl _⟩
    · have lock : (team.rotateToken email existing.resentCount).lock = team.lock := by
        rw [rotateToken]
        split <;> rfl
      have phase : (team.rotateToken email existing.resentCount).phase = team.phase := by
        rw [rotateToken]
        split <;> rfl
      have done : ((team.rotateToken email existing.resentCount).moveTo request .done).phase =
          Function.update team.phase request .done :=
        congrArg (Function.update · request _) phase
      exact ⟨orderly.move lock less done rfl, less⟩

theorem Orderly.lock (orderly : team.Orderly) (free : team.lock = none) (email : String)
    (resent : Option Nat) (limit : Nat) :
    { team.moveTo request (.holding email resent limit) with lock := some request }.Orderly := by
  have moves := team.moveTo_phase request (.holding email resent limit)
  refine ⟨fun i email' resent' limit' held => ?_, fun i email' resent' limit' held => ?_⟩
  · rcases moves i with ⟨rfl, -⟩ | ⟨other, kept⟩
    · rfl
    · cases free.symm.trans (orderly.holding i email' resent' limit' (kept.symm.trans held))
  · rcases moves i with ⟨rfl, moved⟩ | ⟨other, kept⟩
    · cases moved.symm.trans held
    · cases free.symm.trans (orderly.seated i email' resent' limit' (kept.symm.trans held)).1

theorem Orderly.count (orderly : team.Orderly) {resent : Option Nat} {limit : Nat}
    (mine : team.lock = some request) (room : team.seats + 1 ≤ limit) :
    (team.moveTo request (.seated email resent limit)).Orderly := by
  have moves := team.moveTo_phase request (.seated email resent limit)
  refine ⟨fun i email' resent' limit' held => ?_, fun i email' resent' limit' held => ?_⟩
  · rcases moves i with ⟨rfl, -⟩ | ⟨other, kept⟩
    · exact mine
    · exact orderly.holding i email' resent' limit' (kept.symm.trans held)
  · rcases moves i with ⟨rfl, moved⟩ | ⟨other, kept⟩
    · cases moved.symm.trans held
      exact ⟨mine, room⟩
    · exact orderly.seated i email' resent' limit' (kept.symm.trans held)

/-- A step that is in time keeps the order, and fits. -/
theorem Orderly.step (orderly : team.Orderly) {a : TeamStep} (timely : team.Timely a) :
    (team.step a).Orderly ∧ team.Fits a := by
  rw [Fits]
  cases a with
  | wait elapsed =>
      have less : (team.step (.wait elapsed)).seats ≤ team.seats :=
        Nat.add_le_add_left (team.invitations.total_mono (seat_wait team.now elapsed)) _
      exact ⟨orderly.of_phase rfl less fun i => .inl rfl, .inl less⟩
  | plan limit => exact ⟨orderly.of_phase rfl (le_refl _) fun i => .inl rfl, .inl (le_refl _)⟩
  | invite request email =>
      simp only [Team.step]
      split
      · exact (orderly.invite request email).imp_right .inl
      · exact ⟨orderly, .inl (le_refl _)⟩
  | lock request =>
      simp only [Team.step]
      split
      · rename_i email resent limit asking free
        exact ⟨orderly.lock free email resent limit, .inl (le_refl _)⟩
      · exact ⟨orderly, .inl (le_refl _)⟩
  | count request =>
      simp only [Team.step]
      split
      · rename_i email resent limit holding
        split
        · rename_i room
          have mine := orderly.holding request email resent limit holding
          exact ⟨orderly.count mine room, .inl (le_refl _)⟩
        · exact ⟨orderly.finish rfl rfl (.inl (le_refl _)), .inl (le_refl _)⟩
      · exact ⟨orderly, .inl (le_refl _)⟩
  | send request =>
      simp only [Team.step, limitRead]
      split
      · rename_i email resent limit seated
        obtain ⟨mine, room⟩ := orderly.seated request email resent limit seated
        have more := send_seats team email resent
        have frame : (team.send email resent).lock = team.lock ∧
            (team.send email resent).phase = team.phase := by
          unfold send rotateToken
          split <;> split <;> exact ⟨rfl, rfl⟩
        exact ⟨orderly.finish frame.1 frame.2 (.inr mine), .inr ⟨limit, rfl, more.trans room⟩⟩
      · exact ⟨orderly, .inl (le_refl _)⟩
  | read request email =>
      simp only [Team.step]
      split
      · split
        · exact ⟨orderly.move rfl (le_refl _) rfl rfl, .inl (le_refl _)⟩
        · exact ⟨orderly, .inl (le_refl _)⟩
      · exact ⟨orderly, .inl (le_refl _)⟩
  | accept request =>
      simp only [Team.step, Timely] at timely ⊢
      split
      · rename_i email accepting
        simp only [accepting] at timely
        have exchange := accept_seats team email
        have less : (team.accept email).seats ≤ team.seats := by omega
        exact ⟨orderly.move rfl less rfl rfl, .inl less⟩
      · exact ⟨orderly, .inl (le_refl _)⟩
  | remove email =>
      have less : (team.step (.remove email)).seats ≤ team.seats := by
        refine Nat.add_le_add_right (sumOf_modify_le _ _ fun row => ?_) _
        split
        · exact le_refl _
        · simp [TenantMembership.seat]
      exact ⟨orderly.of_phase rfl less fun i => .inl rfl, .inl less⟩
  | revoke email =>
      have less : (team.step (.revoke email)).seats ≤ team.seats := by
        refine Nat.add_le_add_left (sumOf_modify_le _ _ fun row => ?_) _
        simp [StaffInvitation.seat, StaffInvitation.pending]
      exact ⟨orderly.of_phase rfl less fun i => .inl rfl, .inl less⟩
  | die request => exact ⟨orderly.finish rfl rfl (.inl (le_refl _)), .inl (le_refl _)⟩

/-- A late acceptance makes the team grow past any limit. -/
theorem timely_of_fits {a : TeamStep} (fits : team.Fits a) : team.Timely a := by
  cases a with
  | accept request =>
      simp only [Fits, Team.step, limitRead, Timely] at fits ⊢
      split
      · rename_i email accepting
        simp only [accepting] at fits
        have exchange := accept_seats team email
        rcases fits with less | ⟨limit, unread, -⟩
        · have less : (team.accept email).seats ≤ team.seats := less
          omega
        · cases unread
      · trivial
  | _ => trivial

end Proofs

end Team

/-- In every run of a team that starts without open transactions, each step that takes a seat fits
the limit that its request has read, exactly if every acceptance is written in time. -/
theorem seats_fit_iff {team : Team} (idle : ∀ request, team.phase request = .idle)
    (steps : List TeamStep) :
    Run.Guarded Team.step Team.Fits team steps ↔ Run.Guarded Team.step Team.Timely team steps := by
  have orderly : team.Orderly := by
    constructor
    · intro request email resent limit held
      cases (idle request).symm.trans held
    · intro request email resent limit held
      cases (idle request).symm.trans held
  exact Run.guarded_iff_guarded (fun _ _ orderly timely => (orderly.step timely).1)
    (fun _ _ orderly => ⟨Team.timely_of_fits, fun timely => (orderly.step timely).2⟩) orderly steps

/-- A shop whose plan has one seat beside its owner's. -/
def smallTeam : Team :=
  { now := 0, limit := 1, members := .ofList [("owner@shop.eg", { isOwner := true })],
    invitations := .empty }

/-- Two invitations race for the seat, and the first is accepted. -/
theorem seats_fit_iff_smallTeam : Run.Guarded Team.step Team.Fits smallTeam
    [.invite 0 "a@shop.eg", .invite 1 "b@shop.eg", .lock 0, .count 0, .send 0, .lock 1, .count 1,
      .read 2 "a@shop.eg", .accept 2] := by
  apply (seats_fit_iff (fun _ => rfl) _).mpr
  have full : (1 : Nat) ≤ 1 := le_refl 1
  exact ⟨trivial, trivial, trivial, trivial, trivial, trivial, trivial, trivial, full, trivial⟩

end Numu.Entitlements
