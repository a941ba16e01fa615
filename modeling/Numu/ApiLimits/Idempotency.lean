import Mathlib.Logic.Function.Basic
import Numu.Foundation.Calendar
import Numu.Foundation.Run
import Numu.Orders.Order

/-!
# Writes that carry an idempotency key

The middleware in front of the API's writes, seen from one slot of its cache. A request goes through
it in three steps, the claim of its slot, the look at the slot if it did not get it, and the end of
the write; the steps of different requests fall in any order, and any call to Redis may be lost.
-/

namespace Numu.Idempotency
open Numu.Orders (Time)

/-- What the middleware reads of a request. -/
structure Request where
  idempotencyKey : Option String
  method : String
  path : String
  authorization : String := ""

/-- `_METHODS`. -/
def methods : List String := ["POST", "PUT", "PATCH"]

/-- `_TTL_SECONDS`. -/
def ttl : Time := 24 * 60 * 60 * Calendar.secondLength

/-- `_INFLIGHT_TTL_SECONDS`. -/
def inflightTtl : Time := 90 * Calendar.secondLength

/-- `_MAX_REPLAY_BYTES`. -/
def maxReplayBytes : Nat := 256 * 1024

/-- The slot of a request that the middleware does not pass on untouched. -/
def Request.slot? (digest : String → String) (request : Request) : Option String :=
  match request.idempotencyKey with
  | none => none
  | some key =>
      if key ≠ "" ∧ request.method ∈ methods ∧
          "/api/v1/stores/".toList.isPrefixOf request.path.toList then
        some ("idem:" ++ digest (request.authorization ++ "|" ++ request.method ++ "|" ++
          request.path ++ "|" ++ key))
      else none

/-- The value of the slot. -/
inductive Stored (β : Type*) where
  | inFlight
  | answered (code : Nat) (body : β)

structure Entry (β : Type*) where
  stored : Stored β
  expiresAt : Time

/-- The bytes of a response: none, those of a JSON document, or others. -/
inductive Body (β : Type*) where
  | empty
  | document (document : β)
  | other

/-- What the route behind the middleware answers. -/
structure Response (β : Type*) where
  code : Nat
  json : Bool
  size : Nat
  body : Body β

/-- How a call to Redis ends: done, lost with a `RedisError` after Redis has done it or without, or
in another exception. -/
inductive Reach where
  | done
  | lost (applied : Bool)
  | raised

/-- Redis has done what it was asked. -/
def Reach.applied : Reach → Bool
  | .done => true
  | .lost applied => applied
  | .raised => false

/-- What the client is told. -/
inductive Reply (β : Type*) where
  | untouched (response : Response β)
  | conflict
  | replay (code : Nat) (body : β)
  | answer (code : Nat) (body : Option β)
  | failed

inductive Phase (β : Type*) where
  | waiting
  | passing
  | refused
  | running (since : Time)
  | replied (reply : Reply β)

def Phase.isRunning {β : Type*} : Phase β → Bool
  | .running _ => true
  | _ => false

def Phase.isReplied {β : Type*} : Phase β → Bool
  | .replied _ => true
  | _ => false

/-- What has come of the slot. -/
inductive Fact (β : Type*) where
  | executed (call : Nat) (since until_ : Time) (kept : Option (Nat × β))
  | replayed (at_ : Time) (code : Nat) (body : β)

structure Writes (β : Type*) where
  slot : String
  request : Nat → Request
  now : Time
  cache : Option (Entry β) := none
  phase : Nat → Phase β := fun _ => .waiting
  /-- What has come of the slot, the latest first; no step reads it. -/
  facts : List (Fact β) := []

inductive Step (β : Type*) where
  | wait (elapsed : Nat)
  | claim (call : Nat) (reach : Reach)
  | look (call : Nat) (reach : Reach)
  | finish (call : Nat) (response : Response β) (reach : Reach)
  | fail (call : Nat)

section Steps
variable {β : Type*}

/-- The answer that a response is kept as; `json.loads` raises for a body that is no document, and
then the slot stays as it is. -/
def Response.kept? (response : Response β) : Option (Nat × β) :=
  match response.body with
  | .document document => some (response.code, document)
  | _ => none

def Response.replayable (response : Response β) : Bool :=
  response.code < 500 && response.size ≤ maxReplayBytes && response.json

/-- The response that is sent on; it is parsed once more for it. -/
def Response.reply (response : Response β) : Reply β :=
  match response.body with
  | .empty => .answer response.code none
  | .document document => .answer response.code (some document)
  | .other => .failed

namespace Writes

/-- What Redis holds in the slot at the moment. -/
def live (writes : Writes β) : Option (Entry β) :=
  writes.cache.filter fun entry => writes.now < entry.expiresAt

def moveTo (writes : Writes β) (call : Nat) (phase : Phase β) : Writes β :=
  { writes with phase := Function.update writes.phase call phase }

/-- The entry of a write in progress. -/
def claimed (writes : Writes β) : Writes β :=
  { writes with cache := some ⟨.inFlight, writes.now + inflightTtl⟩ }

/-- `dispatch` up to the answer to `set_if_absent`. -/
def claim (digest : String → String) (writes : Writes β) (call : Nat) (reach : Reach) : Writes β :=
  if (writes.request call).slot? digest = some writes.slot then
    match reach, writes.live with
    | .raised, _ => writes.moveTo call .passing
    | .done, none => writes.claimed.moveTo call (.running writes.now)
    | .lost true, none => writes.claimed.moveTo call .refused
    | _, _ => writes.moveTo call .refused
  -- No key, or the key of another slot.
  else writes.moveTo call .passing

/-- The end of a request that did not get the slot. -/
def look (writes : Writes β) (call : Nat) (reach : Reach) : Writes β :=
  match reach, writes.live with
  | .raised, _ => writes.moveTo call (.replied .failed)
  | .done, some ⟨.answered code body, _⟩ =>
      { writes.moveTo call (.replied (.replay code body)) with
        facts := .replayed writes.now code body :: writes.facts }
  | _, _ => writes.moveTo call (.replied .conflict)

/-- The end of a write: what the slot holds after it, what is kept there and what the client is
told. -/
def finish (writes : Writes β) (call : Nat) (since : Time) (cache : Option (Entry β))
    (kept : Option (Nat × β)) (reply : Reply β) : Writes β :=
  { writes.moveTo call (.replied reply) with
    cache := cache
    facts := .executed call since writes.now kept :: writes.facts }

/-- `dispatch` after `call_next`. -/
def answer (writes : Writes β) (call : Nat) (since : Time) (response : Response β) (reach : Reach) :
    Writes β :=
  match reach.applied, response.replayable, response.kept? with
  | false, _, _ | true, true, none => writes.finish call since writes.cache none response.reply
  | true, false, _ => writes.finish call since none none response.reply
  | true, true, some (code, body) =>
      writes.finish call since (some ⟨.answered code body, writes.now + ttl⟩) (some (code, body))
        response.reply

/-- A step that is not the next one of its request does nothing. -/
def step (digest : String → String) (writes : Writes β) : Step β → Writes β
  | .wait elapsed => { writes with now := writes.now + elapsed }
  | .claim call reach =>
      match writes.phase call with
      | .waiting => writes.claim digest call reach
      | _ => writes
  | .look call reach =>
      match writes.phase call with
      | .refused => writes.look call reach
      | _ => writes
  | .finish call response reach =>
      match writes.phase call with
      | .passing => writes.moveTo call (.replied (.untouched response))
      | .running since => writes.answer call since response reach
      | _ => writes
  | .fail call =>
      match writes.phase call with
      | .passing => writes.moveTo call (.replied .failed)
      | .running since => writes.finish call since writes.cache none .failed
      | _ => writes

end Writes

end Steps

/-! ## What is promised -/

section Promise
variable {β : Type*}

def executions (facts : List (Fact β)) : List (Nat × Time × Time × Option (Nat × β)) :=
  facts.filterMap fun
    | .executed call since until_ kept => some (call, since, until_, kept)
    | .replayed _ _ _ => none

/-- The instant comes after an execution, and a day after one whose answer is kept. -/
def Fact.Before (instant : Time) : Fact β → Prop
  | .executed _ _ until_ kept => until_ ≤ instant ∧ (kept ≠ none → until_ + ttl ≤ instant)
  | .replayed _ _ _ => True

/-- A fact and those before it: an execution begins after the earlier ones, and a replay repeats the
latest execution, less than a day after it. -/
def Fact.Follows (earlier : List (Fact β)) : Fact β → Prop
  | .executed _ since _ _ => ∀ fact ∈ earlier, fact.Before since
  | .replayed at_ code body => ∃ call since until_,
      (executions earlier).head? = some (call, since, until_, some (code, body)) ∧
        at_ < until_ + ttl

namespace Writes

/-- No two requests are executed at once or, while an answer is kept, one after the other, and a
replay is what the latest execution has told its own client. -/
structure Safe (writes : Writes β) : Prop where
  alone : ∀ i j since since', writes.phase i = .running since → writes.phase j = .running since' →
    i = j
  follows : ∀ fact earlier, fact :: earlier <:+ writes.facts → fact.Follows earlier
  told : ∀ call since until_ code body,
    .executed call since until_ (some (code, body)) ∈ writes.facts →
      writes.phase call = .replied (.answer code (some body))

/-- No request is executed for longer than its claim lasts. -/
def Prompt (writes : Writes β) : Step β → Prop
  | .wait elapsed => ∀ call since, writes.phase call = .running since →
      writes.now + elapsed < since + inflightTtl
  | _ => True

/-- No request has come yet. -/
structure Opened (writes : Writes β) : Prop where
  phase : writes.phase = fun _ => .waiting
  cache : writes.cache = none
  facts : writes.facts = []

/-- A claim that is held is in Redis, and so is an answer until a day has passed. -/
structure Consistent (writes : Writes β) : Prop extends writes.Safe where
  held : ∀ call since, writes.phase call = .running since →
    writes.cache = some ⟨.inFlight, since + inflightTtl⟩ ∧ writes.now < since + inflightTtl ∧
      ∀ fact ∈ writes.facts, fact.Before since
  past : ∀ call since until_ kept, .executed call since until_ kept ∈ writes.facts →
    until_ ≤ writes.now
  kept : ∀ call since until_ code body,
    .executed call since until_ (some (code, body)) ∈ writes.facts → writes.now < until_ + ttl →
      writes.cache = some ⟨.answered code body, until_ + ttl⟩
  latest : ∀ code body expiresAt, writes.cache = some ⟨.answered code body, expiresAt⟩ →
    ∃ call since until_,
      (executions writes.facts).head? = some (call, since, until_, some (code, body)) ∧
        expiresAt = until_ + ttl

end Writes

end Promise

section Proofs
variable {β : Type*} {digest : String → String} {writes : Writes β}

namespace Writes

/-- What one step can do. -/
inductive Next (writes : Writes β) : Writes β → Prop where
  | same : Next writes writes
  | wait (elapsed : Nat) (prompt : writes.Prompt (.wait elapsed)) :
      Next writes { writes with now := writes.now + elapsed }
  | move (call : Nat) (phase : Phase β) (unheld : phase.isRunning = false)
      (unsaid : (writes.phase call).isReplied = false) : Next writes (writes.moveTo call phase)
  | mark (free : writes.live = none) : Next writes writes.claimed
  | claim (call : Nat) (free : writes.live = none) (waiting : writes.phase call = .waiting) :
      Next writes (writes.claimed.moveTo call (.running writes.now))
  | replay (code : Nat) (body : β) (expiresAt : Time)
      (live : writes.live = some ⟨.answered code body, expiresAt⟩) :
      Next writes { writes with facts := .replayed writes.now code body :: writes.facts }
  | release (call : Nat) (since : Time) (cache : Option (Entry β)) (reply : Reply β)
      (running : writes.phase call = .running since) (left_ : cache = writes.cache ∨ cache = none) :
      Next writes (writes.finish call since cache none reply)
  | keep (call : Nat) (since : Time) (code : Nat) (body : β)
      (running : writes.phase call = .running since) :
      Next writes (writes.finish call since (some ⟨.answered code body, writes.now + ttl⟩)
        (some (code, body)) (.answer code (some body)))

theorem moveTo_phase_self (call : Nat) (phase : Phase β) :
    (writes.moveTo call phase).phase call = phase :=
  Function.update_self _ _ _

theorem moveTo_phase_of_ne {i call : Nat} (apart : i ≠ call) (phase : Phase β) :
    (writes.moveTo call phase).phase i = writes.phase i :=
  Function.update_of_ne apart _ _

/-- Who is running after a request has moved to another phase was running before. -/
theorem running_of_moveTo {i call : Nat} {phase : Phase β} {since : Time}
    (unheld : phase.isRunning = false)
    (running : (writes.moveTo call phase).phase i = .running since) :
    i ≠ call ∧ writes.phase i = .running since := by
  by_cases same : i = call
  · rw [same, moveTo_phase_self] at running
    rw [running] at unheld
    cases unheld
  · rw [moveTo_phase_of_ne same] at running
    exact ⟨same, running⟩

theorem Safe.told_moveTo (safe : writes.Safe) {call : Nat} {phase : Phase β}
    (unsaid : (writes.phase call).isReplied = false) {i : Nat} {since until_ : Time}
    {code : Nat} {body : β} (member : .executed i since until_ (some (code, body)) ∈ writes.facts) :
    (writes.moveTo call phase).phase i = .replied (.answer code (some body)) := by
  have said := safe.told i since until_ code body member
  have apart : i ≠ call := by
    rintro rfl
    rw [said] at unsaid
    cases unsaid
  exact (moveTo_phase_of_ne apart _).trans said

theorem follows_cons {fact : Fact β} {facts : List (Fact β)} (new : fact.Follows facts)
    (old : ∀ known earlier, known :: earlier <:+ facts → known.Follows earlier)
    (known : Fact β) (earlier : List (Fact β)) (suffix : known :: earlier <:+ fact :: facts) :
    known.Follows earlier := by
  rcases List.suffix_cons_iff.mp suffix with whole | shorter
  · obtain ⟨rfl, rfl⟩ := List.cons.inj whole
    exact new
  · exact old known earlier shorter

theorem expired (free : writes.live = none) {entry : Entry β} (there : writes.cache = some entry) :
    ¬writes.now < entry.expiresAt := by
  rw [live, there, Option.filter_eq_none_iff] at free
  exact fun fresh => free entry rfl (decide_eq_true fresh)

/-- Nobody holds a slot that is free, and every answer that was kept in it has expired. -/
theorem Consistent.free (consistent : writes.Consistent) (free : writes.live = none) :
    (∀ call since, writes.phase call ≠ .running since) ∧
      ∀ fact ∈ writes.facts, fact.Before writes.now := by
  refine ⟨fun call since running => ?_, fun fact member => ?_⟩
  · obtain ⟨there, fresh, -⟩ := consistent.held call since running
    exact expired free there fresh
  · cases fact with
    | replayed at_ code body => trivial
    | executed call since until_ kept =>
        refine ⟨consistent.past call since until_ kept member, fun some_ => ?_⟩
        obtain ⟨answer, rfl⟩ := Option.ne_none_iff_exists'.mp some_
        by_contra early
        have fresh := not_le.mp early
        exact expired free (consistent.kept call since until_ _ _ member fresh) fresh

theorem Consistent.mark (consistent : writes.Consistent) (free : writes.live = none) :
    writes.claimed.Consistent := by
  obtain ⟨unheld, -⟩ := consistent.free free
  refine ⟨⟨consistent.alone, consistent.follows, consistent.told⟩, ?_, consistent.past, ?_, nofun⟩
  · exact fun call since running => absurd running (unheld call since)
  · intro call since until_ code body member fresh
    exact absurd fresh (expired free (consistent.kept call since until_ code body member fresh))

theorem Consistent.move (consistent : writes.Consistent) {call : Nat} {phase : Phase β}
    (unheld : phase.isRunning = false) (unsaid : (writes.phase call).isReplied = false) :
    (writes.moveTo call phase).Consistent := by
  refine ⟨⟨?_, consistent.follows, ?_⟩, ?_, consistent.past, consistent.kept, consistent.latest⟩
  · intro i j since since' running running'
    exact consistent.alone i j since since' (running_of_moveTo unheld running).2
      (running_of_moveTo unheld running').2
  · exact fun i since until_ code body member => consistent.told_moveTo unsaid member
  · exact fun i since running => consistent.held i since (running_of_moveTo unheld running).2

theorem Consistent.claim (consistent : writes.Consistent) {call : Nat} (free : writes.live = none)
    (waiting : writes.phase call = .waiting) :
    (writes.claimed.moveTo call (.running writes.now)).Consistent := by
  obtain ⟨unheld, before⟩ := consistent.free free
  have marked := consistent.mark free
  have only : ∀ i since,
      (writes.claimed.moveTo call (.running writes.now)).phase i = .running since →
        i = call ∧ since = writes.now := by
    intro i since running
    by_cases same : i = call
    · rw [same, moveTo_phase_self] at running
      exact ⟨same, (Phase.running.inj running).symm⟩
    · rw [moveTo_phase_of_ne same] at running
      exact absurd running (unheld i since)
  refine ⟨⟨?_, consistent.follows, ?_⟩, ?_, marked.past, marked.kept, marked.latest⟩
  · intro i j since since' running running'
    exact (only i since running).1.trans (only j since' running').1.symm
  · intro i since until_ code body member
    refine marked.told_moveTo ?_ member
    exact congrArg Phase.isReplied waiting
  · intro i since running
    obtain ⟨-, rfl⟩ := only i since running
    exact ⟨rfl, Nat.lt_add_of_pos_right (by decide), before⟩

theorem Consistent.replay (consistent : writes.Consistent) {code : Nat} {body : β} {expiresAt : Time}
    (live : writes.live = some ⟨.answered code body, expiresAt⟩) :
    Consistent { writes with facts := .replayed writes.now code body :: writes.facts } := by
  obtain ⟨there, fresh⟩ := Option.filter_eq_some_iff.mp live
  obtain ⟨call, since, until_, latest, rfl⟩ := consistent.latest code body expiresAt there
  have earlier : ∀ {i since until_ kept},
      .executed i since until_ kept ∈ .replayed writes.now code body :: writes.facts →
        .executed i since until_ kept ∈ writes.facts :=
    fun member => (List.mem_cons.mp member).resolve_left nofun
  refine ⟨⟨consistent.alone, ?_, ?_⟩, ?_, ?_, ?_, consistent.latest⟩
  · exact follows_cons ⟨call, since, until_, latest, of_decide_eq_true fresh⟩ consistent.follows
  · exact fun i since until_ code body member => consistent.told i since until_ code body
      (earlier member)
  · intro i since running
    obtain ⟨there, fresh, before⟩ := consistent.held i since running
    exact ⟨there, fresh, List.forall_mem_cons.mpr ⟨trivial, before⟩⟩
  · exact fun i since until_ kept member => consistent.past i since until_ kept (earlier member)
  · exact fun i since until_ code body member => consistent.kept i since until_ code body
      (earlier member)

/-- The end of an execution, if what it keeps is what the slot holds and its client is told. -/
theorem Consistent.finish (consistent : writes.Consistent) {call : Nat} {since : Time}
    {cache : Option (Entry β)} {kept : Option (Nat × β)} {reply : Reply β}
    (running : writes.phase call = .running since)
    (told : ∀ code body, kept = some (code, body) → reply = .answer code (some body) ∧
      cache = some ⟨.answered code body, writes.now + ttl⟩)
    (latest : ∀ code body expiresAt, cache = some ⟨.answered code body, expiresAt⟩ →
      kept = some (code, body) ∧ expiresAt = writes.now + ttl) :
    (writes.finish call since cache kept reply).Consistent := by
  obtain ⟨there, -, before⟩ := consistent.held call since running
  have over_ : ∀ i since', (writes.finish call since cache kept reply).phase i ≠ .running since' := by
    intro i since' running'
    obtain ⟨apart, running'⟩ := running_of_moveTo rfl running'
    exact apart (consistent.alone i call since' since running' running)
  refine ⟨⟨fun i j since' _ running' => absurd running' (over_ i since'),
    follows_cons before consistent.follows, ?_⟩,
    fun i since' running' => absurd running' (over_ i since'), ?_, ?_, ?_⟩
  · intro i since' until_ code body member
    rcases List.mem_cons.mp member with same | member
    · obtain ⟨rfl, -, -, rfl⟩ := Fact.executed.inj same
      exact (moveTo_phase_self _ _).trans (congrArg _ (told code body rfl).1)
    · exact consistent.told_moveTo (congrArg Phase.isReplied running) member
  · intro i since' until_ kept' member
    rcases List.mem_cons.mp member with same | member
    · cases same
      exact le_refl _
    · exact consistent.past i since' until_ kept' member
  · intro i since' until_ code body member fresh
    rcases List.mem_cons.mp member with same | member
    · obtain ⟨-, -, rfl, rfl⟩ := Fact.executed.inj same
      exact (told code body rfl).2
    · cases there.symm.trans (consistent.kept i since' until_ code body member fresh)
  · intro code body expiresAt held
    obtain ⟨rfl, rfl⟩ := latest code body expiresAt held
    exact ⟨call, since, writes.now, rfl, rfl⟩

theorem Consistent.next (consistent : writes.Consistent) {after : Writes β}
    (next : writes.Next after) : after.Consistent := by
  cases next with
  | same => exact consistent
  | wait elapsed prompt =>
      refine ⟨⟨consistent.alone, consistent.follows, consistent.told⟩, ?_, ?_, ?_,
        consistent.latest⟩
      · intro call since running
        obtain ⟨there, -, before⟩ := consistent.held call since running
        exact ⟨there, prompt call since running, before⟩
      · intro call since until_ kept member
        exact Nat.le_add_right_of_le (consistent.past call since until_ kept member)
      · intro call since until_ code body member fresh
        exact consistent.kept call since until_ code body member
          (lt_of_le_of_lt (Nat.le_add_right _ _) fresh)
  | move call phase unheld unsaid => exact consistent.move unheld unsaid
  | mark free => exact consistent.mark free
  | claim call free waiting => exact consistent.claim free waiting
  | replay code body expiresAt live => exact consistent.replay live
  | release call since cache reply running left_ =>
      obtain ⟨there, -, -⟩ := consistent.held call since running
      refine consistent.finish running (fun code body kept => ?_) fun code body expiresAt held => ?_
      · cases kept
      · rcases left_ with rfl | rfl
        · cases there.symm.trans held
        · cases held
  | keep call since code body running =>
      refine consistent.finish running (fun code' body' same => ?_) fun code' body' expiresAt held => ?_
      · cases same
        exact ⟨rfl, rfl⟩
      · cases held
        exact ⟨rfl, rfl⟩

theorem reply_of_kept {response : Response β} {code : Nat} {body : β}
    (kept : response.kept? = some (code, body)) : response.reply = .answer code (some body) := by
  unfold Response.kept? at kept
  split at kept
  · rename_i document known
    cases kept
    rw [Response.reply, known]
  · cases kept

/-- A step is at most two of these changes. -/
theorem step_next {a : Step β} (prompt : writes.Prompt a) :
    ∃ between, writes.Next between ∧ between.Next (writes.step digest a) := by
  have unsaid : ∀ {call phase}, writes.phase call = phase → phase.isReplied = false →
      (writes.phase call).isReplied = false := fun here other => here ▸ other
  cases a with
  | wait elapsed => exact ⟨writes, .same, .wait elapsed prompt⟩
  | claim call reach =>
      simp only [step, claim]
      split
      · rename_i waiting
        split
        · split
          · exact ⟨writes, .same, .move call _ rfl (unsaid waiting rfl)⟩
          · rename_i free
            exact ⟨writes, .same, .claim call free waiting⟩
          · rename_i free
            exact ⟨_, .mark free, .move call _ rfl (unsaid waiting rfl)⟩
          · exact ⟨writes, .same, .move call _ rfl (unsaid waiting rfl)⟩
        · exact ⟨writes, .same, .move call _ rfl (unsaid waiting rfl)⟩
      · exact ⟨writes, .same, .same⟩
  | look call reach =>
      simp only [step, look]
      split
      · rename_i refused
        split
        · exact ⟨writes, .same, .move call _ rfl (unsaid refused rfl)⟩
        · rename_i live
          exact ⟨_, .replay _ _ _ live, .move call _ rfl (unsaid refused rfl)⟩
        · exact ⟨writes, .same, .move call _ rfl (unsaid refused rfl)⟩
      · exact ⟨writes, .same, .same⟩
  | finish call response reach =>
      simp only [step, answer]
      split
      · rename_i passing
        exact ⟨writes, .same, .move call _ rfl (unsaid passing rfl)⟩
      · rename_i since running
        split
        · exact ⟨writes, .same, .release call since _ _ running (.inl rfl)⟩
        · exact ⟨writes, .same, .release call since _ _ running (.inl rfl)⟩
        · exact ⟨writes, .same, .release call since _ _ running (.inr rfl)⟩
        · rename_i kept
          rw [reply_of_kept kept]
          exact ⟨writes, .same, .keep call since _ _ running⟩
      · exact ⟨writes, .same, .same⟩
  | fail call =>
      simp only [step]
      split
      · rename_i passing
        exact ⟨writes, .same, .move call _ rfl (unsaid passing rfl)⟩
      · rename_i since running
        exact ⟨writes, .same, .release call since _ _ running (.inl rfl)⟩
      · exact ⟨writes, .same, .same⟩

theorem Opened.consistent (opened : writes.Opened) : writes.Consistent := by
  obtain ⟨slot, request, now, cache, phase, facts⟩ := writes
  obtain ⟨rfl, rfl, rfl⟩ := opened
  refine ⟨⟨nofun, fun fact earlier suffix => ?_, nofun⟩, nofun, nofun, nofun, nofun⟩
  cases List.suffix_nil.mp suffix

end Writes

/-- Where no request is executed for longer than its claim lasts, the requests of a slot are executed
one at a time, none of them within a day of an answer that was kept, and every replay repeats what
the latest execution has told its client. -/
theorem replay_safe {steps : List (Step β)} (opened : writes.Opened)
    (prompt : Run.Guarded (Writes.step digest) Writes.Prompt writes steps) :
    Run.Always (Writes.step digest) Writes.Safe writes steps := by
  have kept : ∀ (writes : Writes β) (a : Step β), writes.Consistent → writes.Prompt a →
      (writes.step digest a).Consistent := by
    intro writes a consistent prompt
    obtain ⟨between, first, second⟩ := Writes.step_next prompt
    exact (consistent.next first).next second
  exact (Run.always_of_guarded kept opened.consistent prompt).mono fun _ consistent =>
    consistent.toSafe

end Proofs

/-- An order that is sent twice under one key. -/
def orderTwice : Writes String where
  slot := "idem:Bearer t|POST|/api/v1/stores/1/orders|k"
  request _ :=
    { idempotencyKey := some "k", method := "POST", path := "/api/v1/stores/1/orders"
      authorization := "Bearer t" }
  now := 0

theorem orderTwice_claim : orderTwice.step id (.claim 0 .done) =
    orderTwice.claimed.moveTo 0 (.running 0) := by
  have mine : (orderTwice.request 0).slot? id = some orderTwice.slot := by decide
  simp only [Writes.step, Writes.claim, mine, if_true]
  rfl

theorem replay_safe_orderTwice : Run.Always (Writes.step id) Writes.Safe orderTwice
    [.claim 0 .done, .wait (10 * Calendar.secondLength),
      .finish 0 ⟨201, true, 7, .document "created"⟩ .done, .claim 1 .done, .look 1 .done] := by
  apply replay_safe ⟨rfl, rfl, rfl⟩
  refine ⟨trivial, fun call since running => ?_, trivial, trivial, trivial, trivial⟩
  rw [orderTwice_claim] at running ⊢
  by_cases first : call = 0
  · subst first
    cases (Writes.moveTo_phase_self _ _).symm.trans running
    decide
  · cases (Writes.moveTo_phase_of_ne first _).symm.trans running

/-- The second of them is answered with what the first was. -/
example : (Run.run (Writes.step id) orderTwice
    [.claim 0 .done, .finish 0 ⟨201, true, 7, .document "created"⟩ .done, .claim 1 .done,
      .look 1 .done]).phase 1 = .replied (.replay 201 "created") := by
  rw [Run.run_cons, orderTwice_claim]
  rfl

end Numu.Idempotency
