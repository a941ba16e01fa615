import Numu.ApiLimits.CheckAndCount
import Numu.Foundation.Run

/-! No window lets more requests through than its limit, and a refused request counts in none. -/

namespace Numu.ApiLimits
open Numu.Orders (UUID Time)

section Keys

theorem name_split {first second : Category} {rest rest' : List Char}
    (same : first.name.toList ++ ':' :: rest = second.name.toList ++ ':' :: rest') :
    first = second ∧ rest = rest' := by
  cases first <;> cases second <;> simp_all [Category.name]

theorem monthKey_injective {first second : Nat} (same : monthKey first = monthKey second) :
    first = second := by
  simp only [monthKey] at same
  rcases Calendar.padded_split _ _ (by decide) (by decide) same with ⟨years, -, rest⟩
  have months := Calendar.padded_injective rest
  simp only [Calendar.yearOf, Calendar.monthOfYear] at years months
  omega

theorem digits_injective {first second : Nat}
    (same : Nat.toDigits 10 first = Nat.toDigits 10 second) : first = second :=
  calc first = Nat.ofDigitChars 10 (Nat.toDigits 10 first) 0 := Nat.ofDigitChars_ten_toDigits.symm
    _ = Nat.ofDigitChars 10 (Nat.toDigits 10 second) 0 := by rw [same]
    _ = second := Nat.ofDigitChars_ten_toDigits

inductive WindowKind where
  | second
  | minute
  | key
  | category
  | quota
  deriving DecidableEq, Repr

/-- How the keys of one kind of window begin. -/
def WindowKind.head : WindowKind → List Char
  | .second => "api:rl:s:".toList
  | .minute => "api:rl:m:".toList
  | .key => "api:rl:k:".toList
  | .category => "api:rl:c:".toList
  | .quota => "api:quota:".toList

theorem eight_le_head (kind : WindowKind) : 8 ≤ kind.head.length := by
  cases kind <;> decide +kernel

theorem head_injective {kind other : WindowKind}
    (same : kind.head.take 8 = other.head.take 8) : kind = other := by
  revert same
  cases kind <;> cases other <;> decide +kernel

namespace WindowId

def kind : WindowId → WindowKind
  | .second _ _ => .second
  | .minute _ _ => .minute
  | .key _ _ => .key
  | .category _ _ _ => .category
  | .quota _ _ => .quota

/-- The tenant, or the API key. -/
def owner : WindowId → UUID
  | .second id _ | .minute id _ | .key id _ | .category id _ _ | .quota id _ => id

def tail : WindowId → List Char
  | .second _ index | .minute _ index | .key _ index => Nat.toDigits 10 index
  | .category _ cost index => cost.name.toList ++ ':' :: Nat.toDigits 10 index
  | .quota _ index => monthKey index

theorem text_eq (id : WindowId) :
    id.text = id.kind.head ++ ((UuidText.writeUuid id.owner).toList ++ ':' :: id.tail) := by
  cases id <;> rfl

theorem text_split {first second : WindowId} (same : first.text = second.text) :
    first.kind = second.kind ∧ first.owner = second.owner ∧ first.tail = second.tail := by
  rw [text_eq, text_eq] at same
  have kinds : first.kind = second.kind := by
    apply head_injective
    have starts := congrArg (List.take 8) same
    rw [List.take_append_of_le_length (eight_le_head _),
      List.take_append_of_le_length (eight_le_head _)] at starts
    exact starts
  rw [kinds] at same
  rcases UuidText.writeUuid_split (List.append_cancel_left same) with ⟨owners, tails⟩
  exact ⟨kinds, owners, (List.cons.inj tails).2⟩

/-- No two windows share a Redis key. -/
theorem text_injective {first second : WindowId} (same : first.text = second.text) :
    first = second := by
  rcases text_split same with ⟨kinds, owners, tails⟩
  clear same
  cases first <;> cases second <;> simp only [kind, reduceCtorEq] at kinds <;>
    simp only [owner] at owners
  case category.category =>
    rcases name_split tails with ⟨costs, digits⟩
    rw [owners, costs, digits_injective digits]
  case quota.quota => rw [owners, monthKey_injective tails]
  all_goals rw [owners, digits_injective tails]

end WindowId

end Keys

namespace WindowId

def limit (policy : ApiPolicy) : WindowId → Option Nat
  | .second _ _ => policy.perSecond
  | .minute _ _ | .key _ _ => policy.perMinute
  | .category _ cost _ => categoryLimit cost policy.perMinute
  | .quota _ _ => policy.monthlyQuota

/-- In seconds, from an instant on. -/
def ttl (now : Time) : WindowId → Nat
  | .second _ _ => 2
  | .minute _ _ | .key _ _ | .category _ _ _ => 70
  | .quota _ _ => secondsLeft now + 7 * 86400

/-- The instant at which the window is over. -/
def end_ : WindowId → Time
  | .second _ index => (index + 1) * Calendar.secondLength
  | .minute _ index | .key _ index | .category _ _ index => (index + 1) * (60 * Calendar.secondLength)
  | .quota _ index => Calendar.startOf (index + 1)

def window (policy : ApiPolicy) (now : Time) (id : WindowId) : Window where
  key := id.text
  limit := id.limit policy
  ttl := id.ttl now

theorem window_key (policy : ApiPolicy) (now : Time) (id : WindowId) :
    (id.window policy now).key = id.text := rfl

theorem window_ttl (policy : ApiPolicy) (now : Time) (id : WindowId) :
    (id.window policy now).ttl = id.ttl now := rfl

end WindowId

theorem window_ends (now length : Nat) (pos : 0 < length) :
    now < (now / length + 1) * length ∧ (now / length + 1) * length ≤ now + length := by
  constructor
  · exact (Nat.div_lt_iff_lt_mul pos).mp (Nat.lt_succ_self _)
  · rw [Nat.succ_mul]
    exact Nat.add_le_add_right (Nat.div_mul_le_self _ _) _

theorem month_ends (now end_ : Nat) (before : now < end_) :
    end_ ≤ now + ((end_ - now) / Calendar.secondLength + 7 * 86400) * Calendar.secondLength := by
  rw [Calendar.secondLength]
  omega

section Ids
variable [LetterCase] {tenantId : UUID} {policy : ApiPolicy} {request : ApiRequest} {id : WindowId}

/-- What a request counts in. -/
def ApiRequest.ids (tenantId : UUID) (request : ApiRequest) : List WindowId :=
  [.second tenantId request.second, .minute tenantId request.minute,
    .key request.tokenId request.minute, .category tenantId request.category request.minute,
    .quota tenantId request.month]

theorem windows_eq : windows tenantId policy request =
    (request.ids tenantId).map (WindowId.window policy request.now) := rfl

theorem window_mem (member : id ∈ request.ids tenantId) :
    id.window policy request.now ∈ windows tenantId policy request := by
  rw [windows_eq]
  exact List.mem_map_of_mem member

theorem ids_nodup : (request.ids tenantId).Nodup := by
  simp [ApiRequest.ids]

/-- A counter that a request starts lasts until its window is over. -/
theorem ids_cover (member : id ∈ request.ids tenantId) :
    request.now < id.end_ ∧ id.end_ ≤ request.now + id.ttl request.now * Calendar.secondLength := by
  have second := window_ends request.now Calendar.secondLength (by decide)
  have minute := window_ends request.now (60 * Calendar.secondLength) (by decide)
  rw [Nat.mul_comm 60, ← Nat.div_div_eq_div_mul, Nat.mul_comm _ 60] at minute
  have longer : request.now + 60 * Calendar.secondLength ≤
      request.now + 70 * Calendar.secondLength := Nat.add_le_add_left (by decide) _
  simp only [ApiRequest.ids, List.mem_cons, List.not_mem_nil, or_false] at member
  rcases member with rfl | rfl | rfl | rfl | rfl
  · refine ⟨second.1, le_trans second.2 (Nat.add_le_add_left ?_ _)⟩
    exact Nat.le_mul_of_pos_left _ Nat.two_pos
  · exact ⟨minute.1, le_trans minute.2 longer⟩
  · exact ⟨minute.1, le_trans minute.2 longer⟩
  · exact ⟨minute.1, le_trans minute.2 longer⟩
  · have before := (Calendar.month_bounds request.now).2
    exact ⟨before, month_ends _ _ before⟩

end Ids
namespace Redis
variable {redis : Redis} {now : Time}

theorem countAll_absent {windows : List Window} {key : List Char}
    (absent : key ∉ windows.map Window.key) :
    (redis.countAll now windows).1.get? key = redis.get? key := by
  induction windows generalizing redis with
  | nil => rfl
  | cons window rest ih =>
      rw [List.map_cons, List.mem_cons, not_or] at absent
      rw [countAll, ih absent.2, count, Counter.get?_increment, if_neg absent.1]

/-- Counting in several windows counts once more in each. -/
theorem countAll_present {windows : List Window} (nodup : (windows.map Window.key).Nodup)
    {window : Window} (member : window ∈ windows) :
    (redis.countAll now windows).1.get? window.key =
      some (Counter.next redis now window.key (window.ttl * Calendar.secondLength)) := by
  induction windows generalizing redis with
  | nil => cases member
  | cons first rest ih =>
      rw [List.map_cons, List.nodup_cons] at nodup
      rw [countAll]
      rcases List.mem_cons.mp member with rfl | later
      · rw [countAll_absent nodup.1, count, Counter.get?_increment, if_pos rfl]
      · have other : window.key ≠ first.key := by
          intro same
          exact nodup.1 (same ▸ List.mem_map_of_mem later)
        rw [ih nodup.2 later, Counter.next, Counter.next, Counter.find?, Counter.find?, count,
          Counter.get?_increment, if_neg other]

/-- The script counts in every window, none of which is full, or changes nothing. -/
theorem evalScript_cases (windows : List Window) :
    ((redis.evalScript now windows).1 = redis ∧
        ((redis.evalScript now windows).2 = .missing ∧
            (∀ quota ∈ windows.getLast?, Counter.find? redis now quota.key = none) ∨
          ∃ index current, (redis.evalScript now windows).2 = .full index current)) ∨
      ((redis.evalScript now windows).1 = (redis.countAll now windows).1 ∧
        (redis.evalScript now windows).2 = .counted (redis.countAll now windows).2 ∧
        ∀ window ∈ windows, ∀ limit ∈ window.limit, Counter.read redis now window.key < limit) := by
  rw [evalScript]
  split
  · rename_i absent
    refine .inl ⟨rfl, .inl ⟨rfl, fun quota last => ?_⟩⟩
    rw [Option.mem_def.mp last, Option.any_some, Option.isNone_iff_eq_none] at absent
    exact absent
  · split
    · exact .inl ⟨rfl, .inr ⟨_, _, rfl⟩⟩
    · rename_i open_
      refine .inr ⟨rfl, rfl, fun window member limit limited => ?_⟩
      rcases List.getElem_of_mem member with ⟨index, inside, rfl⟩
      have here := List.findSome?_eq_none_iff.mp open_ (windows[index], index)
        (List.mem_zipIdx_iff_getElem?.mpr (List.getElem?_eq_getElem inside))
      rw [Option.map_eq_none_iff, current?, Option.mem_def.mp limited, Option.bind_some] at here
      by_contra reached
      rw [if_pos (not_lt.mp reached)] at here
      cases here

end Redis

/-- The counters, and the requests that were let through. -/
structure Limiter where
  redis : Redis := Table.empty
  accepted : List ApiRequest := []

section Script
variable {tenantId : UUID} {policy : ApiPolicy} {redis : Redis} {request : ApiRequest}

theorem decision_allowed (policy : ApiPolicy) (windows : List Window) (now : Time) (result : ScriptResult) :
    (decision policy windows now result).allowed = true ↔ ∃ counts, result = .counted counts := by
  cases result with
  | missing => simp [decision, decision.blocked]
  | full index current =>
      rw [decision]
      split <;> simp [decision.blocked]
  | counted counts => simp [decision]

/-- The script on counters that are seeded: the request counts everywhere, or nowhere. -/
theorem evalScript_decides (policy : ApiPolicy) (redis : Redis) (windows : List Window) (now : Time) :
    ((decision policy windows now (redis.evalScript now windows).2).allowed = true ∧
        (redis.evalScript now windows).1 = (redis.countAll now windows).1 ∧
        ∀ window ∈ windows, ∀ limit ∈ window.limit, Counter.read redis now window.key < limit) ∨
      ((decision policy windows now (redis.evalScript now windows).2).allowed = false ∧
        (redis.evalScript now windows).1 = redis) := by
  have allows := decision_allowed policy windows now
  rcases redis.evalScript_cases windows with ⟨same, refused⟩ | ⟨changed, counted, room⟩
  · refine .inr ⟨?_, same⟩
    rw [Bool.eq_false_iff, ne_eq, allows]
    rintro ⟨counts, answered⟩
    rcases refused with ⟨missing, -⟩ | ⟨index, current, full⟩
    · rw [missing] at answered
      cases answered
    · rw [full] at answered
      cases answered
  · exact .inl ⟨(allows _).mpr ⟨_, counted⟩, changed, room⟩

/-- The counters that the decision rests on: those stored, with the month's seeded if missing. -/
def based (tenantId : UUID) (policy : ApiPolicy) (redis : Redis) (request : ApiRequest) : Redis :=
  redis.seedQuota request.now (quotaWindow tenantId policy request) request.monthUsage

theorem based_eq {counter : Counter} (found : Counter.find? redis request.now
    (quotaWindow tenantId policy request).key = some counter) :
    based tenantId policy redis request = redis := by
  rw [based, Redis.seedQuota, Counter.seed, found]

end Script

section Law
variable [LetterCase] {tenantId : UUID} {policy : ApiPolicy} {redis : Redis}
  {accepted : List ApiRequest} {request : ApiRequest}

def Limiter.step (tenantId : UUID) (policy : ApiPolicy) (limiter : Limiter) (request : ApiRequest) :
    Limiter :=
  let outcome := checkAndCount tenantId policy limiter.redis request
  { redis := outcome.1
    accepted :=
      if outcome.2.allowed then limiter.accepted ++ [request] else limiter.accepted }

/-- How many of the requests count in a window. -/
def counted (tenantId : UUID) (accepted : List ApiRequest) (id : WindowId) : Nat :=
  accepted.countP fun request => id ∈ request.ids tenantId

/-- Each stored counter lasts until its window is over and holds what was let through in it,
which is no more than the limit. -/
structure Kept (tenantId : UUID) (policy : ApiPolicy) (redis : Redis)
    (accepted : List ApiRequest) : Prop where
  lasts : ∀ id counter, redis.get? (WindowId.text id) = some counter → id.end_ ≤ counter.expiresAt
  held : ∀ id, counted tenantId accepted id ≤
    ((redis.get? (WindowId.text id)).map Counter.value).getD 0
  within : ∀ id, ∀ limit ∈ WindowId.limit policy id, counted tenantId accepted id ≤ limit

theorem counted_append (id : WindowId) : counted tenantId (accepted ++ [request]) id =
    counted tenantId accepted id + if id ∈ request.ids tenantId then 1 else 0 := by
  rw [counted, counted, List.countP_append, List.countP_singleton]
  simp only [decide_eq_true_eq]

theorem keys_nodup : ((windows tenantId policy request).map Window.key).Nodup := by
  rw [windows_eq, List.map_map]
  exact ids_nodup.map fun _ _ => WindowId.text_injective

theorem mem_keys {id : WindowId} :
    id.text ∈ (windows tenantId policy request).map Window.key ↔ id ∈ request.ids tenantId := by
  rw [windows_eq, List.map_map, List.mem_map]
  constructor
  · rintro ⟨other, member, same⟩
    rw [← WindowId.text_injective same]
    exact member
  · exact fun member => ⟨id, member, rfl⟩

/-- Counting a request for which every window has room. -/
theorem Kept.countAll (kept : Kept tenantId policy redis accepted)
    (room : ∀ window ∈ windows tenantId policy request, ∀ limit ∈ window.limit,
      Counter.read redis request.now window.key < limit) :
    Kept tenantId policy (redis.countAll request.now (windows tenantId policy request)).1
      (accepted ++ [request]) := by
  have present : ∀ id ∈ request.ids tenantId,
      (redis.countAll request.now (windows tenantId policy request)).1.get? id.text =
        some (Counter.next redis request.now id.text
          (id.ttl request.now * Calendar.secondLength)) := by
    intro id member
    have once := @Redis.countAll_present redis request.now (windows tenantId policy request)
      keys_nodup (id.window policy request.now) (window_mem member)
    rw [WindowId.window_key, WindowId.window_ttl] at once
    exact once
  have absent : ∀ id, id ∉ request.ids tenantId →
      (redis.countAll request.now (windows tenantId policy request)).1.get? (WindowId.text id) =
        redis.get? id.text := fun id outside =>
    Redis.countAll_absent (mt mem_keys.mp outside)
  have stored : ∀ id ∈ request.ids tenantId, Counter.read redis request.now (WindowId.text id) =
      ((redis.get? id.text).map Counter.value).getD 0 := fun id member =>
    Counter.read_eq (kept.lasts id) (ids_cover member).1
  constructor
  · intro id counter found
    by_cases member : id ∈ request.ids tenantId
    · rw [present id member, Option.some.injEq] at found
      rw [← found]
      exact Counter.next_lasts (ids_cover member).2 (kept.lasts id)
    · rw [absent id member] at found
      exact kept.lasts id counter found
  · intro id
    have before := kept.held id
    rw [counted_append]
    by_cases member : id ∈ request.ids tenantId
    · rw [if_pos member, present id member, Option.map_some, Option.getD_some, Counter.next_value,
        stored id member]
      exact Nat.add_le_add_right before 1
    · rw [if_neg member, absent id member]
      exact before
  · intro id limit limited
    rw [counted_append]
    by_cases member : id ∈ request.ids tenantId
    · have read : Counter.read redis request.now id.text < limit :=
        room _ (window_mem member) limit limited
      rw [stored id member] at read
      rw [if_pos member]
      exact Nat.lt_of_le_of_lt (kept.held id) read
    · rw [if_neg member]
      exact kept.within id limit limited

/-- Seeding a month whose counter is missing. -/
theorem Kept.seedQuota (kept : Kept tenantId policy redis accepted)
    (missing : Counter.find? redis request.now (quotaWindow tenantId policy request).key = none) :
    Kept tenantId policy
      (redis.seedQuota request.now (quotaWindow tenantId policy request) request.monthUsage)
      accepted := by
  have month : WindowId.quota tenantId request.month ∈ request.ids tenantId := by
    simp [ApiRequest.ids]
  have seeded : ∀ id : WindowId,
      (redis.seedQuota request.now (quotaWindow tenantId policy request) request.monthUsage).get?
          id.text =
        if id = WindowId.quota tenantId request.month then
          some { value := request.monthUsage, expiresAt := request.now +
            (quotaWindow tenantId policy request).ttl * Calendar.secondLength }
        else redis.get? id.text := by
    intro id
    rw [Redis.seedQuota, Counter.get?_seed]
    refine if_congr ⟨fun same => WindowId.text_injective same.1, ?_⟩ rfl rfl
    rintro rfl
    exact ⟨rfl, missing⟩
  refine ⟨fun id counter found => ?_, fun id => ?_, kept.within⟩
  · rw [seeded] at found
    split at found
    · rename_i same
      rw [Option.some.injEq] at found
      rw [← found, same]
      exact (ids_cover month).2
    · exact kept.lasts id counter found
  · rw [seeded]
    split
    · rename_i same
      rw [same]
      have unread := Counter.read_eq (kept.lasts _) (ids_cover month).1
      have gone : Counter.find? redis request.now
        (WindowId.quota tenantId request.month).text = none := missing
      rw [Counter.read, gone] at unread
      have none_yet := kept.held (WindowId.quota tenantId request.month)
      rw [← unread] at none_yet
      exact le_trans none_yet (Nat.zero_le _)
    · exact kept.held id

/-- Once the month's counter is there, the script decides. -/
theorem checkAndCount_eq : checkAndCount tenantId policy redis request =
    (((based tenantId policy redis request).evalScript request.now
        (windows tenantId policy request)).1,
      decision policy (windows tenantId policy request) request.now
        ((based tenantId policy redis request).evalScript request.now
          (windows tenantId policy request)).2) := by
  have last : (windows tenantId policy request).getLast? =
      some (quotaWindow tenantId policy request) := by
    rw [windows, List.getLast?_concat]
  rw [checkAndCount]
  rcases found : Counter.find? redis request.now (quotaWindow tenantId policy request).key with
    _ | counter
  · have first : redis.evalScript request.now (windows tenantId policy request) =
        (redis, .missing) := by
      rw [Redis.evalScript, last, Option.any_some, found, Option.isNone_none, if_pos rfl]
    rw [first]
    rfl
  · rw [based_eq found]
    split
    · rename_i evaluated
      have present : (windows tenantId policy request).getLast?.any (fun quota =>
          (Counter.find? redis request.now quota.key).isNone) = false := by
        rw [last, Option.any_some, found, Option.isNone_some]
      rw [Redis.evalScript, present] at evaluated
      simp only [Bool.false_eq_true, if_false] at evaluated
      split at evaluated <;> cases evaluated
    · rename_i evaluated
      rw [evaluated]

theorem Kept.step {limiter : Limiter} (kept : Kept tenantId policy limiter.redis limiter.accepted)
    (request : ApiRequest) :
    Kept tenantId policy (limiter.step tenantId policy request).redis
      (limiter.step tenantId policy request).accepted := by
  have seeded : Kept tenantId policy (based tenantId policy limiter.redis request)
      limiter.accepted := by
    rcases found : Counter.find? limiter.redis request.now
        (quotaWindow tenantId policy request).key with _ | counter
    · exact kept.seedQuota found
    · rw [based_eq found]
      exact kept
  simp only [Limiter.step, checkAndCount_eq]
  rcases evalScript_decides policy (based tenantId policy limiter.redis request)
    (windows tenantId policy request) request.now with ⟨allowed, changed, room⟩ | ⟨refused, same⟩
  · rw [allowed, changed, if_pos rfl]
    exact seeded.countAll room
  · rw [refused, same, if_neg Bool.false_ne_true]
    exact seeded

/-- In each aligned second, minute and month, per key and per category, no more requests were let
through than the limit. -/
structure WithinLimits (policy : ApiPolicy) (accepted : List ApiRequest) : Prop where
  second : ∀ second, ∀ limit ∈ policy.perSecond,
    accepted.countP (fun request => request.second = second) ≤ limit
  minute : ∀ minute, ∀ limit ∈ policy.perMinute,
    accepted.countP (fun request => request.minute = minute) ≤ limit
  key : ∀ tokenId minute, ∀ limit ∈ policy.perMinute,
    accepted.countP (fun request => request.tokenId = tokenId ∧ request.minute = minute) ≤ limit
  category : ∀ category minute, ∀ limit ∈ categoryLimit category policy.perMinute,
    accepted.countP (fun request => request.category = category ∧ request.minute = minute) ≤ limit
  month : ∀ month, ∀ limit ∈ policy.monthlyQuota,
    accepted.countP (fun request => request.month = month) ≤ limit

end Law

end Numu.ApiLimits
