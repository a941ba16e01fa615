import Mathlib.Algebra.BigOperators.Group.List.Basic
import Mathlib.Algebra.Order.BigOperators.Group.List
import Mathlib.Algebra.Ring.Int.Defs
import Mathlib.Tactic.Push
import Numu.Entitlements.Rules

/-!
# How long a resolved value stands

The expiry of a resolved feature looks at the grants that are live now and give its value. Until
then those hold; what starts in the meantime is not in it.
-/

namespace Numu.Entitlements
open Numu.Orders (Time)

/-- What bundles come to, merged in their order; the default where there are none. -/
def worth (feature : Feature) : List Grant → Value
  | [] => feature.default
  | first :: rest =>
      rest.foldl (fun value grant => combine feature.kind value grant.value) first.value

def liveAt (bundles : List Grant) (now : Time) : List Grant :=
  bundles.filter (active · now)

/-- The grant does not end until after the instant. -/
def Grant.Lasts (grant : Grant) (later : Time) : Prop :=
  ∀ ending ∈ grant.expiresAt, later < ending

def Grant.on (grant : Grant) : Bool := grant.value = .bool true

/-- The grants that keep the value of the live bundles last: one of those that are on, the first
one where none is, and every one of a limit. -/
def Spanned (kind : Kind) (live : List Grant) (later : Time) : Prop :=
  match kind with
  | .boolean =>
      if ∃ grant ∈ live, grant.on then ∃ grant ∈ live, grant.on ∧ grant.Lasts later
      else ∀ grant ∈ live.head?, grant.Lasts later
  | .limit => ∀ grant ∈ live, grant.Lasts later

/-- The grant would add nothing to the live bundles. -/
def Idle (kind : Kind) (live : List Grant) (grant : Grant) : Prop :=
  match kind with
  | .boolean => grant.on → ∃ other ∈ live, other.on
  | .limit => grant.value = .int 0 ∨ ∃ other ∈ live, other.value = .unlimited

/-- Nothing that starts while the live bundles span changes what they come to: an override has
their worth, another bundle adds nothing to them, and where there are none the bundles that start
come to the default. -/
structure QuietAt (feature : Feature) (bundles : List Grant) (override : Option Grant)
    (now later : Time) : Prop where
  overridden : ∀ grant ∈ override, active grant later = true →
    grant.value = worth feature (liveAt bundles now)
  joined : (∀ grant ∈ override, active grant later = false) → liveAt bundles now ≠ [] →
    ∀ grant ∈ liveAt bundles later, active grant now = false →
      Idle feature.kind (liveAt bundles now) grant
  begun : (∀ grant ∈ override, active grant later = false) → liveAt bundles now = [] →
    worth feature (liveAt bundles later) = feature.default

/-- An override is live, or nothing that starts in the span of the live bundles changes the value. -/
def Quiet (feature : Feature) (bundles : List Grant) (override : Option Grant) (now : Time) : Prop :=
  (∃ grant ∈ override, active grant now = true) ∨
    ∀ later, now ≤ later → Spanned feature.kind (liveAt bundles now) later →
      QuietAt feature bundles override now later

section Worth
variable {feature : Feature}

theorem foldl_boolean (on : Bool) (grants : List Grant) :
    grants.foldl (fun value grant => combine .boolean value grant.value) (.bool on) =
      .bool (on || grants.any Grant.on) := by
  induction grants generalizing on with
  | nil => rw [List.foldl_nil, List.any_nil, Bool.or_false]
  | cons grant grants ih =>
      have step : combine .boolean (.bool on) grant.value = .bool (on || grant.on) := by
        cases on <;> simp [combine, Grant.on]
      rw [List.foldl_cons, step, ih, List.any_cons, Bool.or_assoc]

/-- Bundles of a boolean feature come to `True` if one of them is on. -/
theorem worth_boolean (boolean : feature.kind = .boolean) {grants : List Grant} (some_ : grants ≠ [])
    (checked : ∀ grant ∈ grants, Checked feature.kind grant.value) :
    worth feature grants = .bool (grants.any Grant.on) := by
  cases grants with
  | nil => exact absurd rfl some_
  | cons first rest =>
      have firstly := checked first List.mem_cons_self
      rw [boolean] at firstly
      obtain ⟨on, value⟩ := checked_boolean_iff.mp firstly
      rw [worth, boolean, value, foldl_boolean, List.any_cons]
      cases on <;> simp [Grant.on, value]

theorem foldl_limit {value : Value} (numeric : value = .unlimited ∨ ∃ amount, value = .int amount)
    (grants : List Grant) :
    grants.foldl (fun value grant => combine .limit value grant.value) value =
      if value = .unlimited ∨ ∃ grant ∈ grants, grant.value = .unlimited then .unlimited
      else .int (value.number + (grants.map fun grant => grant.value.number).sum) := by
  induction grants generalizing value with
  | nil =>
      rcases numeric with rfl | ⟨amount, rfl⟩
      · simp
      · simp [Value.number]
  | cons grant grants ih =>
      rw [List.foldl_cons, combine]
      by_cases absorbed : value = .unlimited ∨ grant.value = .unlimited
      · rw [if_pos (by simpa using absorbed), ih (.inl rfl), if_pos (.inl rfl), if_pos]
        exact absorbed.imp id fun here => ⟨grant, List.mem_cons_self, here⟩
      · rw [if_neg (by simpa using absorbed), ih (.inr ⟨_, rfl⟩)]
        push Not at absorbed
        simp [absorbed, Value.number, Int.add_assoc]

/-- Bundles of a limit come to its sum, unless one of them is unlimited. -/
theorem worth_limit (limit : feature.kind = .limit) {grants : List Grant} (some_ : grants ≠ [])
    (checked : ∀ grant ∈ grants, Checked feature.kind grant.value) :
    worth feature grants =
      if ∃ grant ∈ grants, grant.value = .unlimited then .unlimited
      else .int (grants.map fun grant => grant.value.number).sum := by
  cases grants with
  | nil => exact absurd rfl some_
  | cons first rest =>
      have firstly := checked first List.mem_cons_self
      rw [limit] at firstly
      have numeric : first.value = .unlimited ∨ ∃ amount, first.value = .int amount :=
        (checked_limit_iff.mp firstly).imp id fun ⟨amount, _, value⟩ => ⟨amount, value⟩
      rw [worth, limit, foldl_limit numeric]
      simp

end Worth

section Resolution
variable {feature : Feature} {bundles : List Grant} {override : Option Grant} {now later : Time}

/-- A live override wins, and otherwise the bundles have what they come to. -/
theorem value_resolve (feature : Feature) (bundles : List Grant) (override : Option Grant)
    (now : Time) : (resolve feature bundles override now).value =
      match override.filter (active · now) with
      | some grant => grant.value
      | none => worth feature (liveAt bundles now) := by
  rw [resolve, ← liveAt]
  cases override.filter (active · now) with
  | some grant => rfl
  | none =>
      cases liveAt bundles now with
      | nil => rfl
      | cons first rest =>
          dsimp only
          split <;> rfl

/-- A grant that is live stays so until it ends. -/
theorem active_of_lasts {grant : Grant} (live : active grant now = true) (le : now ≤ later)
    (lasts : grant.Lasts later) : active grant later = true := by
  rw [active, Bool.and_eq_true] at live ⊢
  constructor
  · cases opens : grant.startsAt with
    | none => rfl
    | some start =>
        rw [opens] at live
        exact decide_eq_true (Nat.le_trans (of_decide_eq_true live.1) le)
  · cases closes : grant.expiresAt with
    | none => rfl
    | some ending => exact decide_eq_true (lasts ending closes)

/-- The latest of some ends is after an instant if one of them is. -/
theorem lt_max_iff {ends : List Time} (some_ : ends ≠ []) :
    (∀ ending ∈ ends.max?, later < ending) ↔ ∃ ending ∈ ends, later < ending := by
  cases latest : ends.max? with
  | none => exact absurd (List.max?_eq_none_iff.mp latest) some_
  | some ending =>
      have spec := List.max?_eq_some_iff.mp latest
      constructor
      · intro before
        exact ⟨ending, spec.1, before ending rfl⟩
      · rintro ⟨other, mem, before⟩ found same
        cases same
        exact Nat.lt_of_lt_of_le before (spec.2 other mem)

theorem lt_min_iff {ends : List Time} :
    (∀ ending ∈ ends.min?, later < ending) ↔ ∀ ending ∈ ends, later < ending := by
  cases earliest : ends.min? with
  | none =>
      rw [List.min?_eq_none_iff.mp earliest]
      simp
  | some ending =>
      have spec := List.min?_eq_some_iff.mp earliest
      constructor
      · intro before other mem
        exact Nat.lt_of_lt_of_le (before ending rfl) (spec.2 other mem)
      · intro all found same
        cases same
        exact all ending spec.1

theorem mem_ends {winners : List Grant} {ending : Time} :
    ending ∈ (winners.map Grant.expiresAt).reduceOption ↔
      ∃ grant ∈ winners, grant.expiresAt = some ending := by
  rw [List.reduceOption_mem_iff, List.mem_map]

/-- While a boolean is on, its expiry is when the last of the grants ends. -/
theorem expiry_on (boolean : feature.kind = .boolean) {winners : List Grant} (some_ : winners ≠ []) :
    (∀ ending ∈ expiry feature (.bool true) winners, later < ending) ↔
      ∃ grant ∈ winners, grant.Lasts later := by
  rw [expiry, boolean, if_pos (by decide)]
  by_cases endless : none ∈ winners.map Grant.expiresAt
  · obtain ⟨grant, mem, never⟩ := List.mem_map.mp endless
    rw [if_pos endless]
    refine iff_of_true (fun _ none_ => by cases none_) ⟨grant, mem, fun _ ends => ?_⟩
    rw [never] at ends
    cases ends
  · have ends (grant : Grant) (mem : grant ∈ winners) : ∃ ending, grant.expiresAt = some ending :=
      Option.ne_none_iff_exists'.mp fun never => endless (never ▸ List.mem_map_of_mem mem)
    rw [if_neg endless, lt_max_iff]
    · constructor
      · rintro ⟨ending, mem, before⟩
        obtain ⟨grant, inside, ends⟩ := mem_ends.mp mem
        refine ⟨grant, inside, fun other same => ?_⟩
        rw [ends] at same
        cases same
        exact before
      · rintro ⟨grant, inside, lasts⟩
        obtain ⟨ending, closes⟩ := ends grant inside
        exact ⟨ending, mem_ends.mpr ⟨grant, inside, closes⟩, lasts ending closes⟩
    · obtain ⟨grant, inside⟩ := List.exists_mem_of_ne_nil winners some_
      obtain ⟨ending, closes⟩ := ends grant inside
      exact List.ne_nil_of_mem (mem_ends.mpr ⟨grant, inside, closes⟩)

/-- Otherwise it is when the first of them does. -/
theorem expiry_first {value : Value} (off : ¬(feature.kind = .boolean ∧ value = .bool true))
    (winners : List Grant) :
    (∀ ending ∈ expiry feature value winners, later < ending) ↔
      ∀ grant ∈ winners, grant.Lasts later := by
  rw [expiry, if_neg (by simpa using off), lt_min_iff]
  constructor
  · intro all grant inside ending closes
    exact all ending (mem_ends.mpr ⟨grant, inside, closes⟩)
  · intro all ending mem
    obtain ⟨grant, inside, closes⟩ := mem_ends.mp mem
    exact all grant inside ending closes

theorem spanned_nil (kind : Kind) (later : Time) : Spanned kind [] later := by
  cases kind with
  | boolean =>
      rw [Spanned, if_neg (by simp)]
      intro grant mem
      cases mem
  | limit =>
      intro grant mem
      cases mem

/-- With no override, what is before the expiry is the span of the live bundles. -/
theorem before_expiry_iff (unset : override.filter (active · now) = none)
    (checked : ∀ grant ∈ bundles, Checked feature.kind grant.value) :
    (∀ ending ∈ (resolve feature bundles override now).expiresAt, later < ending) ↔
      Spanned feature.kind (liveAt bundles now) later := by
  have valid : ∀ grant ∈ liveAt bundles now, Checked feature.kind grant.value :=
    fun grant mem => checked grant (List.mem_filter.mp mem).1
  rw [resolve, ← liveAt, unset]
  cases live : liveAt bundles now with
  | nil =>
      refine iff_of_true ?_ (spanned_nil _ _)
      by_cases on : feature.kind = .boolean ∧ feature.default = .bool true
      · dsimp only [resolved]
        rw [on.2, expiry_on on.1 (List.cons_ne_nil _ _)]
        exact ⟨_, List.mem_singleton.mpr rfl, fun _ ends => by cases ends⟩
      · dsimp only [resolved]
        rw [expiry_first on]
        intro grant mem ending ends
        rw [List.mem_singleton.mp mem] at ends
        cases ends
  | cons first rest =>
      rw [live] at valid
      have value : rest.foldl (fun value grant => combine feature.kind value grant.value) first.value =
          worth feature (first :: rest) := rfl
      dsimp only
      rw [value]
      cases kind : feature.kind with
      | limit =>
          have winners : (first :: rest).filter (fun grant =>
              Kind.limit = .limit || grant.value = .bool true) = first :: rest := by simp
          rw [winners]
          dsimp only [resolved]
          rw [expiry_first (by simp [kind])]
          rfl
      | boolean =>
          have winners : (first :: rest).filter (fun grant =>
              Kind.boolean = .limit || grant.value = .bool true) = (first :: rest).filter Grant.on := by
            apply List.filter_congr
            intro grant _
            simp [Grant.on]
          rw [winners, worth_boolean kind (List.cons_ne_nil _ _) valid, Spanned]
          cases on : (first :: rest).filter Grant.on with
          | nil =>
              have none_ : (first :: rest).any Grant.on = false := by
                rw [List.any_eq_false]
                exact List.filter_eq_nil_iff.mp on
              have nobody : ¬∃ grant ∈ first :: rest, grant.on = true := by
                rw [← List.any_eq_true, none_]
                exact Bool.false_ne_true
              dsimp only [resolved]
              rw [none_, expiry_first (by simp), if_neg nobody]
              simp
          | cons winner others =>
              have mem : winner ∈ (first :: rest).filter Grant.on := by
                rw [on]
                exact List.mem_cons_self
              have somebody : ∃ grant ∈ first :: rest, grant.on = true :=
                ⟨winner, List.mem_filter.mp mem⟩
              dsimp only [resolved]
              rw [List.any_eq_true.mpr somebody, expiry_on kind (List.cons_ne_nil _ _), if_pos somebody,
                ← on]
              simp only [List.mem_filter, and_assoc]

/-- A live override stands until it ends, and with it the value. -/
theorem lasts_of_override {grant : Grant} (live : override.filter (active · now) = some grant)
    (before : ∀ ending ∈ (resolve feature bundles override now).expiresAt, later < ending) :
    grant.Lasts later := by
  rw [resolve, live] at before
  dsimp only [resolved] at before
  by_cases on : feature.kind = .boolean ∧ grant.value = .bool true
  · rw [on.2, expiry_on on.1 (List.cons_ne_nil _ _)] at before
    obtain ⟨winner, mem, lasts⟩ := before
    rw [List.mem_singleton.mp mem] at lasts
    exact lasts
  · rw [expiry_first on] at before
    exact before grant List.mem_cons_self

theorem mem_liveAt {grant : Grant} :
    grant ∈ liveAt bundles now ↔ grant ∈ bundles ∧ active grant now = true :=
  List.mem_filter

/-- A live bundle that lasts is live later. -/
theorem liveAt_of_lasts {grant : Grant} (live : grant ∈ liveAt bundles now) (le : now ≤ later)
    (lasts : grant.Lasts later) : grant ∈ liveAt bundles later :=
  mem_liveAt.mpr ⟨(mem_liveAt.mp live).1, active_of_lasts (mem_liveAt.mp live).2 le lasts⟩

/-- Through its span a boolean that is on stays on, and one that is off stays off unless a bundle
that is on starts. -/
theorem worth_boolean_eq_iff (boolean : feature.kind = .boolean)
    (checked : ∀ grant ∈ bundles, Checked feature.kind grant.value) (le : now ≤ later)
    (some_ : liveAt bundles now ≠ []) (spanned : Spanned .boolean (liveAt bundles now) later) :
    worth feature (liveAt bundles later) = worth feature (liveAt bundles now) ↔
      ∀ grant ∈ liveAt bundles later, active grant now = false →
        Idle .boolean (liveAt bundles now) grant := by
  have valid (time : Time) : ∀ grant ∈ liveAt bundles time, Checked feature.kind grant.value :=
    fun grant mem => checked grant (mem_liveAt.mp mem).1
  rw [Spanned] at spanned
  by_cases on : ∃ grant ∈ liveAt bundles now, grant.on = true
  · rw [if_pos on] at spanned
    obtain ⟨grant, live, grant_on, lasts⟩ := spanned
    have there := liveAt_of_lasts live le lasts
    have on' : ∃ grant ∈ liveAt bundles later, grant.on = true := ⟨grant, there, grant_on⟩
    rw [worth_boolean boolean some_ (valid now), worth_boolean boolean (List.ne_nil_of_mem there)
      (valid later), List.any_eq_true.mpr on, List.any_eq_true.mpr on']
    exact iff_of_true rfl fun _ _ _ _ => on
  · rw [if_neg on] at spanned
    obtain ⟨first, rest, live⟩ := List.exists_cons_of_ne_nil some_
    have lasts : first.Lasts later := spanned first (by rw [live]; rfl)
    have inside : first ∈ liveAt bundles now := by
      rw [live]
      exact List.mem_cons_self
    have there := liveAt_of_lasts inside le lasts
    have off : (liveAt bundles now).any Grant.on = false := by
      rw [← Bool.not_eq_true, List.any_eq_true]
      exact on
    rw [worth_boolean boolean some_ (valid now), worth_boolean boolean (List.ne_nil_of_mem there)
      (valid later), off, Value.bool.injEq, List.any_eq_false]
    constructor
    · intro all grant mem _ grant_on
      exact absurd grant_on (all grant mem)
    · intro idle grant mem grant_on
      by_cases before : active grant now = true
      · exact on ⟨grant, mem_liveAt.mpr ⟨(mem_liveAt.mp mem).1, before⟩, grant_on⟩
      · exact on (idle grant mem (Bool.not_eq_true _ ▸ before) grant_on)

theorem number_eq_zero_iff {value : Value} (checked : Checked .limit value)
    (limited : value ≠ .unlimited) : value.number = 0 ↔ value = .int 0 := by
  rcases checked_limit_iff.mp checked with rfl | ⟨amount, _, rfl⟩
  · exact absurd rfl limited
  · simp [Value.number]

theorem number_nonneg {value : Value} (checked : Checked .limit value) : 0 ≤ value.number := by
  rcases checked_limit_iff.mp checked with rfl | ⟨amount, nonneg, rfl⟩
  · exact Int.le_refl 0
  · exact nonneg

/-- While the live bundles last, those that are live later are they and those that started. -/
theorem sum_later (there : ∀ grant ∈ liveAt bundles now, grant ∈ liveAt bundles later) :
    ((liveAt bundles later).map fun grant => grant.value.number).sum =
      ((liveAt bundles now).map fun grant => grant.value.number).sum +
        (((liveAt bundles later).filter fun grant => !active grant now).map fun grant =>
          grant.value.number).sum := by
  have before : (liveAt bundles later).filter (active · now) = liveAt bundles now := by
    rw [liveAt, List.filter_filter]
    apply List.filter_congr
    intro grant mem
    cases live : active grant now with
    | false => rfl
    | true => exact (mem_liveAt.mp (there grant (mem_liveAt.mpr ⟨mem, live⟩))).2
  have parted := (List.filter_append_perm (active · now) (liveAt bundles later)).map
    fun grant => grant.value.number
  rw [before, List.map_append] at parted
  rw [← parted.sum_eq, List.sum_append]

/-- Through its span a limit stays what it is unless a bundle that starts raises it. -/
theorem worth_limit_eq_iff (limit : feature.kind = .limit)
    (checked : ∀ grant ∈ bundles, Checked feature.kind grant.value) (le : now ≤ later)
    (some_ : liveAt bundles now ≠ []) (spanned : Spanned .limit (liveAt bundles now) later) :
    worth feature (liveAt bundles later) = worth feature (liveAt bundles now) ↔
      ∀ grant ∈ liveAt bundles later, active grant now = false →
        Idle .limit (liveAt bundles now) grant := by
  have valid (time : Time) : ∀ grant ∈ liveAt bundles time, Checked feature.kind grant.value :=
    fun grant mem => checked grant (mem_liveAt.mp mem).1
  have there : ∀ grant ∈ liveAt bundles now, grant ∈ liveAt bundles later :=
    fun grant mem => liveAt_of_lasts mem le (spanned grant mem)
  have some_later : liveAt bundles later ≠ [] := by
    obtain ⟨grant, mem⟩ := List.exists_mem_of_ne_nil _ some_
    exact List.ne_nil_of_mem (there grant mem)
  rw [worth_limit limit some_ (valid now), worth_limit limit some_later (valid later)]
  by_cases unlimited : ∃ grant ∈ liveAt bundles now, grant.value = .unlimited
  · have unlimited' : ∃ grant ∈ liveAt bundles later, grant.value = .unlimited :=
      unlimited.imp fun grant both => ⟨there grant both.1, both.2⟩
    rw [if_pos unlimited, if_pos unlimited']
    exact iff_of_true rfl fun _ _ _ => .inr unlimited
  · rw [if_neg unlimited]
    by_cases unlimited' : ∃ grant ∈ liveAt bundles later, grant.value = .unlimited
    · rw [if_pos unlimited']
      refine iff_of_false (fun same => by cases same) fun idle => ?_
      obtain ⟨grant, mem, value⟩ := unlimited'
      have started : active grant now = false := by
        by_contra before
        exact unlimited ⟨grant, mem_liveAt.mpr ⟨(mem_liveAt.mp mem).1, by simpa using before⟩, value⟩
      rcases idle grant mem started with zero | absorbed
      · rw [value] at zero
        cases zero
      · exact unlimited absorbed
    · rw [if_neg unlimited', Value.int.injEq, sum_later there]
      let started := (liveAt bundles later).filter fun grant => !active grant now
      have nonneg : ∀ amount ∈ started.map fun grant => grant.value.number, 0 ≤ amount := by
        intro amount mem
        obtain ⟨grant, inside, rfl⟩ := List.mem_map.mp mem
        exact number_nonneg (limit ▸ valid later grant (List.mem_filter.mp inside).1)
      have zero (grant : Grant) (mem : grant ∈ liveAt bundles later) :
          grant.value.number = 0 ↔ grant.value = .int 0 :=
        number_eq_zero_iff (limit ▸ valid later grant mem) fun value => unlimited' ⟨grant, mem, value⟩
      constructor
      · intro same grant mem begun
        have none_ : (started.map fun grant => grant.value.number).sum = 0 := add_eq_left.mp same
        have inside : grant ∈ started := List.mem_filter.mpr ⟨mem, by simp [begun]⟩
        have nothing := List.all_zero_of_le_zero_le_of_sum_eq_zero nonneg none_
          (List.mem_map_of_mem inside)
        exact .inl ((zero grant mem).mp nothing)
      · intro idle
        have none_ : (started.map fun grant => grant.value.number).sum = 0 := by
          apply List.sum_eq_zero
          intro amount mem
          obtain ⟨grant, inside, rfl⟩ := List.mem_map.mp mem
          obtain ⟨mem, begun⟩ := List.mem_filter.mp inside
          rcases idle grant mem (by simpa using begun) with value | absorbed
          · exact (zero grant mem).mpr value
          · exact absurd absorbed unlimited
        exact add_eq_left.mpr none_

/-- Through the span of the live bundles the value stays exactly if what starts is quiet. -/
theorem quietAt_iff (unset : override.filter (active · now) = none)
    (checked : ∀ grant ∈ bundles, Checked feature.kind grant.value) (le : now ≤ later)
    (spanned : Spanned feature.kind (liveAt bundles now) later) :
    (resolve feature bundles override later).value = (resolve feature bundles override now).value ↔
      QuietAt feature bundles override now later := by
  rw [value_resolve, value_resolve, unset]
  dsimp only
  cases overriding : override.filter (active · later) with
  | some grant =>
      obtain ⟨mem, live⟩ := Option.filter_eq_some_iff.mp overriding
      have contrary (none_ : ∀ grant ∈ override, active grant later = false) : False := by
        rw [none_ grant mem] at live
        cases live
      constructor
      · intro same
        refine ⟨fun other mem' _ => ?_, fun none_ => (contrary none_).elim,
          fun none_ => (contrary none_).elim⟩
        rw [← Option.mem_unique mem mem']
        exact same
      · exact fun quiet => quiet.overridden grant mem live
  | none =>
      have idle : ∀ grant ∈ override, active grant later = false := by
        intro grant mem
        have skipped := Option.filter_eq_none_iff.mp overriding grant mem
        simpa using skipped
      have joined (some_ : liveAt bundles now ≠ []) :
          worth feature (liveAt bundles later) = worth feature (liveAt bundles now) ↔
            ∀ grant ∈ liveAt bundles later, active grant now = false →
              Idle feature.kind (liveAt bundles now) grant := by
        cases kind : feature.kind with
        | boolean =>
            exact worth_boolean_eq_iff kind checked le some_ (kind ▸ spanned)
        | limit =>
            exact worth_limit_eq_iff kind checked le some_ (kind ▸ spanned)
      constructor
      · intro same
        refine ⟨fun grant mem live => ?_, fun _ some_ => (joined some_).mp same, fun _ empty => ?_⟩
        · rw [idle grant mem] at live
          cases live
        · rw [empty] at same
          exact same
      · intro quiet
        by_cases empty : liveAt bundles now = []
        · rw [empty]
          exact quiet.begun idle empty
        · exact (joined empty).mpr (quiet.joined idle empty)

/-- A feature whose layers hold valid values keeps its value from now until its expiry, or for good
where it has none, exactly if nothing that starts in that time changes it. -/
theorem stands_until_expiry_iff (feature : Feature) (bundles : List Grant) (override : Option Grant)
    (now : Time) (checked : ∀ grant ∈ bundles, Checked feature.kind grant.value) :
    (∀ later, now ≤ later →
      (∀ ending ∈ (resolve feature bundles override now).expiresAt, later < ending) →
        (resolve feature bundles override later).value =
          (resolve feature bundles override now).value) ↔
      Quiet feature bundles override now := by
  cases overriding : override.filter (active · now) with
  | some grant =>
      obtain ⟨mem, live⟩ := Option.filter_eq_some_iff.mp overriding
      refine iff_of_true (fun later le before => ?_) (.inl ⟨grant, mem, live⟩)
      have stays := active_of_lasts live le (lasts_of_override overriding before)
      have still : override.filter (active · later) = some grant :=
        Option.filter_eq_some_iff.mpr ⟨mem, stays⟩
      rw [value_resolve, value_resolve, overriding, still]
  | none =>
      have idle : ¬∃ grant ∈ override, active grant now = true := by
        rintro ⟨grant, mem, live⟩
        exact Option.filter_eq_none_iff.mp overriding grant mem live
      rw [Quiet, or_iff_right idle]
      constructor
      · intro stands later le spanned
        have before := (before_expiry_iff overriding checked).mpr spanned
        exact (quietAt_iff overriding checked le spanned).mp (stands later le before)
      · intro quiet later le before
        have spanned := (before_expiry_iff overriding checked).mp before
        exact (quietAt_iff overriding checked le spanned).mpr (quiet later le spanned)

end Resolution

def theme : Feature where
  key := "themes.custom"
  kind := .boolean
  default := .bool false

def proPlan : Grant where
  source := .plan
  sourceId := some "pro"
  value := .bool true

/-- An override that is scheduled for later and denies the feature. -/
def laterDenial : Grant where
  source := .override
  sourceId := some "1"
  value := .bool false
  startsAt := some 10

/-- What the plan gives for good stands for good. -/
theorem plan_stands : Quiet theme [proPlan] none 0 ∧ ∀ later, 0 ≤ later →
    (∀ ending ∈ (resolve theme [proPlan] none 0).expiresAt, later < ending) →
      (resolve theme [proPlan] none later).value = (resolve theme [proPlan] none 0).value := by
  have quiet : Quiet theme [proPlan] none 0 := by
    refine .inr fun later _ _ => ⟨?_, ?_, ?_⟩
    · intro grant mem
      cases mem
    · intro _ _ grant mem started
      rw [List.mem_singleton.mp (mem_liveAt.mp mem).1] at started
      cases started
    · exact fun _ empty => absurd empty (by decide)
  refine ⟨quiet, (stands_until_expiry_iff theme [proPlan] none 0 ?_).mpr quiet⟩
  intro grant mem
  rw [List.mem_singleton.mp mem]
  rfl

/-- The value is to stand for good, and at 10 it is denied. -/
theorem denial_not_in_expiry : (resolve theme [proPlan] (some laterDenial) 0).expiresAt = none ∧
    (resolve theme [proPlan] (some laterDenial) 10).value ≠
      (resolve theme [proPlan] (some laterDenial) 0).value := by decide

end Numu.Entitlements
