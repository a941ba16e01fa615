import Mathlib.Data.List.Nodup
import Mathlib.Logic.Function.Basic

/-!
# Vouchers with a budget

A voucher is redeemed by a party, at most once each and so many times in all. Whoever holds it
may use it a number of times: every use is counted against what the holding has left.
-/

namespace Numu.Voucher

variable {ι κ σ : Type*}

structure Limits where
  /-- How often the voucher is redeemed in all, where that is bounded. -/
  redemptions : Option Nat
  /-- How often one redemption is used, where that is bounded. -/
  uses : Option Nat

/-- A voucher that was redeemed, with the uses it has left where they are counted. -/
structure Holding (κ σ : Type*) where
  voucher : κ
  party : σ
  left : Option Int

namespace Holding

def redemption (holding : Holding κ σ) : κ × σ :=
  (holding.voucher, holding.party)

/-- The holding after one more use; the last one ends it. -/
def consumed (holding : Holding κ σ) : Option (Holding κ σ) :=
  match holding.left with
  | none => some holding
  | some left => if left - 1 ≤ 0 then none else some { holding with left := some (left - 1) }

theorem consumed_redemption {holding next : Holding κ σ} (ok : holding.consumed = some next) :
    next.redemption = holding.redemption ∧ next.voucher = holding.voucher := by
  rw [consumed] at ok
  split at ok
  · cases ok
    exact ⟨rfl, rfl⟩
  · split at ok
    · cases ok
    · cases ok
      exact ⟨rfl, rfl⟩

end Holding

variable [DecidableEq ι] [DecidableEq κ] [DecidableEq σ]

/-- What vouchers with the limits keep to: the redemptions so far, who holds what of them, and the
redemption of every use. -/
structure Within (limits : κ → Limits) (redeemed : List (κ × σ)) (held : ι → Option (Holding κ σ))
    (uses : List (κ × σ)) : Prop where
  once : redeemed.Nodup
  bounded : ∀ voucher most, (limits voucher).redemptions = some most →
    (redeemed.filter fun redemption => redemption.1 = voucher).length ≤ most
  used : ∀ redemption ∈ uses, redemption ∈ redeemed
  owned : ∀ holder holding, held holder = some holding → holding.redemption ∈ redeemed
  exclusive : ∀ first second holding holding', held first = some holding →
    held second = some holding' → holding.redemption = holding'.redemption → first = second
  counted : ∀ holder holding most, held holder = some holding →
    (limits holding.voucher).uses = some most →
      ∃ left, holding.left = some left ∧ 0 < left ∧ uses.count holding.redemption + left = most
  limited : ∀ redemption most, (limits redemption.1).uses = some most →
    uses.count redemption ≤ most

variable {limits : κ → Limits} {redeemed : List (κ × σ)} {held : ι → Option (Holding κ σ)}
  {uses : List (κ × σ)}

omit [DecidableEq ι] in
theorem Within.empty (limits : κ → Limits) :
    Within limits ([] : List (κ × σ)) (fun _ : ι => none) [] := by
  refine ⟨.nil, by simp, by simp, by simp, by simp, by simp, by simp⟩

namespace Within

/-- A first redemption while there are some left. -/
theorem redeem (within : Within limits redeemed held uses) (holder : ι) {voucher : κ} {party : σ}
    (first : (voucher, party) ∉ redeemed)
    (room : ∀ most, (limits voucher).redemptions = some most →
      (redeemed.filter fun redemption => redemption.1 = voucher).length < most)
    (usable : (limits voucher).uses ≠ some 0) :
    Within limits (redeemed ++ [(voucher, party)])
      (Function.update held holder
        (some ⟨voucher, party, (limits voucher).uses.map fun most : Nat => (most : Int)⟩)) uses := by
  have unused : (voucher, party) ∉ uses := fun member => first (within.used _ member)
  have apart {other : ι} {holding : Holding κ σ} (found : held other = some holding) :
      holding.redemption ≠ (voucher, party) := by
    intro same
    exact first (same ▸ within.owned other holding found)
  constructor
  · exact within.once.append (List.nodup_singleton _) (by simpa using first)
  · intro other most limit
    rw [List.filter_append, List.length_append]
    by_cases same : voucher = other
    · subst same
      have below := room most limit
      rw [List.filter_cons_of_pos (by simp), List.filter_nil, List.length_singleton]
      omega
    · rw [List.filter_cons_of_neg (by simpa using same), List.filter_nil, List.length_nil,
        Nat.add_zero]
      exact within.bounded other most limit
  · intro redemption member
    exact List.mem_append_left _ (within.used redemption member)
  · intro other holding found
    rcases eq_or_ne other holder with rfl | different
    · rw [Function.update_self, Option.some.injEq] at found
      subst found
      exact List.mem_append_right _ (List.mem_singleton_self _)
    · rw [Function.update_of_ne different] at found
      exact List.mem_append_left _ (within.owned other holding found)
  · intro one two holding holding' found found' same
    rcases eq_or_ne one holder with rfl | different
    · rcases eq_or_ne two one with rfl | different'
      · rfl
      · rw [Function.update_self, Option.some.injEq] at found
        rw [Function.update_of_ne different'] at found'
        subst found
        exact absurd same.symm (apart found')
    · rw [Function.update_of_ne different] at found
      rcases eq_or_ne two holder with rfl | different'
      · rw [Function.update_self, Option.some.injEq] at found'
        subst found'
        exact absurd same (apart found)
      · rw [Function.update_of_ne different'] at found'
        exact within.exclusive one two holding holding' found found' same
  · intro other holding most found limit
    rcases eq_or_ne other holder with rfl | different
    · rw [Function.update_self, Option.some.injEq] at found
      subst found
      have none_ : uses.count (voucher, party) = 0 := List.count_eq_zero.mpr unused
      have positive : most ≠ 0 := by
        intro zero
        exact usable (zero ▸ limit)
      refine ⟨most, ?_, by omega, ?_⟩
      · change (limits voucher).uses.map _ = _
        rw [limit]
        rfl
      · change (uses.count (voucher, party) : Int) + most = most
        omega
    · rw [Function.update_of_ne different] at found
      exact within.counted other holding most found limit
  · exact within.limited

/-- A use of a voucher by one of its holders. -/
theorem use (within : Within limits redeemed held uses) {holder : ι} {holding : Holding κ σ}
    (found : held holder = some holding) :
    Within limits redeemed (Function.update held holder holding.consumed)
      (uses ++ [holding.redemption]) := by
  have others {other : ι} {next : Holding κ σ}
      (there : Function.update held holder holding.consumed other = some next) :
      ∃ before, held other = some before ∧ next.redemption = before.redemption ∧
        next.voucher = before.voucher ∧
        (other = holder ∧ before = holding ∧ holding.consumed = some next ∨
          other ≠ holder ∧ before = next) := by
    rcases eq_or_ne other holder with rfl | different
    · rw [Function.update_self] at there
      rcases Holding.consumed_redemption there with ⟨same, voucher⟩
      exact ⟨holding, found, same, voucher, Or.inl ⟨rfl, rfl, there⟩⟩
    · rw [Function.update_of_ne different] at there
      exact ⟨next, there, rfl, rfl, Or.inr ⟨different, rfl⟩⟩
  constructor
  · exact within.once
  · exact within.bounded
  · intro redemption member
    rcases List.mem_append.mp member with before | now
    · exact within.used redemption before
    · rw [List.mem_singleton] at now
      subst now
      exact within.owned holder holding found
  · intro other next there
    rcases others there with ⟨before, owned, same, -⟩
    rw [same]
    exact within.owned other before owned
  · intro one two next next' there there' same
    rcases others there with ⟨before, owned, same₁, -⟩
    rcases others there' with ⟨before', owned', same₂, -⟩
    exact within.exclusive one two before before' owned owned' (by rw [← same₁, ← same₂, same])
  · intro other next most there limit
    rw [List.count_append]
    rcases others there with ⟨before, owned, same, voucher, ⟨-, rfl, used⟩ | ⟨different, rfl⟩⟩
    · rw [voucher] at limit
      rcases within.counted holder before most found limit with ⟨left, isLeft, positive, sum⟩
      rw [Holding.consumed, isLeft] at used
      simp only at used
      split at used
      · cases used
      · rename_i more
        cases used
        refine ⟨left - 1, rfl, by omega, ?_⟩
        rw [same, List.count_singleton_self]
        push_cast
        omega
    · rcases within.counted other before most owned limit with ⟨left, isLeft, positive, sum⟩
      have apart : holding.redemption ≠ before.redemption := by
        intro equal
        exact different (within.exclusive other holder before holding owned found equal.symm)
      refine ⟨left, isLeft, positive, ?_⟩
      rw [List.count_singleton, if_neg (by simpa using apart)]
      simpa using sum
  · intro redemption most limit
    rw [List.count_append]
    rcases eq_or_ne holding.redemption redemption with rfl | different
    · rcases within.counted holder holding most found limit with ⟨left, -, positive, sum⟩
      rw [List.count_singleton_self]
      omega
    · rw [List.count_singleton, if_neg (by simpa using different), Nat.add_zero]
      exact within.limited redemption most limit

end Within
end Numu.Voucher
