import Mathlib.Data.List.Dedup
import Mathlib.Data.List.DropRight
import Mathlib.Tactic.Common

/-!
# The most recent entries of a log

The entries of a log in the order in which each was last written, each of them once, without the
one that is current, and at most a number of them. A register keeps just these when whatever
becomes current is taken out of it and whatever was current is put at its end.
-/

namespace Numu.Recency

variable {α : Type*} [DecidableEq α]

/-- The last entries of the log other than the current one, the latest at the end. -/
def recent (cap : Nat) (current : α) (log : List α) : List α :=
  (log.filter (· ≠ current)).dedup.rtake cap

/-- The register after `current` has given way to `next`. -/
def retire (cap : Nat) (current next : α) (register : List α) : List α :=
  (register.filter (· ≠ next) ++ [current]).rtake cap

omit [DecidableEq α] in
theorem rtake_suffix (cap : Nat) (entries : List α) : entries.rtake cap <:+ entries :=
  List.drop_suffix _ _

omit [DecidableEq α] in
theorem rtake_append {cap : Nat} {later : List α} (earlier : List α) (enough : cap ≤ later.length) :
    (earlier ++ later).rtake cap = later.rtake cap := by
  rw [List.rtake, List.rtake, List.length_append, Nat.add_sub_assoc enough,
    List.drop_length_add_append]

theorem dedup_concat (log : List α) (last : α) :
    (log ++ [last]).dedup = log.dedup.filter (· ≠ last) ++ [last] := by
  induction log with
  | nil => rfl
  | cons entry log ih =>
      rw [List.cons_append, List.dedup_cons, ih, List.dedup_cons]
      by_cases here : entry ∈ log
      · rw [if_pos here, if_pos (List.mem_append_left _ here)]
      · by_cases same : entry = last
        · rw [if_neg here, if_pos (by simp [same]), List.filter_cons, if_neg (by simp [same])]
        · rw [if_neg here, if_neg (by simp [here, same]), List.filter_cons, if_pos (by simp [same]),
            List.cons_append]

theorem dedup_filter (keep : α → Bool) (log : List α) :
    (log.filter keep).dedup = log.dedup.filter keep := by
  induction log with
  | nil => rfl
  | cons entry log ih =>
      rw [List.filter_cons, List.dedup_cons]
      by_cases kept : keep entry = true
      · rw [if_pos kept, List.dedup_cons, ih]
        by_cases here : entry ∈ log
        · rw [if_pos here, if_pos (List.mem_filter.mpr ⟨here, kept⟩)]
        · rw [if_neg here, if_neg fun there => here (List.mem_filter.mp there).1, List.filter_cons,
            if_pos kept]
      · rw [if_neg kept, ih]
        split
        · rfl
        · rw [List.filter_cons, if_neg kept]

/-- Of distinct entries, all but one differ from a given one. -/
theorem length_le_filter_ne {entries : List α} (distinct : entries.Nodup) (gone : α) :
    entries.length ≤ (entries.filter (· ≠ gone)).length + 1 := by
  have erased := distinct.erase_eq_filter gone
  have filtered : entries.filter (· ≠ gone) = entries.erase gone := by
    rw [erased]
    exact List.filter_congr fun entry _ => decide_not
  rw [filtered, List.length_erase]
  split <;> omega

/-- Taking one entry out of the last ones, to put another at their end, forgets nothing that counts. -/
theorem retire_rtake {entries : List α} (distinct : entries.Nodup) (cap : Nat) (current next : α) :
    retire cap current next (entries.rtake cap) = retire cap current next entries := by
  rw [retire, retire]
  cases cap with
  | zero => rw [List.rtake_zero, List.rtake_zero]
  | succ cap =>
      rw [List.rtake_concat_succ, List.rtake_concat_succ]
      congr 1
      obtain ⟨earlier, split_⟩ := rtake_suffix (cap + 1) entries
      rcases Nat.lt_or_ge entries.length (cap + 1) with short | long
      · have all : entries.rtake (cap + 1) = entries := by
          rw [List.rtake, Nat.sub_eq_zero_of_le (Nat.le_of_lt short), List.drop_zero]
        rw [all]
      · have full : (entries.rtake (cap + 1)).length = cap + 1 := by
          rw [List.rtake, List.length_drop]
          omega
        have rest := length_le_filter_ne
          (distinct.sublist (rtake_suffix (cap + 1) entries).sublist) next
        rw [full] at rest
        conv_rhs => rw [← split_, List.filter_append]
        rw [rtake_append _ (Nat.le_of_succ_le_succ rest)]

/-- A register of the most recent entries is one again after the next change. -/
theorem retire_recent {current next : α} (changed : next ≠ current) (cap : Nat) (log : List α) :
    retire cap current next (recent cap current log) = recent cap next (log ++ [current]) := by
  have distinct : (log.filter (· ≠ current)).dedup.Nodup := List.nodup_dedup _
  rw [recent, retire_rtake distinct, retire, recent, List.filter_append,
    List.filter_cons_of_pos (by simpa using changed.symm), List.filter_nil, dedup_concat, dedup_filter,
    dedup_filter, List.filter_filter, List.filter_filter]
  congr 2
  exact List.filter_congr fun _ _ => Bool.and_comm _ _

theorem recent_nodup (cap : Nat) (current : α) (log : List α) : (recent cap current log).Nodup :=
  (List.nodup_dedup _).sublist (rtake_suffix _ _).sublist

theorem mem_of_mem_recent {cap : Nat} {current entry : α} {log : List α}
    (mem : entry ∈ recent cap current log) : entry ∈ log :=
  (List.mem_filter.mp (List.mem_dedup.mp ((rtake_suffix _ _).subset mem))).1

theorem not_mem_recent (cap : Nat) (current : α) (log : List α) : current ∉ recent cap current log := by
  intro mem
  have kept := List.mem_dedup.mp ((rtake_suffix _ _).subset mem)
  exact absurd rfl (of_decide_eq_true (List.mem_filter.mp kept).2)

theorem length_recent_le (cap : Nat) (current : α) (log : List α) :
    (recent cap current log).length ≤ cap := by
  rw [recent, List.rtake, List.length_drop]
  omega

end Numu.Recency
