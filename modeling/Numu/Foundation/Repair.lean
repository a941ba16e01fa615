import Numu.Foundation.LastWrite

/-!
# Repairing the entries of a dictionary

A repair goes through a list of names with something to make an entry from, keeps the entry of the
dictionary where it is fine and replaces it where it is not. When what is made is fine, everything
is fine after one repair, and a second one does nothing.
-/

namespace Numu.Repair
open Json (assign lookup_assign)

variable {α β : Type} (fine : Option α → Option Bool) (make : String × β → Option α)

/-- One name. Whether its entry is fine is asked of the dictionary as it was at the start. -/
def repairStep (table : List (String × α)) (state : List (String × α) × Bool)
    (source : String × β) : Option (List (String × α) × Bool) := do
  if ← fine (table.lookup source.1) then
    return state
  else
    let value ← make source
    return (assign state.1 source.1 value, true)

/-- The repaired dictionary, and whether anything was replaced. -/
def repair (table : List (String × α)) (sources : List (String × β)) :
    Option (List (String × α) × Bool) :=
  sources.foldlM (repairStep fine make table) (table, false)

variable {fine make} {table : List (String × α)} {state after : List (String × α) × Bool}
  {source : String × β} {sources : List (String × β)}

/-- A step keeps everything or replaces one entry that was not fine. -/
theorem repairStep_eq_some_iff : repairStep fine make table state source = some after ↔
    (fine (table.lookup source.1) = some true ∧ after = state) ∨
    (fine (table.lookup source.1) = some false ∧ ∃ value, make source = some value ∧
      after = (assign state.1 source.1 value, true)) := by
  rw [repairStep]
  cases fine (table.lookup source.1) with
  | none => simp
  | some kept =>
      cases kept with
      | true => simp [eq_comm]
      | false => cases make source <;> simp [eq_comm]

/-- An entry was made anew for a name that was not fine. -/
def Remade (fine : Option α → Option Bool) (make : String × β → Option α)
    (table : List (String × α)) (sources : List (String × β)) (entries : List (String × α))
    (key : String) : Prop :=
  fine (table.lookup key) = some false ∧
    ∃ source ∈ sources, source.1 = key ∧ ∃ value, make source = some value ∧
      entries.lookup key = some value

theorem Remade.tail {entries : List (String × α)} {key : String}
    (remade : Remade fine make table sources entries key) :
    Remade fine make table (source :: sources) entries key := by
  obtain ⟨unfit, other, member, made⟩ := remade
  exact ⟨unfit, other, List.mem_cons_of_mem _ member, made⟩

/-- What a run of steps leaves under each key, and of each name. -/
theorem repair_run (run : sources.foldlM (repairStep fine make table) state = some after) :
    (∀ key, after.1.lookup key = state.1.lookup key ∨
      Remade fine make table sources after.1 key) ∧
    (∀ source ∈ sources, fine (table.lookup source.1) = some true ∨
      Remade fine make table sources after.1 source.1) ∧
    (after.2 = false → after = state) ∧ (state.2 = true → after.2 = true) := by
  induction sources generalizing state with
  | nil =>
      cases run
      exact ⟨fun _ => .inl rfl, fun _ member => (by cases member), fun _ => rfl, id⟩
  | cons source rest ih =>
      rw [List.foldlM_cons] at run
      obtain ⟨mid, step, run⟩ := Option.bind_eq_some_iff.mp run
      obtain ⟨keys, names, still, stays⟩ := ih run
      rcases repairStep_eq_some_iff.mp step with ⟨kept, rfl⟩ | ⟨unfit, value, made, rfl⟩
      · refine ⟨fun key => (keys key).imp_right Remade.tail, ?_, still, stays⟩
        intro other member
        rcases List.mem_cons.mp member with rfl | later
        · exact .inl kept
        · exact (names other later).imp_right Remade.tail
      · have here : Remade fine make table (source :: rest) after.1 source.1 := by
          rcases keys source.1 with same | remade
          · refine ⟨unfit, source, List.mem_cons_self, rfl, value, made, ?_⟩
            rw [same, lookup_assign, if_pos rfl]
          · exact remade.tail
        have replaced : after.2 = true := stays rfl
        refine ⟨fun key => ?_, ?_, fun unchanged => ?_, fun _ => replaced⟩
        · by_cases own : key = source.1
          · rw [own]
            exact .inr here
          · rcases keys key with same | remade
            · rw [lookup_assign, if_neg own] at same
              exact .inl same
            · exact .inr remade.tail
        · intro other member
          rcases List.mem_cons.mp member with rfl | later
          · exact .inr here
          · exact (names other later).imp_right Remade.tail
        · rw [replaced] at unchanged
          cases unchanged

/-- An entry that is fine stays. -/
theorem repair_keeps (run : repair fine make table sources = some after) {key : String}
    (kept : fine (table.lookup key) ≠ some false) : after.1.lookup key = table.lookup key := by
  rcases (repair_run run).1 key with same | remade
  · exact same
  · exact absurd remade.1 kept

theorem repair_other (run : repair fine make table sources = some after) {key : String}
    (other : ∀ source ∈ sources, source.1 ≠ key) : after.1.lookup key = table.lookup key := by
  rcases (repair_run run).1 key with same | ⟨-, source, member, named, -⟩
  · exact same
  · exact absurd named (other source member)

/-- After a repair every name has an entry that is fine, when what is made is. -/
theorem repair_fine (run : repair fine make table sources = some after)
    (good : ∀ source ∈ sources, ∀ value, make source = some value → fine (some value) = some true)
    (member : source ∈ sources) : fine (after.1.lookup source.1) = some true := by
  rcases (repair_run run).2.1 source member with kept | ⟨-, other, inside, -, value, made, found⟩
  · rw [repair_keeps run (by rw [kept]; decide), kept]
  · rw [found]
    exact good other inside value made

theorem repair_unchanged {entries : List (String × α)}
    (run : repair fine make table sources = some (entries, false)) : entries = table := by
  have same := (repair_run run).2.2.1 rfl
  exact congrArg Prod.fst same

/-- Where every entry is fine there is nothing to do. -/
theorem repair_of_fine (all : ∀ source ∈ sources, fine (table.lookup source.1) = some true) :
    repair fine make table sources = some (table, false) := by
  rw [repair]
  induction sources with
  | nil => rfl
  | cons source rest ih =>
      have step : repairStep fine make table (table, false) source = some (table, false) :=
        repairStep_eq_some_iff.mpr (.inl ⟨all source List.mem_cons_self, rfl⟩)
      rw [List.foldlM_cons, step]
      exact ih fun other member => all other (List.mem_cons_of_mem _ member)

/-- A repair returns when it can be told of every entry whether it is fine, and each entry that may
be missing can be made. -/
theorem repair_returns (told : ∀ source ∈ sources, (fine (table.lookup source.1)).isSome)
    (makes : ∀ source ∈ sources, (make source).isSome) :
    ∃ after, repair fine make table sources = some after := by
  rw [repair]
  generalize (table, false) = state
  induction sources generalizing state with
  | nil => exact ⟨state, rfl⟩
  | cons source rest ih =>
      obtain ⟨value, made⟩ := Option.isSome_iff_exists.mp (makes source List.mem_cons_self)
      obtain ⟨kept, here⟩ := Option.isSome_iff_exists.mp (told source List.mem_cons_self)
      have step : ∃ mid, repairStep fine make table state source = some mid := by
        cases kept with
        | true => exact ⟨state, repairStep_eq_some_iff.mpr (.inl ⟨here, rfl⟩)⟩
        | false => exact ⟨_, repairStep_eq_some_iff.mpr (.inr ⟨here, value, made, rfl⟩)⟩
      obtain ⟨mid, step⟩ := step
      rw [List.foldlM_cons, step]
      exact ih (fun other member => told other (List.mem_cons_of_mem _ member))
        (fun other member => makes other (List.mem_cons_of_mem _ member)) mid

end Numu.Repair
