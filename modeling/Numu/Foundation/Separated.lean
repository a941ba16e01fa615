import Mathlib.Data.List.Basic
import Mathlib.Data.List.Infix

/-!
# Texts cut at a separator

`split` and `rsplitOnce` are Python's `split(sep, n)` and `rsplit(sep, 1)`.
-/

namespace Numu.Separated

variable {α : Type*} [DecidableEq α] (sep : α)

/-- What stands before the first separator and what stands after it. -/
def cut : List α → Option (List α × List α)
  | [] => none
  | c :: rest =>
      if c = sep then some ([], rest)
      else (cut rest).map fun parts => (c :: parts.1, parts.2)

/-- What stands before the last separator and what stands after it. -/
def cutLast (text : List α) : Option (List α × List α) :=
  (cut sep text.reverse).map fun parts => (parts.2.reverse, parts.1.reverse)

def split : Nat → List α → List (List α)
  | 0, text => [text]
  | n + 1, text =>
      match cut sep text with
      | none => [text]
      | some (before, after) => before :: split n after

def rsplitOnce (text : List α) : List (List α) :=
  match cutLast sep text with
  | none => [text]
  | some (before, after) => [before, after]

variable {sep} {text before after : List α}

theorem cut_append (clean : sep ∉ before) : cut sep (before ++ sep :: after) = some (before, after) := by
  induction before with
  | nil => rw [List.nil_append, cut, if_pos rfl]
  | cons c before ih =>
      rw [List.mem_cons, not_or] at clean
      rw [List.cons_append, cut, if_neg (Ne.symm clean.1), ih clean.2]
      rfl

theorem cutLast_append (clean : sep ∉ after) :
    cutLast sep (before ++ sep :: after) = some (before, after) := by
  have turned : (before ++ sep :: after).reverse = after.reverse ++ sep :: before.reverse := by simp
  have clean : sep ∉ after.reverse := fun mem => clean (List.mem_reverse.mp mem)
  rw [cutLast, turned, cut_append clean, Option.map_some, List.reverse_reverse, List.reverse_reverse]

/-- Joining the parts gives the text. -/
theorem eq_of_cut (found : cut sep text = some (before, after)) : text = before ++ sep :: after := by
  induction text generalizing before with
  | nil => cases found
  | cons c rest ih =>
      rw [cut] at found
      by_cases here : c = sep
      · rw [if_pos here] at found
        cases found
        rw [here, List.nil_append]
      · rw [if_neg here, Option.map_eq_some_iff] at found
        obtain ⟨⟨first, last⟩, found, parts⟩ := found
        cases parts
        rw [ih found, List.cons_append]

theorem eq_of_cutLast (found : cutLast sep text = some (before, after)) :
    text = before ++ sep :: after := by
  rw [cutLast, Option.map_eq_some_iff] at found
  obtain ⟨⟨last, first⟩, found, parts⟩ := found
  cases parts
  have turned := congrArg List.reverse (eq_of_cut found)
  simpa using turned

theorem join_split (n : Nat) (text : List α) : [sep].intercalate (split sep n text) = text := by
  induction n generalizing text with
  | zero => simp [split, List.intercalate]
  | succ n ih =>
      rw [split]
      cases found : cut sep text with
      | none => simp [List.intercalate]
      | some parts =>
          obtain ⟨before, after⟩ := parts
          dsimp only
          have whole := ih after
          cases later : split sep n after with
          | nil =>
              cases n with
              | zero => cases later
              | succ n =>
                  rw [split] at later
                  split at later <;> cases later
          | cons first rest =>
              rw [later] at whole
              rw [List.intercalate_cons_cons, whole, eq_of_cut found, List.append_assoc,
                List.singleton_append]

/-- A text of three parts is its parts with separators between them. -/
theorem eq_of_split_two {first second third : List α}
    (parts : split sep 2 text = [first, second, third]) :
    text = first ++ sep :: (second ++ sep :: third) := by
  have whole := @join_split α _ sep 2 text
  rw [parts] at whole
  simpa [List.intercalate] using whole.symm

/-- Only the last of the parts may hold the separator. -/
theorem split_two {first second third : List α} (clean : sep ∉ first) (clean' : sep ∉ second) :
    split sep 2 (first ++ sep :: (second ++ sep :: third)) = [first, second, third] := by
  rw [split, cut_append clean]
  dsimp only
  rw [split, cut_append clean']
  rfl

/-- Two separators make three parts. -/
theorem exists_split_two (first second third : List α) :
    ∃ head middle last,
      split sep 2 (first ++ sep :: (second ++ sep :: third)) = [head, middle, last] := by
  have cuttable (before after : List α) :
      ∃ head rest, cut sep (before ++ sep :: after) = some (head, rest ++ after) := by
    induction before with
    | nil => exact ⟨[], [], by rw [List.nil_append, cut, if_pos rfl, List.nil_append]⟩
    | cons c before ih =>
        obtain ⟨head, rest, found⟩ := ih
        by_cases here : c = sep
        · exact ⟨[], before ++ [sep], by simp [cut, here]⟩
        · exact ⟨c :: head, rest, by rw [List.cons_append, cut, if_neg here, found]; rfl⟩
  obtain ⟨head, rest, found⟩ := cuttable first (second ++ sep :: third)
  obtain ⟨middle, rest', found'⟩ := cuttable (rest ++ second) third
  rw [List.append_assoc] at found'
  refine ⟨head, middle, rest' ++ third, ?_⟩
  rw [split, found]
  dsimp only
  rw [split, found']
  rfl

theorem rsplitOnce_append (clean : sep ∉ after) :
    rsplitOnce sep (before ++ sep :: after) = [before, after] := by
  rw [rsplitOnce, cutLast_append clean]

theorem eq_of_rsplitOnce (parts : rsplitOnce sep text = [before, after]) :
    text = before ++ sep :: after := by
  rw [rsplitOnce] at parts
  cases found : cutLast sep text with
  | none =>
      rw [found] at parts
      cases parts
  | some both =>
      rw [found] at parts
      cases parts
      exact eq_of_cutLast found

end Numu.Separated
