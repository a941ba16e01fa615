import Numu.Foundation.Json
import Numu.Foundation.Recency
import Numu.Foundation.Run

/-! What a product or a category remembers of the slugs it had before. -/

namespace Numu.Catalog

/-- `MAX_PREVIOUS_SLUGS`. -/
def maxPreviousSlugs : Nat := 20

/-- The column is free-form: what is no text, or an empty one, is no slug. -/
def readSlug : Json → Option String
  | .str slug => if slug = "" then none else some slug
  | _ => none

def appendSlugHistory (previous : Option (List Json)) (oldSlug newSlug : String) : List String :=
  let history := ((previous.getD []).filterMap readSlug).filter (· ≠ newSlug)
  let history :=
    if oldSlug ≠ "" ∧ oldSlug ≠ newSlug ∧ oldSlug ∉ history then history ++ [oldSlug] else history
  history.rtake maxPreviousSlugs

structure Slugged where
  slug : String
  previousSlugs : List String := []
  deriving DecidableEq, Repr

/-- A rename, as the use cases of products and of categories make it. -/
def Slugged.rename (row : Slugged) (newSlug : String) : Slugged :=
  if newSlug = row.slug then row
  else
    { slug := newSlug
      previousSlugs := appendSlugHistory (some (row.previousSlugs.map .str)) row.slug newSlug }

/-- The slugs that a row retires as it is renamed, the first one first. -/
def retired : String → List String → List String
  | _, [] => []
  | slug, newSlug :: rest =>
      if newSlug = slug then retired slug rest else slug :: retired newSlug rest

/-- The row remembers the most recent slugs of a log, and none is empty. -/
structure Slugged.Remembers (row : Slugged) (log : List String) : Prop where
  recent : row.previousSlugs = Recency.recent maxPreviousSlugs row.slug log
  filled : ∀ slug ∈ log, slug ≠ ""
  named : row.slug ≠ ""

/-- The slugs that were stored are read back. -/
theorem filterMap_readSlug {slugs : List String} (filled : ∀ slug ∈ slugs, slug ≠ "") :
    (slugs.map Json.str).filterMap readSlug = slugs := by
  induction slugs with
  | nil => rfl
  | cons slug slugs ih =>
      have named : slug ≠ "" := filled slug List.mem_cons_self
      have rest := ih fun other mem => filled other (List.mem_cons_of_mem _ mem)
      rw [List.map_cons, List.filterMap_cons, readSlug, if_neg named]
      dsimp only
      rw [rest]

/-- A slug that the history does not hold is put at its end. -/
theorem appendSlugHistory_eq {slugs : List String} {oldSlug newSlug : String}
    (filled : ∀ slug ∈ slugs, slug ≠ "") (named : oldSlug ≠ "") (changed : newSlug ≠ oldSlug)
    (fresh : oldSlug ∉ slugs) :
    appendSlugHistory (some (slugs.map .str)) oldSlug newSlug =
      Recency.retire maxPreviousSlugs oldSlug newSlug slugs := by
  have absent : oldSlug ∉ slugs.filter (· ≠ newSlug) := fun mem => fresh (List.mem_filter.mp mem).1
  rw [appendSlugHistory, Option.getD_some, filterMap_readSlug filled, if_pos ⟨named, changed.symm, absent⟩]
  rfl

namespace Slugged.Remembers
variable {row : Slugged} {log : List String}

/-- A rename retires the slug that was current. -/
theorem rename (remembers : row.Remembers log) {newSlug : String} (named : newSlug ≠ "")
    (changed : newSlug ≠ row.slug) : (row.rename newSlug).Remembers (log ++ [row.slug]) := by
  have stored : ∀ slug ∈ row.previousSlugs, slug ≠ "" := by
    intro slug mem
    rw [remembers.recent] at mem
    exact remembers.filled slug (Recency.mem_of_mem_recent mem)
  have fresh : row.slug ∉ row.previousSlugs := by
    rw [remembers.recent]
    exact Recency.not_mem_recent _ _ _
  rw [Slugged.rename, if_neg changed]
  refine ⟨?_, ?_, named⟩
  · dsimp only
    rw [appendSlugHistory_eq stored remembers.named changed fresh, remembers.recent]
    exact Recency.retire_recent changed _ log
  · intro slug mem
    rcases List.mem_append.mp mem with before | here
    · exact remembers.filled slug before
    · rw [List.mem_singleton.mp here]
      exact remembers.named

/-- Whatever it is renamed to, the row remembers what it has retired. -/
theorem run (remembers : row.Remembers log) {slugs : List String}
    (named : ∀ slug ∈ slugs, slug ≠ "") :
    (Run.run Slugged.rename row slugs).Remembers (log ++ retired row.slug slugs) := by
  induction slugs generalizing row log with
  | nil =>
      rw [Run.run_nil, retired, List.append_nil]
      exact remembers
  | cons newSlug rest ih =>
      have here : newSlug ≠ "" := named newSlug List.mem_cons_self
      have later : ∀ slug ∈ rest, slug ≠ "" := fun slug mem => named slug (List.mem_cons_of_mem _ mem)
      rw [Run.run_cons, retired]
      by_cases same : newSlug = row.slug
      · rw [if_pos same, Slugged.rename, if_pos same]
        exact ih remembers later
      · have renamed := remembers.rename here same
        have current : (row.rename newSlug).slug = newSlug := by rw [Slugged.rename, if_neg same]
        have kept := ih renamed later
        rw [current, List.append_assoc, List.singleton_append] at kept
        rw [if_neg same]
        exact kept

end Slugged.Remembers

theorem slug_run (first : String) (slugs : List String) (history : List String) :
    (Run.run Slugged.rename { slug := first, previousSlugs := history } slugs).slug =
      (first :: slugs).getLast (List.cons_ne_nil _ _) := by
  induction slugs generalizing first history with
  | nil => rfl
  | cons newSlug rest ih =>
      rw [Run.run_cons, List.getLast_cons (List.cons_ne_nil _ _), Slugged.rename]
      split
      · rename_i same
        have same : newSlug = first := same
        rw [ih, same]
      · exact ih _ _

/-- Through any renames from an empty history, a row remembers the slugs it retired last: each of
them once, no more than the history holds, never the current one. -/
theorem rename_remembers (first : String) (slugs : List String)
    (named : ∀ slug ∈ first :: slugs, slug ≠ "") :
    let row := Run.run Slugged.rename { slug := first } slugs
    row.slug = (first :: slugs).getLast (List.cons_ne_nil _ _) ∧
      row.previousSlugs = Recency.recent maxPreviousSlugs row.slug (retired first slugs) ∧
      row.previousSlugs.Nodup ∧ row.previousSlugs.length ≤ maxPreviousSlugs ∧
      row.slug ∉ row.previousSlugs := by
  intro row
  have initial : Slugged.Remembers { slug := first } [] :=
    ⟨rfl, fun _ mem => absurd mem List.not_mem_nil, named first List.mem_cons_self⟩
  have remembers := initial.run fun slug mem => named slug (List.mem_cons_of_mem _ mem)
  rw [List.nil_append] at remembers
  have recent : row.previousSlugs = _ := remembers.recent
  refine ⟨slug_run first slugs [], recent, ?_, ?_, ?_⟩
  · rw [recent]
    exact Recency.recent_nodup _ _ _
  · rw [recent]
    exact Recency.length_recent_le _ _ _
  · rw [recent]
    exact Recency.not_mem_recent _ _ _

/-- There and back again, and on to a third name. -/
theorem rename_back_remembers :
    let row := Run.run Slugged.rename { slug := "v1" } ["v2", "v1", "v3"]
    row.slug = "v3" ∧ row.previousSlugs = Recency.recent maxPreviousSlugs row.slug ["v1", "v2", "v1"] ∧
      row.previousSlugs.Nodup ∧ row.previousSlugs.length ≤ maxPreviousSlugs ∧
      row.slug ∉ row.previousSlugs :=
  rename_remembers "v1" ["v2", "v1", "v3"] (by decide)

/-- A slug that was cleared leaves no trace when the row is named again. -/
theorem empty_slug_not_remembered :
    (Run.run Slugged.rename { slug := "mug" } ["", "cup"]).previousSlugs ≠
      Recency.recent maxPreviousSlugs "cup" (retired "mug" ["", "cup"]) := by decide

end Numu.Catalog
