import Mathlib.Data.List.Basic
import Mathlib.Data.List.Perm.Basic
import Mathlib.Data.List.SplitOn
import Mathlib.Data.List.TakeWhile

/-!
# Words of a text

The words of a text stand between its separators, `trim` takes marks off its two ends, and
`FirstAppearances` are the distinct items of a list in the order in which they first stand there.
-/

namespace Numu.Words

variable {α : Type*}

def words [DecidableEq α] (sep : α → Bool) (text : List α) : List (List α) :=
  (text.splitOnP sep).filter (· ≠ [])

def trim (mark : α → Bool) (text : List α) : List α :=
  ((text.dropWhile mark).reverse.dropWhile mark).reverse

section Words
variable [DecidableEq α] {sep : α → Bool} {text gap word rest : List α}

/-- Nothing is left of a text, or it goes on with a separator. -/
def Ends (sep : α → Bool) (rest : List α) : Prop :=
  rest = [] ∨ ∃ mark more, rest = mark :: more ∧ sep mark = true

theorem words_nil : words sep [] = [] := rfl

theorem words_append_cons (text more : List α) {mark : α} (marks : sep mark = true) :
    words sep (text ++ mark :: more) = words sep text ++ words sep more := by
  rw [words, List.splitOnP_append_cons _ _ marks, List.filter_append]
  rfl

theorem words_cons (more : List α) {mark : α} (marks : sep mark = true) :
    words sep (mark :: more) = words sep more :=
  words_append_cons [] more marks

theorem words_gap_append (blank : ∀ c ∈ gap, sep c = true) (text : List α) :
    words sep (gap ++ text) = words sep text := by
  induction gap with
  | nil => rfl
  | cons c gap ih =>
      rw [List.cons_append, words_cons _ (blank c List.mem_cons_self),
        ih fun d mem => blank d (List.mem_cons_of_mem _ mem)]

theorem words_gap (blank : ∀ c ∈ gap, sep c = true) : words sep gap = [] := by
  rw [← List.append_nil gap, words_gap_append blank, words_nil]

theorem words_append_gap (blank : ∀ c ∈ gap, sep c = true) (text : List α) :
    words sep (text ++ gap) = words sep text := by
  cases gap with
  | nil => rw [List.append_nil]
  | cons c gap =>
      rw [words_append_cons text gap (blank c List.mem_cons_self),
        words_gap fun d mem => blank d (List.mem_cons_of_mem _ mem), List.append_nil]

theorem words_word (solid : word ≠ []) (clean : ∀ c ∈ word, sep c = false) :
    words sep word = [word] := by
  rw [words, List.splitOnP_eq_singleton clean]
  exact List.filter_cons_of_pos (decide_eq_true solid)

theorem words_word_append (solid : word ≠ []) (clean : ∀ c ∈ word, sep c = false)
    (ends : Ends sep rest) : words sep (word ++ rest) = word :: words sep rest := by
  rcases ends with rfl | ⟨mark, more, rfl, marks⟩
  · rw [List.append_nil, words_word solid clean, words_nil]
  · rw [words_append_cons word more marks, words_word solid clean, words_cons more marks]
    rfl

omit [DecidableEq α] in
/-- A text is all separators, or a word stands in it after some. -/
theorem gap_or_word (sep : α → Bool) (text : List α) :
    (∀ c ∈ text, sep c = true) ∨
      ∃ gap word rest, text = gap ++ (word ++ rest) ∧ (∀ c ∈ gap, sep c = true) ∧ word ≠ [] ∧
        (∀ c ∈ word, sep c = false) ∧ Ends sep rest := by
  have blank : ∀ c ∈ text.takeWhile sep, sep c = true := fun c mem => List.mem_takeWhile_imp mem
  have parts : text.takeWhile sep ++ text.dropWhile sep = text := List.takeWhile_append_dropWhile
  cases later : text.dropWhile sep with
  | nil =>
      rw [later, List.append_nil] at parts
      rw [parts] at blank
      exact Or.inl blank
  | cons c more =>
      have solid : sep c = false := by
        have first := List.head?_dropWhile_not sep text
        rw [later] at first
        exact first
      let starts := fun d => !sep d
      refine Or.inr ⟨_, (c :: more).takeWhile starts, (c :: more).dropWhile starts, ?_, blank, ?_, ?_, ?_⟩
      · rw [List.takeWhile_append_dropWhile, ← later, parts]
      · rw [List.takeWhile_cons_of_pos (by simp [starts, solid])]
        exact List.cons_ne_nil _ _
      · intro d mem
        simpa [starts] using List.mem_takeWhile_imp mem
      · cases after : (c :: more).dropWhile starts with
        | nil => exact Or.inl rfl
        | cons mark others =>
            have first := List.head?_dropWhile_not starts (c :: more)
            rw [after] at first
            exact Or.inr ⟨mark, others, rfl, by simpa [starts] using first⟩

omit [DecidableEq α] in
/-- Induction on a text, word by word. -/
theorem text_induction (sep : α → Bool) {motive : List α → Prop}
    (done : ∀ gap, (∀ c ∈ gap, sep c = true) → motive gap)
    (step : ∀ gap word rest, (∀ c ∈ gap, sep c = true) → word ≠ [] → (∀ c ∈ word, sep c = false) →
      Ends sep rest → motive rest → motive (gap ++ (word ++ rest))) (text : List α) : motive text := by
  induction size : text.length using Nat.strong_induction_on generalizing text with
  | _ length ih =>
      rcases gap_or_word sep text with blank | found
      · exact done text blank
      · obtain ⟨gap, word, rest, rfl, blank, solid, clean, ends⟩ := found
        refine step gap word rest blank solid clean ends (ih rest.length ?_ rest rfl)
        rw [← size, List.length_append, List.length_append]
        have long := List.length_pos_iff.mpr solid
        omega

theorem mem_words (mem : word ∈ words sep text) :
    word ≠ [] ∧ ∀ c ∈ word, c ∈ text ∧ sep c = false := by
  induction text using text_induction sep with
  | done gap blank =>
      rw [words_gap blank] at mem
      cases mem
  | step gap first rest blank solid clean ends ih =>
      rw [words_gap_append blank, words_word_append solid clean ends, List.mem_cons] at mem
      rcases mem with rfl | later
      · exact ⟨solid, fun c inside =>
          ⟨List.mem_append_right _ (List.mem_append_left _ inside), clean c inside⟩⟩
      · obtain ⟨solid', others⟩ := ih later
        exact ⟨solid', fun c inside =>
          ⟨List.mem_append_right _ (List.mem_append_right _ (others c inside).1), (others c inside).2⟩⟩

end Words

section Trim
variable {mark : α → Bool} {front back guard guard' word : List α}

theorem trim_append (marks : ∀ c ∈ front, mark c = true) (marks' : ∀ c ∈ back, mark c = true)
    (text : List α) : trim mark (front ++ (text ++ back)) = trim mark text := by
  rw [trim, List.dropWhile_append_of_pos marks, List.dropWhile_append]
  split
  · rename_i empty
    rw [List.dropWhile_eq_nil_iff.mpr marks', trim, List.isEmpty_iff.mp empty]
  · rw [List.reverse_append, List.dropWhile_append_of_pos fun c mem => marks' c (List.mem_reverse.mp mem)]
    rfl

theorem trim_eq_self (clean : ∀ c ∈ word, mark c = false) : trim mark word = word := by
  have keep (text : List α) (clean : ∀ c ∈ text, mark c = false) : text.dropWhile mark = text := by
    cases text with
    | nil => rfl
    | cons c rest => rw [List.dropWhile_cons_of_neg (by simp [clean c List.mem_cons_self])]
  rw [trim, keep word clean, keep word.reverse fun c mem => clean c (List.mem_reverse.mp mem),
    List.reverse_reverse]

/-- Only marks are taken off. -/
theorem exists_trim (mark : α → Bool) (text : List α) :
    ∃ front back, text = front ++ (trim mark text ++ back) ∧ (∀ c ∈ front, mark c = true) ∧
      ∀ c ∈ back, mark c = true := by
  refine ⟨text.takeWhile mark, ((text.dropWhile mark).reverse.takeWhile mark).reverse, ?_, ?_, ?_⟩
  · rw [trim, ← List.reverse_append, List.takeWhile_append_dropWhile, List.reverse_reverse,
      List.takeWhile_append_dropWhile]
  · exact fun c mem => List.mem_takeWhile_imp mem
  · exact fun c mem => List.mem_takeWhile_imp (List.mem_reverse.mp mem)

theorem trim_trim (mark : α → Bool) (text : List α) : trim mark (trim mark text) = trim mark text := by
  obtain ⟨front, back, whole, marks, marks'⟩ := exists_trim mark text
  have kept := trim_append marks marks' (trim mark text)
  rw [← whole] at kept
  exact kept.symm

/-- Marks are taken off behind a guard only if there is none. -/
theorem dropWhile_guarded (solid : ∀ c ∈ guard, mark c = false) (inner : ∃ c ∈ word, mark c = false)
    (tail : List α) :
    ∃ gap word', word = gap ++ word' ∧ (∀ c ∈ gap, mark c = true) ∧ (∃ c ∈ word', mark c = false) ∧
      (guard ++ (word ++ tail)).dropWhile mark = guard ++ (word' ++ tail) := by
  cases guard with
  | cons c guard =>
      refine ⟨[], word, rfl, fun c mem => absurd mem List.not_mem_nil, inner, ?_⟩
      rw [List.cons_append, List.dropWhile_cons_of_neg (by simp [solid c List.mem_cons_self])]
  | nil =>
      have parts : word.takeWhile mark ++ word.dropWhile mark = word := List.takeWhile_append_dropWhile
      have blank : ∀ c ∈ word.takeWhile mark, mark c = true := fun c mem => List.mem_takeWhile_imp mem
      obtain ⟨c, mem, found⟩ := inner
      have later : c ∈ word.dropWhile mark := by
        rw [← parts, List.mem_append] at mem
        rcases mem with early | late
        · rw [blank c early] at found
          cases found
        · exact late
      refine ⟨_, _, parts.symm, blank, ⟨c, later, found⟩, ?_⟩
      rw [List.nil_append, List.dropWhile_append, if_neg, List.nil_append]
      rw [List.isEmpty_iff]
      exact List.ne_nil_of_mem later

theorem trim_guarded (solid : ∀ c ∈ guard, mark c = false) (solid' : ∀ c ∈ guard', mark c = false)
    (inner : ∃ c ∈ word, mark c = false) :
    ∃ front word' back, word = front ++ (word' ++ back) ∧ (∀ c ∈ front, mark c = true) ∧
      (∀ c ∈ back, mark c = true) ∧
      trim mark (guard ++ (word ++ guard')) = guard ++ (word' ++ guard') := by
  obtain ⟨front, later, split_, blank, inner, dropped⟩ := dropWhile_guarded solid inner guard'
  have inner_ : ∃ c ∈ later.reverse, mark c = false := by
    obtain ⟨c, mem, found⟩ := inner
    exact ⟨c, List.mem_reverse.mpr mem, found⟩
  obtain ⟨gap, kept, turned, blank', -, dropped'⟩ :=
    dropWhile_guarded (fun c mem => solid' c (List.mem_reverse.mp mem)) inner_ guard.reverse
  have later_ : later = kept.reverse ++ gap.reverse := by
    rw [← List.reverse_append, ← turned, List.reverse_reverse]
  refine ⟨front, kept.reverse, gap.reverse, by rw [split_, later_], blank,
    fun c mem => blank' c (List.mem_reverse.mp mem), ?_⟩
  have whole : (guard ++ (later ++ guard')).reverse =
      guard'.reverse ++ (later.reverse ++ guard.reverse) := by
    rw [List.reverse_append, List.reverse_append, List.append_assoc]
  rw [trim, dropped, whole, dropped', List.reverse_append, List.reverse_append, List.reverse_reverse,
    List.reverse_reverse, List.append_assoc]

end Trim

section Firsts
variable [DecidableEq α] {listed firsts firsts' : List α}

/-- The distinct items of a list, in the order in which they first stand there. -/
structure FirstAppearances (listed firsts : List α) : Prop where
  mem : ∀ item, item ∈ firsts ↔ item ∈ listed
  ordered : firsts.Pairwise fun first second => listed.idxOf first < listed.idxOf second

def addNew (firsts : List α) (item : α) : List α :=
  if item ∈ firsts then firsts else firsts ++ [item]

theorem FirstAppearances.nil : FirstAppearances ([] : List α) [] := ⟨fun _ => Iff.rfl, .nil⟩

theorem FirstAppearances.addNew (first : FirstAppearances listed firsts) (item : α) :
    FirstAppearances (listed ++ [item]) (addNew firsts item) := by
  have kept : firsts.Pairwise fun first second =>
      (listed ++ [item]).idxOf first < (listed ++ [item]).idxOf second := by
    refine first.ordered.imp_of_mem fun mem mem' earlier => ?_
    rwa [List.idxOf_append_of_mem ((first.mem _).mp mem),
      List.idxOf_append_of_mem ((first.mem _).mp mem')]
  rw [Words.addNew]
  split
  · rename_i known
    refine ⟨fun other => ?_, kept⟩
    rw [first.mem, List.mem_append, List.mem_singleton]
    constructor
    · exact Or.inl
    · rintro (old | rfl)
      · exact old
      · exact (first.mem _).mp known
  · rename_i fresh
    refine ⟨fun other => ?_, List.pairwise_append.mpr ⟨kept, List.pairwise_singleton _ _, ?_⟩⟩
    · rw [List.mem_append, List.mem_append, first.mem]
    · intro earlier mem last same
      rw [List.mem_singleton] at same
      subst same
      have old := (first.mem _).mp mem
      have new : last ∉ listed := fun there => fresh ((first.mem _).mpr there)
      rw [List.idxOf_append_of_mem old, List.idxOf_append_of_notMem new]
      exact Nat.lt_add_right _ (List.idxOf_lt_length_of_mem old)

/-- A loop that adds what is new leaves the first appearances. -/
theorem FirstAppearances.foldl (first : FirstAppearances listed firsts) (items : List α) :
    FirstAppearances (listed ++ items) (items.foldl Words.addNew firsts) := by
  induction items generalizing listed firsts with
  | nil => rwa [List.append_nil]
  | cons item items ih =>
      have whole := ih (first.addNew item)
      rwa [List.append_assoc, List.singleton_append] at whole

theorem FirstAppearances.nodup (first : FirstAppearances listed firsts) : firsts.Nodup := by
  refine first.ordered.imp fun earlier => ?_
  rintro rfl
  exact Nat.lt_irrefl _ earlier

theorem FirstAppearances.unique (first : FirstAppearances listed firsts)
    (first' : FirstAppearances listed firsts') : firsts = firsts' := by
  have perm : firsts.Perm firsts' :=
    (List.perm_ext_iff_of_nodup first.nodup first'.nodup).mpr fun item => by rw [first.mem, first'.mem]
  exact perm.eq_of_pairwise (fun _ _ _ _ earlier later => absurd earlier (Nat.lt_asymm later))
    first.ordered first'.ordered

theorem firstAppearances_iff :
    FirstAppearances listed firsts ↔ firsts = listed.foldl Words.addNew [] := by
  have folded := FirstAppearances.nil.foldl listed
  rw [List.nil_append] at folded
  constructor
  · exact fun first => first.unique folded
  · rintro rfl
    exact folded

end Firsts

end Numu.Words
