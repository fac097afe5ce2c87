import RecallShell.Command

/-!
# The words of a text

Cutting a text into words loses its separators and nothing else. So a text has no word exactly when
it holds nothing but separators, and it is its own only word exactly when it holds something and no
separator. The arguments of a command are words of the line that it was read from.
-/

namespace RecallShell

namespace Text

variable {α : Type} {separator : α → Bool}

/-- The parts of a list, one after the other, are the list without its separators. -/
theorem flatten_splitBy (separator : α → Bool) (xs : List α) :
    (splitBy separator xs).flatten = xs.filter fun x => !separator x := by
  induction xs with
  | nil => rfl
  | cons x xs ih =>
    obtain ⟨part, parts, hp⟩ := List.exists_cons_of_ne_nil (splitBy_ne_nil separator xs)
    by_cases hx : separator x = true
    · simp [splitBy, hx, ih]
    · rw [hp] at ih
      simp [splitBy, hx, hp, ← ih]

/-- The words of a list, one after the other, are the list without its separators. -/
theorem flatten_wordsBy (separator : α → Bool) (xs : List α) :
    (wordsBy separator xs).flatten = xs.filter fun x => !separator x := by
  rw [← flatten_splitBy]
  exact List.flatten_filter_not_isEmpty

/-- What a word holds comes from the list. -/
theorem mem_of_mem_wordsBy {xs word : List α} {x : α} (hw : word ∈ wordsBy separator xs)
    (hx : x ∈ word) : x ∈ xs := by
  have h : x ∈ (wordsBy separator xs).flatten := List.mem_flatten.2 ⟨word, hw, hx⟩
  rw [flatten_wordsBy] at h
  exact (List.mem_filter.1 h).1

/-- A list has no word exactly when it holds nothing but separators. -/
theorem wordsBy_eq_nil_iff {xs : List α} :
    wordsBy separator xs = [] ↔ ∀ x ∈ xs, separator x = true := by
  constructor
  · intro h
    have hf := flatten_wordsBy separator xs
    rw [h, List.flatten_nil] at hf
    simpa using List.filter_eq_nil_iff.1 hf.symm
  · intro h
    have hf := flatten_wordsBy separator xs
    rw [List.filter_eq_nil_iff.2 (by simpa using h)] at hf
    refine List.eq_nil_iff_forall_not_mem.2 fun word hw => ?_
    exact (mem_wordsBy hw).1 (List.flatten_eq_nil_iff.1 hf word hw)

/-- A list is its own only word exactly when it holds something and no separator. -/
theorem wordsBy_eq_singleton_iff {xs : List α} :
    wordsBy separator xs = [xs] ↔ xs ≠ [] ∧ ∀ x ∈ xs, separator x = false := by
  constructor
  · intro h
    exact mem_wordsBy (h ▸ List.mem_singleton_self xs)
  · rintro ⟨hne, h⟩
    exact wordsBy_eq_singleton hne h

/-- A text has no word exactly when it is blank. -/
theorem words_eq_nil_iff {s : String} : words s = [] ↔ allBlank s.toList = true := by
  rw [words, List.map_eq_nil_iff, wordsBy_eq_nil_iff, allBlank, List.all_eq_true]

/-- A text is its own only word exactly when it holds something, and nothing blank. -/
theorem words_eq_singleton_iff {s : String} :
    words s = [s] ↔ s ≠ "" ∧ s.toList.any isBlank = false := by
  have hs : words s = [s] ↔ wordsBy isBlank s.toList = [s.toList] := by
    rw [words, List.map_eq_singleton_iff]
    constructor
    · rintro ⟨word, hw, rfl⟩
      rw [hw, String.toList_ofList]
    · intro hw
      exact ⟨s.toList, hw, String.ofList_toList⟩
  rw [hs, wordsBy_eq_singleton_iff, List.any_eq_false]
  simp

end Text

namespace Command

open Text

/-- An argument holds something, and no separator; what it holds comes from the line. -/
theorem mem_args_parse {line arg : String} (h : arg ∈ (parse line).args) :
    arg ≠ "" ∧ ∀ c ∈ arg.toList, isSeparator c = false ∧ c ∈ counted line := by
  obtain ⟨word, hw, rfl⟩ := List.mem_map.1 h
  obtain ⟨hne, hc⟩ := mem_wordsBy hw
  refine ⟨by simpa using hne, ?_⟩
  intro c hmem
  rw [String.toList_ofList] at hmem
  exact ⟨hc c hmem, mem_of_mem_wordsBy hw hmem⟩

/-- A program is the first of the arguments. -/
theorem mem_args_of_program? {c : Command} {program : String} (h : c.program? = some program) :
    program ∈ c.args :=
  List.mem_of_mem_head? h

/-- A stored entry stands for an empty command exactly when it is blank. -/
theorem isEmpty_ofEntry (entry : String) :
    (ofEntry entry).isEmpty = allBlank entry.toList := by
  rw [Bool.eq_iff_iff, isEmpty, ofEntry, foreground, List.isEmpty_iff, words_eq_nil_iff]

end Command

end RecallShell
