import RecallShell.Proofs.Text.Runs

/-!
# The arguments of a line

A line loses a line feed at its end and then a carriage return; of what is left the first characters
count. The arguments of the command are the runs of other characters than spaces, tabs and
ampersands among those, whatever else they hold, and an ampersand among them is all that asks for
the background.
-/

namespace RecallShell

namespace Text

variable {c : Char} {cs rest body : List Char}

/-- Some characters become others by losing a given one at their end, if it stands there. -/
def LosesAtEnd (c : Char) (cs rest : List Char) : Prop :=
  cs = rest ++ [c] ∨ cs.getLast? ≠ some c ∧ cs = rest

/-- The body of a line is what is left of it when it has lost a line feed at its end and then a
carriage return. -/
def IsBody (cs body : List Char) : Prop :=
  ∃ ended, LosesAtEnd '\n' cs ended ∧ LosesAtEnd '\r' ended body

/-- There is one thing to become. -/
theorem losesAtEnd_iff : LosesAtEnd c cs rest ↔ rest = dropOneAtEnd c cs := by
  unfold dropOneAtEnd
  constructor
  · rintro (rfl | ⟨hlast, rfl⟩)
    · rw [if_pos List.getLast?_concat, List.dropLast_concat]
    · rw [if_neg hlast]
  · rintro rfl
    split
    · next hlast =>
      obtain ⟨before, rfl⟩ := List.getLast?_eq_some_iff.1 hlast
      exact Or.inl (by rw [List.dropLast_concat])
    · next hlast => exact Or.inr ⟨hlast, rfl⟩

/-- A line has one body. -/
theorem isBody_iff : IsBody cs body ↔ body = chomp cs := by
  constructor
  · rintro ⟨ended, hended, hbody⟩
    rw [losesAtEnd_iff.1 hbody, losesAtEnd_iff.1 hended, chomp]
  · rintro rfl
    exact ⟨_, losesAtEnd_iff.2 rfl, losesAtEnd_iff.2 rfl⟩

/-- The body of a line with both parts of a terminator behind it is that line. -/
theorem isBody_append (cs : List Char) : IsBody (cs ++ ['\r', '\n']) cs :=
  ⟨cs ++ ['\r'], Or.inl (by simp), Or.inl rfl⟩

end Text

namespace Command

open Text

/-- Some arguments are the runs of characters other than spaces, tabs and ampersands. -/
def RunsOf (cs : List Char) (args : List String) : Prop :=
  AreRuns (fun c => decide (c ∈ [' ', '\t', '&'])) cs (args.map String.toList)

/-- Arguments are separated by spaces, tabs and ampersands. -/
theorem isSeparator_eq : isSeparator = fun c => decide (c ∈ [' ', '\t', '&']) := by
  funext c
  rw [Bool.eq_iff_iff]
  simp [isSeparator, ampersand, or_assoc]

/-- The runs of some characters are their words. -/
theorem runsOf_iff {cs : List Char} {args : List String} :
    RunsOf cs args ↔ args.map String.toList = wordsBy isSeparator cs := by
  rw [RunsOf, ← isSeparator_eq, areRuns_iff]

/-- What counts of a line is the beginning of its body. -/
theorem counted_eq_take {line : String} {body : List Char} (h : IsBody line.toList body) :
    counted line = body.take maxLine := by
  rw [counted, isBody_iff.1 h]

/-- The arguments are the words of what counts, character by character. -/
theorem map_toList_args_parse (line : String) :
    (parse line).args.map String.toList = wordsBy isSeparator (counted line) := by
  simp [parse, Function.comp_def]

/-- An ampersand that counts asks for the background. -/
theorem background_parse_iff {line : String} :
    (parse line).background = true ↔ ampersand ∈ counted line := by
  rw [parse, List.contains_iff_mem]

/-- The arguments of a line are the runs of characters other than spaces, tabs and ampersands in the
first eighty of its body; put together they are those characters without the three. An ampersand
among them, and nothing else, asks for the background. -/
theorem parse_reads_runs (line : String) :
    ∃ body, IsBody line.toList body ∧ RunsOf (body.take 80) (parse line).args ∧
      ((parse line).args.map String.toList).flatten =
        (body.take 80).filter (fun c => decide (c ∉ [' ', '\t', '&'])) ∧
      ((parse line).background = true ↔ '&' ∈ body.take 80) := by
  have hbody : IsBody line.toList (chomp line.toList) := isBody_iff.2 rfl
  have hcounted : counted line = (chomp line.toList).take 80 := counted_eq_take hbody
  have hargs := map_toList_args_parse line
  rw [hcounted] at hargs
  refine ⟨chomp line.toList, hbody, runsOf_iff.2 hargs, ?_, ?_⟩
  · rw [hargs, flatten_wordsBy, isSeparator_eq]
    simp only [decide_not]
  · rw [background_parse_iff, hcounted]
    rfl

end Command

end RecallShell
