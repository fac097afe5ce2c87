import Mathlib.Algebra.Ring.Nat
import RecallShell.Proofs.Command.Arguments

/-!
# Spelling commands out

A command can be spelled out in a line when its arguments hold something, and no separator, and when
there is room for them. Between two arguments there has to be a separator, and a command for the
background needs an ampersand; one of the separators can be that ampersand. Every line that asks for
a command pays this price, and the spelling pays no more.
-/

namespace RecallShell

namespace Text

variable {α : Type} {separator : α → Bool} {s : α} {words : List (List α)}

/-- A list has one part more than separators. -/
theorem length_splitBy (separator : α → Bool) (xs : List α) :
    (splitBy separator xs).length = xs.countP separator + 1 := by
  induction xs with
  | nil => rfl
  | cons x xs ih =>
    cases hx : separator x <;> simp [splitBy, hx, ih]

/-- Words are kept apart by separators. -/
theorem length_wordsBy_le (separator : α → Bool) (xs : List α) :
    (wordsBy separator xs).length ≤ xs.countP separator + 1 :=
  length_splitBy separator xs ▸ List.length_filter_le _ _

/-- What a list holds is in its words, or separates. -/
theorem sum_length_wordsBy (separator : α → Bool) (xs : List α) :
    ((wordsBy separator xs).map List.length).sum + xs.countP separator = xs.length := by
  rw [← List.length_flatten, flatten_wordsBy, ← List.countP_eq_length_filter, Nat.add_comm,
    List.length_eq_countP_add_countP separator]
  simp

/-- Words with a separator between them are the words of what they make up. -/
theorem wordsBy_intercalate (hs : separator s = true)
    (h : ∀ word ∈ words, word ≠ [] ∧ ∀ x ∈ word, separator x = false) :
    wordsBy separator ([s].intercalate words) = words := by
  induction words with
  | nil => rfl
  | cons word words ih =>
    obtain ⟨hword, hwords⟩ := List.forall_mem_cons.1 h
    have hsingle := wordsBy_eq_singleton hword.1 hword.2
    cases words with
    | nil => rw [List.intercalate_singleton, hsingle]
    | cons next words =>
      rw [List.intercalate_cons_cons, List.append_assoc, List.singleton_append,
        wordsBy_append_cons hs, hsingle, ih hwords, List.singleton_append]

/-- What is put between words takes a place for each word but one. -/
theorem length_intercalate (s : α) (words : List (List α)) :
    ([s].intercalate words).length = (words.map List.length).sum + (words.length - 1) := by
  induction words with
  | nil => rfl
  | cons word words ih =>
    cases words with
    | nil => simp
    | cons next words =>
      rw [List.intercalate_cons_cons, List.length_append, List.length_append, ih]
      simp only [List.map_cons, List.sum_cons, List.length_cons, List.length_nil]
      omega

/-- What stands in words with something put between them stands in one of the words or between
two. -/
theorem mem_intercalate_iff {x : α} :
    x ∈ [s].intercalate words ↔ (∃ word ∈ words, x ∈ word) ∨ 1 < words.length ∧ x = s := by
  induction words with
  | nil => simp
  | cons word words ih =>
    cases words with
    | nil => simp
    | cons next words =>
      rw [List.intercalate_cons_cons, List.mem_append, List.mem_append, ih, List.mem_singleton]
      simp only [List.mem_cons, List.length_cons, exists_eq_or_imp]
      constructor
      · rintro ((hx | rfl) | ((hx | hx) | ⟨-, rfl⟩))
        · exact Or.inl (Or.inl hx)
        · exact Or.inr ⟨by omega, rfl⟩
        · exact Or.inl (Or.inr (Or.inl hx))
        · exact Or.inl (Or.inr (Or.inr hx))
        · exact Or.inr ⟨by omega, rfl⟩
      · rintro ((hx | hx | hx) | ⟨-, rfl⟩)
        · exact Or.inl (Or.inl hx)
        · exact Or.inr (Or.inl (Or.inl hx))
        · exact Or.inr (Or.inl (Or.inr hx))
        · exact Or.inl (Or.inr rfl)

end Text

namespace Command

open Text

variable {c : Command}

/-- What a command needs besides its arguments: something between two of them, and an ampersand
for the background. -/
def overhead (c : Command) : Nat := max (c.args.length - 1) (if c.background then 1 else 0)

/-- A command whose arguments could be read off a line: they hold something, and no separator. -/
def Readable (c : Command) : Prop :=
  ∀ arg ∈ c.args, arg ≠ "" ∧ ∀ x ∈ arg.toList, isSeparator x = false

/-- What a command needs is part of every line that asks for it. -/
theorem overhead_parse_le (line : String) :
    (parse line).overhead ≤ (counted line).countP isSeparator := by
  have hargs : (parse line).args.length = (wordsBy isSeparator (counted line)).length := by
    rw [← map_toList_args_parse, List.length_map]
  have hle := length_wordsBy_le isSeparator (counted line)
  have hmark : (parse line).background = true → 0 < (counted line).countP isSeparator :=
    fun h => List.countP_pos_iff.2 ⟨ampersand, background_parse_iff.1 h, rfl⟩
  unfold overhead
  split
  · next hbackground =>
    have hpos := hmark hbackground
    omega
  · omega

/-- A line has room for the command that it asks for. -/
theorem length_args_parse_le (line : String) :
    ((parse line).args.map String.length).sum + (parse line).overhead ≤ maxLine := by
  have hlength : (parse line).args.map String.length =
      (wordsBy isSeparator (counted line)).map List.length := by
    rw [← map_toList_args_parse, List.map_map]
    exact List.map_congr_left fun arg _ => String.length_toList.symm
  have hsum := sum_length_wordsBy isSeparator (counted line)
  have hle : (counted line).length ≤ maxLine := List.length_take_le _ _
  have hoverhead := overhead_parse_le line
  rw [hlength]
  omega

/-- What stands between the arguments in the spelling of a command. -/
def gap (c : Command) : Char := if c.background then ampersand else ' '

/-- What stands behind the arguments: the ampersand that does not fit between them. -/
def tail (c : Command) : List Char :=
  if c.background ∧ c.args.length ≤ 1 then [ampersand] else []

/-- The spelling of a command, as far as it counts. -/
def body (c : Command) : List Char := [c.gap].intercalate (c.args.map String.toList) ++ c.tail

/-- The line that spells a command out. Its last argument may end in a carriage return or a line
feed of its own, so the line has both parts of a terminator. -/
def spell (c : Command) : String := String.ofList (c.body ++ ['\r', '\n'])

/-- What stands between arguments separates them. -/
theorem isSeparator_gap (c : Command) : isSeparator c.gap = true := by
  unfold gap
  split <;> rfl

/-- What a command needs stands between its arguments and behind them. -/
theorem overhead_eq (c : Command) : c.overhead = c.args.length - 1 + c.tail.length := by
  unfold overhead tail
  cases c.background with
  | false => simp
  | true =>
    by_cases hfew : c.args.length ≤ 1
    · have hnone : c.args.length - 1 = 0 := by omega
      simp [hfew, hnone]
    · have hsome : 1 ≤ c.args.length - 1 := by omega
      simp [hfew, hsome]

/-- A spelling takes no more room than every line for the command does. -/
theorem length_body (c : Command) :
    c.body.length = (c.args.map String.length).sum + c.overhead := by
  have hlength : (c.args.map String.toList).map List.length = c.args.map String.length := by
    rw [List.map_map]
    exact List.map_congr_left fun arg _ => String.length_toList
  rw [body, List.length_append, length_intercalate, hlength, List.length_map, overhead_eq,
    Nat.add_assoc]

/-- The words of a spelling are the arguments. -/
theorem wordsBy_body (h : c.Readable) : wordsBy isSeparator c.body = c.args.map String.toList := by
  have hargs : wordsBy isSeparator ([c.gap].intercalate (c.args.map String.toList)) =
      c.args.map String.toList := by
    refine wordsBy_intercalate c.isSeparator_gap fun word hword => ?_
    obtain ⟨arg, harg, rfl⟩ := List.mem_map.1 hword
    exact ⟨by simpa using (h arg harg).1, (h arg harg).2⟩
  rw [body, tail]
  split
  · rw [wordsBy_append_cons rfl, hargs, wordsBy_nil, List.append_nil]
  · rw [List.append_nil, hargs]

/-- A spelling holds an ampersand exactly when the command is for the background. -/
theorem ampersand_mem_body_iff (h : c.Readable) : ampersand ∈ c.body ↔ c.background = true := by
  have hargs : ¬∃ word ∈ c.args.map String.toList, ampersand ∈ word := by
    rintro ⟨word, hword, hmem⟩
    obtain ⟨arg, harg, rfl⟩ := List.mem_map.1 hword
    exact Bool.false_ne_true (((h arg harg).2 _ hmem).symm.trans rfl)
  rw [body, List.mem_append, mem_intercalate_iff, or_iff_right hargs, List.length_map, gap, tail]
  cases c.background with
  | false => simp [ampersand]
  | true =>
    by_cases hmany : 1 < c.args.length
    · simp [hmany]
    · simp [Nat.not_lt.1 hmany]

/-- A command that could be read and for which there is room is what its spelling asks for. -/
theorem parse_spell (h : c.Readable)
    (hroom : (c.args.map String.length).sum + c.overhead ≤ maxLine) : parse c.spell = c := by
  have hcounted : counted c.spell = c.body := by
    have hbody : IsBody c.spell.toList c.body := by
      rw [spell, String.toList_ofList]
      exact isBody_append c.body
    rw [counted_eq_take hbody, List.take_of_length_le]
    rw [length_body]
    exact hroom
  have hargs : (parse c.spell).args = c.args := by
    refine List.map_injective_iff.2 (fun _ _ => String.toList_injective) ?_
    rw [map_toList_args_parse, hcounted, wordsBy_body h]
  have hbackground : (parse c.spell).background = c.background := by
    rw [Bool.eq_iff_iff, background_parse_iff, hcounted, ampersand_mem_body_iff h]
  change Command.mk (parse c.spell).args (parse c.spell).background = c
  rw [hargs, hbackground]

/-- A last argument keeps the terminator that it ends in, and its ampersand stands between. -/
example : parse (spell ⟨["a", "b\r\n"], true⟩) = ⟨["a", "b\r\n"], true⟩ := by decide +kernel

/-- Some line asks for some arguments, in the background or not, exactly when each of them holds
something and neither a space nor a tab nor an ampersand, and when eighty characters are room for
them, for a separator between any two that follow each other, and for an ampersand if the background
is asked for; where there are two arguments it can separate them. -/
theorem exists_parse_eq_iff (args : List String) (background : Bool) :
    (∃ line, parse line = ⟨args, background⟩) ↔
      (∀ arg ∈ args, arg ≠ "" ∧ ∀ c ∈ arg.toList, c ≠ ' ' ∧ c ≠ '\t' ∧ c ≠ '&') ∧
      (args.map String.length).sum + max (args.length - 1) (if background then 1 else 0) ≤ 80 := by
  have hreadable : Readable ⟨args, background⟩ ↔
      ∀ arg ∈ args, arg ≠ "" ∧ ∀ c ∈ arg.toList, c ≠ ' ' ∧ c ≠ '\t' ∧ c ≠ '&' := by
    simp [Readable, isSeparator, ampersand, and_assoc]
  rw [← hreadable]
  constructor
  · rintro ⟨line, hline⟩
    have hroom := length_args_parse_le line
    rw [hline] at hroom
    refine ⟨fun arg harg => ?_, hroom⟩
    have hmem : arg ∈ (parse line).args := by rwa [hline]
    obtain ⟨hne, hclear⟩ := mem_args_parse hmem
    exact ⟨hne, fun x hx => (hclear x hx).1⟩
  · rintro ⟨h, hroom⟩
    exact ⟨spell ⟨args, background⟩, parse_spell h hroom⟩

end Command

end RecallShell
