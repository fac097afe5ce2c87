import RecallShell.Host.Piped
import RecallShell.Proofs.Text.Lines
import RecallShell.Proofs.Text.Words

/-!
# Reading single lines

However the input arrives, a read brings bytes that hold a line feed at their end at most. So a line
that is read from a pipe, and every argument of the command that it asks for, is free of line feeds.
-/

namespace RecallShell

open Text

namespace Text

/-- Dropping a character at the end leaves characters that were there before. -/
theorem mem_of_mem_dropOneAtEnd {c x : Char} {cs : List Char} (h : x ∈ dropOneAtEnd c cs) :
    x ∈ cs := by
  unfold dropOneAtEnd at h
  split at h
  · exact List.dropLast_subset cs h
  · exact h

/-- A line loses its line feed with its terminator. -/
theorem newline_not_mem_chomp {cs : List Char} (h : '\n' ∉ cs) :
    '\n' ∉ chomp cs ∧ '\n' ∉ chomp (cs ++ ['\n']) := by
  have hchomp : chomp (cs ++ ['\n']) = dropOneAtEnd '\r' cs := by
    rw [chomp, dropOneAtEnd.eq_1 '\n', if_pos List.getLast?_concat, List.dropLast_concat]
  rw [hchomp]
  exact ⟨fun hm => h (mem_of_mem_dropOneAtEnd (mem_of_mem_dropOneAtEnd hm)),
    fun hm => h (mem_of_mem_dropOneAtEnd hm)⟩

end Text

/-- Bytes that hold a line feed at their end at most. -/
def SingleLine (bs : Bytes) : Prop :=
  ∃ before, lineFeed ∉ before ∧ (bs = before ∨ bs = before ++ [lineFeed])

/-- What is gathered behind bytes without line feeds is a single line. -/
theorem Input.singleLine_gather {gathered buffer bs : Bytes} {fills : List Fill}
    (hg : lineFeed ∉ gathered) (h : (gather gathered buffer fills).1 = .ok bs) :
    SingleLine bs := by
  fun_induction gather gathered buffer fills with
  | case1 gathered buffer line rest fills hf =>
    have hs := firstLine?_spec buffer
    rw [hf] at hs
    obtain ⟨before, rfl, hb⟩ := hs
    obtain rfl := Except.ok.inj h
    refine ⟨gathered ++ before, ?_, Or.inr (by simp)⟩
    rw [List.mem_append, not_or]
    exact ⟨hg, hb⟩
  | case2 gathered buffer hf =>
    obtain rfl := Except.ok.inj h
    exact ⟨_, lineFeed_not_mem_append hg hf, Or.inl rfl⟩
  | case3 gathered buffer _ _ hf =>
    obtain rfl := Except.ok.inj h
    exact ⟨_, lineFeed_not_mem_append hg hf, Or.inl rfl⟩
  | case4 gathered buffer data fills hf _ ih => exact ih (lineFeed_not_mem_append hg hf) h
  | case5 gathered buffer cause fills hf _ ih => exact ih (lineFeed_not_mem_append hg hf) h
  | case6 => cases h

/-- A read brings a single line. -/
theorem Input.singleLine_readLine {i : Input} {bs : Bytes} (h : i.readLine.1 = .ok bs) :
    SingleLine bs :=
  singleLine_gather List.not_mem_nil h

/-- A single line reads as a text without line feeds. -/
theorem newline_not_mem_of_singleLine {bs : Bytes} (h : SingleLine bs) :
    '\n' ∉ chomp (decodeChars bs) := by
  obtain ⟨before, hb, rfl | rfl⟩ := h
  · exact (newline_not_mem_chomp (newline_not_mem_decodeChars hb)).1
  · rw [decodeChars_concat_lineFeed]
    exact (newline_not_mem_chomp (newline_not_mem_decodeChars hb)).2

/-- A host that reads lines without line feeds in them. -/
class Host.Linewise (H : Type) [Host H] : Prop where
  /-- A line that is read holds no line feed. -/
  newline_not_mem : ∀ (prompt : Prompt) (host : H) (c : Console) (line : String),
    (readLine prompt host c).1 = .line line → '\n' ∉ line.toList

instance : Host.Linewise Piped where
  newline_not_mem prompt p c line h := by
    have hr : ReadOutcome.ofRead p.input.readLine.1 = .line line := h
    cases hi : p.input.readLine.1 with
    | error cause =>
      rw [hi, ReadOutcome.ofRead] at hr
      split at hr <;> cases hr
    | ok bs =>
      rw [hi, ReadOutcome.ofRead, ReadOutcome.ofBytes] at hr
      split at hr
      · cases hr
      · rw [← ReadOutcome.line.inj hr, String.toList_ofList]
        exact newline_not_mem_of_singleLine (Input.singleLine_readLine hi)

/-- The program of a line without line feeds holds none. -/
theorem Command.newline_not_mem_program {line program : String} (h : '\n' ∉ line.toList)
    (hp : (parse line).program? = some program) : '\n' ∉ program.toList := by
  intro hm
  have hc := ((mem_args_parse (mem_args_of_program? hp)).2 _ hm).2
  exact h (mem_of_mem_dropOneAtEnd (mem_of_mem_dropOneAtEnd (List.mem_of_mem_take hc)))

end RecallShell
