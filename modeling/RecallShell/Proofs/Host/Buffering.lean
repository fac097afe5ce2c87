import RecallShell.Disk.Standard
import RecallShell.Proofs.Command.Arguments
import RecallShell.Proofs.Host.Flow
import RecallShell.Proofs.Text.Lenient

/-!
# Reading one line after the other

Prompts are written and lines are read in turn. How the bytes of the lines are cut into fills, and
what becomes of the prompts, makes no difference to what is read: the lines are those of the text
that all the bytes stand for. What is still unread of that text is all that one read hands on to the
next one.
-/

namespace RecallShell

open Text

/-- What the reads behind some prompts come to, one after the other. -/
def readEach : List String → Input → Console → List ReadOutcome
  | [], _, _ => []
  | prompt :: prompts, input, c =>
    match readPrompted prompt input c with
    | (outcome, input, c) => outcome :: readEach prompts input c

section Interruptions

variable {gathered buffer : Bytes} {fills : List Fill} {cause : IoError}

/-- A fill that a signal cut short is asked for again, so gathering does not fail for one. -/
theorem Input.isInterruption_eq_false_of_gather
    (h : (gather gathered buffer fills).1 = .error cause) : cause.isInterruption = false := by
  fun_induction gather gathered buffer fills with
  | case1 => cases h
  | case2 => cases h
  | case3 => cases h
  | case4 gathered buffer data fills _ _ ih => exact ih h
  | case5 gathered buffer cause fills _ _ ih => exact ih h
  | case6 gathered buffer cause fills _ hcause =>
    obtain rfl := Except.error.inj h
    simpa using hcause

/-- A read is never cut short. -/
theorem ReadOutcome.ofRead_readLine_ne_interrupted (i : Input) :
    ReadOutcome.ofRead i.readLine.1 ≠ .interrupted := by
  intro h
  cases hread : i.readLine.1 with
  | ok bs =>
    rw [hread, ofRead, ofBytes] at h
    split at h <;> cases h
  | error cause =>
    rw [hread, ofRead, Input.isInterruption_eq_false_of_gather hread] at h
    cases h

/-- Neither is any of the reads behind some prompts. -/
theorem interrupted_not_mem_readEach (prompts : List String) (i : Input) (c : Console) :
    ReadOutcome.interrupted ∉ readEach prompts i c := by
  induction prompts generalizing i c with
  | nil => exact List.not_mem_nil
  | cons prompt prompts ih =>
    rw [readEach, List.mem_cons, not_or]
    exact ⟨Ne.symm (ReadOutcome.ofRead_readLine_ne_interrupted i), ih _ _⟩

end Interruptions

/-- Each prompt is followed by a read. -/
@[simp] theorem length_readEach (prompts : List String) (i : Input) (c : Console) :
    (readEach prompts i c).length = prompts.length := by
  induction prompts generalizing i c with
  | nil => rfl
  | cons prompt prompts ih => exact congrArg (· + 1) (ih _ _)

/-- Bytes that arrive are read line by line: each read brings the next line of what is unread, and
leaves the lines behind it. -/
theorem getElem?_readEach {prompts : List String} {i : Input} (h : i.Flows) (c : Console) {k : Nat}
    (hk : k < prompts.length) :
    (readEach prompts i c)[k]? = some (.ofBytes ((lines i.content)[k]?.getD [])) := by
  induction prompts generalizing i c k with
  | nil => exact absurd hk (Nat.not_lt_zero k)
  | cons prompt prompts ih =>
    obtain ⟨hline, hrest, hflows⟩ := Input.readLine_of_flows h
    cases k with
    | zero =>
      rw [readEach, readPrompted, hline, ReadOutcome.ofRead]
      simp [List.headD_eq_head?_getD, List.head?_eq_getElem?]
    | succ k =>
      have hnext := ih hflows (c.promptFor prompt) (Nat.lt_of_succ_lt_succ hk)
      rw [hrest, List.getElem?_tail] at hnext
      rw [readEach]
      exact hnext

/-- Reading goes by the bytes that arrive, and neither by how they are cut into fills nor by the
output. -/
theorem readEach_eq_of_content {i j : Input} (hi : i.Flows) (hj : j.Flows)
    (h : i.content = j.content) (prompts : List String) (c d : Console) :
    readEach prompts i c = readEach prompts j d := by
  refine List.ext_getElem? fun k => ?_
  by_cases hk : k < prompts.length
  · rw [getElem?_readEach hi c hk, getElem?_readEach hj d hk, h]
  · rw [List.getElem?_eq_none (by simpa using hk), List.getElem?_eq_none (by simpa using hk)]

/-- What the bytes of a line come to is the body of the text that they stand for. -/
theorem ReadOutcome.ofBytes_of_ne_nil {bs : Bytes} (h : bs ≠ []) :
    ∃ body, IsBody (decodeChars bs) body ∧ ReadOutcome.ofBytes bs = .line (String.ofList body) := by
  refine ⟨chomp (decodeChars bs), isBody_iff.2 rfl, ?_⟩
  rw [ofBytes, if_neg (by simpa using h)]

/-- When the bytes of an input arrive in pieces, between which signals may cut in, the reads behind
any prompts bring the parts of the text that all the bytes stand for, cut behind each line feed:
each without its line feed and without a carriage return before that, and then the end of the
stream. They would bring the same in a single piece, whatever becomes of the prompts. And whatever
else happens to the input, no read is cut short. -/
theorem readEach_reads_text (prompts : List String) (input : Input) (console : Console) :
    (input.Flows → ∃ text, (∀ cs, DecodesTo input.content cs ↔ cs = text) ∧
      (readEach prompts input console).length = prompts.length ∧
      (∀ k < prompts.length, ∀ part, (cutAfter (· == '\n') text)[k]? = some part →
        ∃ body, IsBody part body ∧
          (readEach prompts input console)[k]? = some (.line (String.ofList body))) ∧
      (∀ k < prompts.length, (cutAfter (· == '\n') text).length ≤ k →
        (readEach prompts input console)[k]? = some .endOfStream) ∧
      ∀ other, readEach prompts ⟨input.content, []⟩ other = readEach prompts input console) ∧
    .interrupted ∉ readEach prompts input console := by
  refine ⟨fun hflows => ?_, interrupted_not_mem_readEach prompts input console⟩
  have hlines := map_decodeChars_lines input.content
  refine ⟨decodeChars input.content, fun cs => decodesTo_iff, length_readEach _ _ _, ?_, ?_, ?_⟩
  · intro k hk part hpart
    rw [← hlines, List.getElem?_map, Option.map_eq_some_iff] at hpart
    obtain ⟨line, hline, rfl⟩ := hpart
    obtain ⟨body, hbody, hread⟩ := ReadOutcome.ofBytes_of_ne_nil
      (ne_nil_of_mem_lines (List.mem_of_getElem? hline))
    exact ⟨body, hbody, by rw [getElem?_readEach hflows console hk, hline, Option.getD_some, hread]⟩
  · intro k hk hend
    rw [← hlines, List.length_map] at hend
    rw [getElem?_readEach hflows console hk, List.getElem?_eq_none hend]
    rfl
  · intro other
    refine readEach_eq_of_content (by simp [Input.Flows]) hflows ?_ prompts other console
    simp [Input.content]

/-- Pieces end inside a character and between the two parts of a terminator, signals cut in, a
character lacks its last byte, and the last line has no line feed. The output takes two bytes at a
time and three in all. -/
theorem readEach_reads_text_of_pieces :
    let prompts := ["COMMAND->", "Command->", "", "COMMAND->", "COMMAND->"]
    let input : Input := ⟨[0x61, 0xC3], [.fault (.system .interrupted), .bytes [0xA9, 0x0D],
      .fault (.bare .interrupted), .bytes [0x0A, 0xE2, 0x82, 0x0A, 0x62], .bytes [0x0D]]⟩
    let console := Console.fresh Disk.bare
      { Sink.unbounded with room := some 3, refusal := .fails (.system .noSpace), chunk := some 2 }
    input.Flows ∧
      readEach prompts ⟨input.content, []⟩ (Console.fresh Disk.bare Sink.unbounded) =
        readEach prompts input console ∧
      .interrupted ∉ readEach prompts input console ∧
      readEach prompts input console =
        [.line "aé", .line "\uFFFD", .line "b", .endOfStream, .endOfStream] := by
  intro prompts input console
  have hflows : input.Flows := by decide +kernel
  obtain ⟨hreads, hnone⟩ := readEach_reads_text prompts input console
  obtain ⟨text, -, -, -, -, hsame⟩ := hreads hflows
  exact ⟨hflows, hsame _, hnone, by decide +kernel⟩

end RecallShell
