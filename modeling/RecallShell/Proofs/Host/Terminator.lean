import RecallShell.Disk.Standard
import RecallShell.Proofs.Command.Arguments
import RecallShell.Proofs.Host.Flow

/-!
# Terminators on the way from the input to a command

A line loses its terminator twice: when it is read, and again when a command is read off it. The
second time there is none left, but a carriage return that ends the text of the line is taken for
one. So the arguments are the runs of the text exactly when the text does not end in a carriage
return; one at its end is lost.
-/

namespace RecallShell

open Text

namespace Input

/-- The next bytes to be read are given ones: the fills that bring them do not stop the flow. What
comes after those may. -/
def Delivers (i : Input) (bs : Bytes) : Prop :=
  ∃ fills later, i.fills = fills ++ later ∧ (∀ fill ∈ fills, fill.Flows) ∧
    bs <+: i.buffer ++ fills.flatMap Fill.data

/-- Gathering goes on up to the line feed of a line that arrives. -/
theorem gather_of_arrives {gathered buffer before rest : Bytes} {fills later : List Fill}
    (hflows : ∀ fill ∈ fills, fill.Flows) (hbefore : lineFeed ∉ before)
    (h : buffer ++ fills.flatMap Fill.data = before ++ lineFeed :: rest) :
    (gather gathered buffer (fills ++ later)).1 = .ok (gathered ++ (before ++ [lineFeed])) := by
  induction fills generalizing gathered buffer before with
  | nil =>
    rw [List.flatMap_nil, List.append_nil] at h
    unfold gather
    rw [h, firstLine?_append_lineFeed hbefore]
  | cons fill fills ih =>
    obtain ⟨hfill, hfills⟩ := List.forall_mem_cons.1 hflows
    unfold gather
    cases hfirst : firstLine? buffer with
    | some r =>
      -- The line feed is in the buffer, and the line up to it is the only first one.
      obtain ⟨line, left⟩ := r
      have hspec := firstLine?_spec buffer
      rw [hfirst] at hspec
      obtain ⟨start, rfl, hstart⟩ := hspec
      have hsplit : start ++ lineFeed :: (left ++ (fill :: fills).flatMap Fill.data) =
          before ++ lineFeed :: rest := by
        rw [← h, ← append_of_firstLine?_eq_some hfirst]
        simp
      have hlines := congrArg firstLine? hsplit
      rw [firstLine?_append_lineFeed hstart, firstLine?_append_lineFeed hbefore] at hlines
      obtain ⟨hline, -⟩ := Prod.mk.inj (Option.some.inj hlines)
      rw [hline]
    | none =>
      have hbuffer := firstLine?_spec buffer
      rw [hfirst] at hbuffer
      obtain ⟨middle, rfl, hmiddle⟩ : ∃ middle, before = buffer ++ middle ∧
          (fill :: fills).flatMap Fill.data = middle ++ lineFeed :: rest := by
        rcases append_eq_append_cons_cases h with ⟨after, rfl, -⟩ | hmiddle
        · exact absurd (List.mem_append_right before List.mem_cons_self) hbuffer
        · exact hmiddle
      rw [List.mem_append, not_or] at hbefore
      rw [List.flatMap_cons] at hmiddle
      rw [List.append_assoc, ← List.append_assoc]
      cases fill with
      | bytes data =>
        have hne : data ≠ [] := hfill
        have hdata : data.isEmpty = false := by simpa using hne
        simp only [List.cons_append, hdata, Bool.false_eq_true, if_false]
        exact ih hfills hbefore.2 hmiddle
      | fault cause =>
        have hcause : cause.isInterruption = true := hfill
        simp only [List.cons_append, hcause, if_true]
        exact ih hfills hbefore.2 hmiddle

/-- A line that arrives is read. -/
theorem readLine_of_delivers {i : Input} {before : Bytes} (hbefore : lineFeed ∉ before)
    (h : i.Delivers (before ++ [lineFeed])) : i.readLine.1 = .ok (before ++ [lineFeed]) := by
  obtain ⟨fills, later, hfills, hflows, rest, hrest⟩ := h
  have hline : i.buffer ++ fills.flatMap Fill.data = before ++ lineFeed :: rest := by
    rw [← hrest, List.append_assoc, List.singleton_append]
  rw [readLine, hfills]
  exact gather_of_arrives hflows hbefore hline

end Input

/-- Reading takes the terminator off a line that arrives, and nothing else. -/
theorem readPrompted_of_delivers {t : String} (ht : '\n' ∉ t.toList) {input : Input}
    (h : input.Delivers (encode (t ++ "\r\n"))) (prompt : String) (c : Console) :
    (readPrompted prompt input c).1 = .line t := by
  have hbytes : encode (t ++ "\r\n") = encode (t ++ "\r") ++ [lineFeed] := by
    rw [show "\r\n" = "\r" ++ "\n" from rfl, ← String.append_assoc, encode_append]
    rfl
  have hnone : lineFeed ∉ encode (t ++ "\r") := lineFeed_not_mem_encode (by simpa using ht)
  have hread : input.readLine.1 = .ok (encode (t ++ "\r\n")) :=
    hbytes ▸ Input.readLine_of_delivers hnone (hbytes ▸ h)
  have hne : (encode (t ++ "\r\n")).isEmpty = false := by simp [hbytes]
  have hdecoded : decodeChars (encode (t ++ "\r\n")) = t.toList ++ ['\r', '\n'] := by
    rw [decodeChars_encode, String.toList_append]
    rfl
  have hbody : chomp (t.toList ++ ['\r', '\n']) = t.toList :=
    (isBody_iff.1 (isBody_append t.toList)).symm
  rw [readPrompted, hread, ReadOutcome.ofRead, ReadOutcome.ofBytes, hne, hdecoded, hbody,
    String.ofList_toList]
  rfl

namespace Text

variable {c x : Char} {cs rest : List Char}

/-- Nothing grows by losing a character. -/
theorem LosesAtEnd.length_le (h : LosesAtEnd c cs rest) : rest.length ≤ cs.length := by
  rcases h with rfl | ⟨-, rfl⟩
  · simp
  · exact Nat.le_refl _

/-- Other characters are not lost. -/
theorem LosesAtEnd.mem_iff (h : LosesAtEnd c cs rest) (hx : x ≠ c) : x ∈ rest ↔ x ∈ cs := by
  rcases h with rfl | ⟨-, rfl⟩
  · simp [hx]
  · rfl

/-- Losing a character that is no separator at the end changes the words. -/
theorem LosesAtEnd.wordsBy_eq_iff {separator : Char → Bool} (h : LosesAtEnd c cs rest)
    (hc : separator c = false) :
    wordsBy separator rest = wordsBy separator cs ↔ cs.getLast? ≠ some c := by
  rcases h with rfl | ⟨hlast, rfl⟩
  · refine iff_of_false (fun heq => ?_) (not_not.2 List.getLast?_concat)
    have hflat := congrArg List.flatten heq
    rw [flatten_wordsBy, flatten_wordsBy, List.filter_append] at hflat
    simp [hc] at hflat
  · exact iff_of_true rfl hlast

end Text

namespace Command

/-- The text of a line that arrives is what is read. The arguments of its command are the runs of
that text without a carriage return at its end; so they are the runs of the text exactly when it
does not end in one. -/
theorem arguments_lose_return {t : String} (ht : '\n' ∉ t.toList) (hshort : t.length ≤ 80)
    {input : Input} (h : input.Delivers (encode (t ++ "\r\n"))) (prompt : String) (c : Console) :
    (readPrompted prompt input c).1 = .line t ∧
      ∃ body, LosesAtEnd '\r' t.toList body ∧ RunsOf body (parse t).args ∧
        ((parse t).background = true ↔ '&' ∈ t.toList) ∧
        (RunsOf t.toList (parse t).args ↔ t.toList.getLast? ≠ some '\r') := by
  obtain ⟨body, hbody⟩ : ∃ body, LosesAtEnd '\r' t.toList body := ⟨_, losesAtEnd_iff.2 rfl⟩
  have hcounted : counted t = body := by
    have hended : LosesAtEnd '\n' t.toList t.toList :=
      Or.inr ⟨fun hlast => ht (List.mem_of_getLast? hlast), rfl⟩
    rw [counted_eq_take ⟨t.toList, hended, hbody⟩]
    exact List.take_of_length_le (hbody.length_le.trans (String.length_toList ▸ hshort))
  have hargs : (parse t).args.map String.toList = wordsBy isSeparator body := by
    rw [map_toList_args_parse, hcounted]
  refine ⟨readPrompted_of_delivers ht h prompt c, body, hbody, runsOf_iff.2 hargs, ?_, ?_⟩
  · rw [background_parse_iff, hcounted]
    exact hbody.mem_iff (by decide)
  · rw [runsOf_iff, hargs]
    exact hbody.wordsBy_eq_iff rfl

/-- A line arrives in two pieces, between which a signal cuts the read short, and behind it the
input fails. Its text ends in a carriage return, which is read and does not reach the argument. -/
theorem arguments_lose_return_of_pieces :
    let input : Input := ⟨encode "ec", [.bytes (encode "ho a\r\r"), .fault (.system .interrupted),
      .bytes (encode "\nid"), .fault (.system .inputOutput)]⟩
    input.Delivers (encode ("echo a\r" ++ "\r\n")) ∧
      (readPrompted "COMMAND->" input (Console.fresh Disk.bare Sink.unbounded)).1 =
        .line "echo a\r" ∧
      (parse "echo a\r").args = ["echo", "a"] ∧ ¬RunsOf "echo a\r".toList ["echo", "a"] := by
  intro input
  have hinput : input.Delivers (encode ("echo a\r" ++ "\r\n")) :=
    ⟨input.fills.take 3, input.fills.drop 3, (List.take_append_drop 3 input.fills).symm,
      by decide +kernel, ⟨encode "id", by decide +kernel⟩⟩
  obtain ⟨hread, body, -, -, -, hiff⟩ := arguments_lose_return (t := "echo a\r") (by decide)
    (by decide) hinput "COMMAND->" (Console.fresh Disk.bare Sink.unbounded)
  have hargs : (parse "echo a\r").args = ["echo", "a"] := by decide +kernel
  refine ⟨hinput, hread, hargs, fun hruns => ?_⟩
  exact hiff.1 (hargs ▸ hruns) (by decide)

end Command

end RecallShell
