import Mathlib.Data.List.Forall2
import RecallShell.Disk.Standard
import RecallShell.Proofs.History.Reload
import RecallShell.Proofs.Text.Lenient

/-!
# What a history file holds, as a text

The file is read line by line, each line's bytes by themselves. The same entries are found in the
text that the whole file stands for: between its line feeds, without the carriage returns at the end
of each part, and not where a part is blank. So bytes that are no text spoil the line they stand in
and no other one. Where reading stops midway only the lines that were read whole count.
-/

namespace RecallShell

open Text

namespace Text

/-- Without line feeds only carriage returns are dropped at the end. -/
theorem dropAllAtEnd_eq_rdropWhile {cs : List Char} (h : '\n' ∉ cs) :
    dropAllAtEnd isTerminator cs = cs.rdropWhile (· == '\r') := by
  rw [dropAllAtEnd, List.rdropWhile]
  refine congrArg List.reverse ?_
  rw [← List.mem_reverse] at h
  generalize cs.reverse = cs at h
  induction cs with
  | nil => rfl
  | cons c cs ih =>
    rw [List.mem_cons, not_or] at h
    have hc : isTerminator c = (c == '\r') := by simp [isTerminator, Ne.symm h.1]
    rw [List.dropWhile_cons, List.dropWhile_cons, hc, ih h.2]

end Text

namespace History

/-- The entries of a text: what its line feeds leave of it, without the carriage returns at the end
of each part, and without the parts that hold nothing but blanks. -/
def entriesOfText (text : List Char) : List String :=
  (((splitBy (· == '\n') text).map (List.rdropWhile (· == '\r'))).filter
    fun cs => !cs.all isBlank).map String.ofList

/-- The entries on either side of a line feed are found by themselves. -/
theorem entriesOfText_append_newline (front back : List Char) :
    entriesOfText (front ++ '\n' :: back) = entriesOfText front ++ entriesOfText back := by
  have hsplit : splitBy (· == '\n') (front ++ '\n' :: back) =
      splitBy (· == '\n') front ++ splitBy (· == '\n') back := splitBy_append_cons rfl front back
  simp [entriesOfText, hsplit]

/-- A line without its line feed holds the entry of the text that it stands for. -/
theorem toList_entryOfLine? {bs : Bytes} (h : lineFeed ∉ bs) :
    (entryOfLine? bs).toList = entriesOfText (decodeChars bs) := by
  have hnone := newline_not_mem_decodeChars h
  rw [entriesOfText, splitBy_eq_singleton (forall_ne_of_not_mem hnone)]
  simp only [entryOfLine?, dropAllAtEnd_eq_rdropWhile hnone, allBlank, List.map_cons,
    List.map_nil]
  cases hblank : ((decodeChars bs).rdropWhile (· == '\r')).all isBlank <;> simp [hblank]

/-- The entries of a file are those of the text that it stands for. -/
theorem entriesOf_eq_entriesOfText (content : Bytes) :
    entriesOf content = entriesOfText (decodeChars content) := by
  rw [entriesOf]
  induction content using line_induction with
  | last bs hbs =>
    rw [← toList_entryOfLine? hbs, lines_of_not_mem hbs]
    split
    · next hnil =>
      rw [hnil]
      rfl
    · cases h : entryOfLine? bs <;> simp [h]
  | line before rest hbefore ih =>
    have hline : entryOfLine? (before ++ [lineFeed]) = entryOfLine? before := by
      rw [entryOfLine?, entryOfLine?, decodeChars_concat_lineFeed, dropAllAtEnd_append_newline]
    rw [lines_append_lineFeed hbefore, decodeChars_append_lineFeed, entriesOfText_append_newline,
      ← ih, ← toList_entryOfLine? hbefore, List.filterMap_cons, hline]
    cases entryOfLine? before <;> rfl

/-- Loading a file that can be read brings the newest entries of the text that the whole file stands
for. That text is what the lines stand for one by one, and on either side of a line feed the entries
are those of the bytes there, whatever the bytes on the other side are. -/
theorem load_reads_text {disk : Disk} {path content : Bytes} (h : disk.read path = .ok content) :
    ∃ text, (∀ cs, DecodesTo content cs ↔ cs = text) ∧
      (load disk path).1.entries = newest 10 (entriesOfText text) ∧
      (∃ texts, List.Forall₂ DecodesTo (lines content) texts ∧ texts.flatten = text) ∧
      ∀ before after, content = before ++ lineFeed :: after →
        ∃ front back, DecodesTo before front ∧ DecodesTo after back ∧
          text = front ++ '\n' :: back ∧
          entriesOfText text = entriesOfText front ++ entriesOfText back := by
  refine ⟨decodeChars content, fun cs => decodesTo_iff, ?_, ?_, ?_⟩
  · rw [load, h, ← entriesOf_eq_entriesOfText]
    exact entries_ofContent content
  · refine ⟨(lines content).map decodeChars, ?_, ?_⟩
    · rw [List.forall₂_map_right_iff, List.forall₂_same]
      exact fun line _ => decodesTo_decodeChars line
    · rw [map_decodeChars_lines, flatten_cutAfter]
  · rintro before after rfl
    have htext := decodeChars_append_lineFeed before after
    refine ⟨_, _, decodesTo_decodeChars before, decodesTo_decodeChars after, htext, ?_⟩
    rw [htext, entriesOfText_append_newline]

/-- A file of thirteen lines, two of them blank. A line feed cuts off the character that begins
before it, and a surrogate stands in the last line, which has no line feed. -/
theorem load_reads_text_of_spoilt :
    let content := encode "a\nb\r\r\n" ++ [0xE2, 0x82, 0x0A, 0xAC] ++ encode "c\n \x0b\r\n\r\n" ++
      encode "1\n2\n3\n4\n5\n6\n" ++ [0xED, 0xA0, 0x80]
    let disk := (Disk.bare.write (encode "h") content).2
    disk.read (encode "h") = .ok content ∧ ∃ text, DecodesTo content text ∧
      (load disk (encode "h")).1.entries = newest 10 (entriesOfText text) ∧
      (load disk (encode "h")).1.entries =
        ["b", "\uFFFD", "\uFFFDc", "1", "2", "3", "4", "5", "6", "\uFFFD\uFFFD\uFFFD"] := by
  intro content disk
  have hread : disk.read (encode "h") = .ok content := by decide +kernel
  obtain ⟨text, htext, hentries, -⟩ := load_reads_text hread
  exact ⟨hread, text, (htext text).2 rfl, hentries, by decide +kernel⟩

/-- A file that stops being readable behind a line feed brings the newest entries of the text in front
of the last one that was read; what was read of the next line is left out. -/
theorem load_torn {disk : Disk} {path before torn : Bytes} {cause : IoError}
    (h : disk.read path = .error (.reading (before ++ lineFeed :: torn) cause))
    (htorn : lineFeed ∉ torn) :
    (load disk path).1.entries = newest 10 (entriesOfText (decodeChars before)) ∧
      (load disk path).2 =
        some s!"stopped reading history file {decode path}: {cause.text}" := by
  have hwhole : decodeChars (wholeLines (before ++ lineFeed :: torn)) =
      decodeChars before ++ ['\n'] := by
    rw [wholeLines_append_lineFeed htorn, decodeChars_append_lineFeed]
    rfl
  rw [load, h]
  refine ⟨?_, rfl⟩
  calc (ofContent (wholeLines (before ++ lineFeed :: torn))).entries
      = newest 10 (entriesOfText (decodeChars before ++ ['\n'])) := by
        rw [← hwhole, ← entriesOf_eq_entriesOfText]
        exact entries_ofContent _
    _ = newest 10 (entriesOfText (decodeChars before)) := by
        rw [entriesOfText_append_newline]
        exact congrArg (newest 10) (List.append_nil _)

/-- A file that stops being readable within its first line brings nothing. -/
theorem load_torn_first {disk : Disk} {path torn : Bytes} {cause : IoError}
    (h : disk.read path = .error (.reading torn cause)) (htorn : lineFeed ∉ torn) :
    (load disk path).1.entries = [] ∧
      (load disk path).2 =
        some s!"stopped reading history file {decode path}: {cause.text}" := by
  rw [load, h]
  refine ⟨?_, rfl⟩
  change (ofContent (wholeLines torn)).entries = []
  rw [wholeLines_of_not_mem htorn]
  rfl

/-- A file that can be read up to the middle of its third line. -/
example :
    let disk := Disk.bare.create Disk.bare.here (encode "h")
      (.damaged (encode "ls\n\npw") .inputOutput) 0o644
    load disk (encode "h") = (ofContent (encode "ls\n"),
      some "stopped reading history file h: Input/output error (os error 5)") := by
  decide +kernel

end History

end RecallShell
