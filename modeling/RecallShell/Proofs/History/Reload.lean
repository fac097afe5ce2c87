import Mathlib.Data.List.DropRight
import RecallShell.Proofs.History.Newest
import RecallShell.Proofs.Host.Reading
import RecallShell.History.File

/-!
# What comes back from a history file

An entry without line feeds takes one line of the file. Reading that line drops the carriage returns
at its end, and an entry that is blank is not read at all. So a file gives back the entries that it
keeps, each without the terminators at its end, except the blank ones; and it gives back all of them
unchanged exactly when each of them holds something that is not blank and does not end in a
terminator.
-/

namespace RecallShell

open Text

namespace Text

/-- Nothing is dropped at the end of a text exactly when its last character is not of the kind. -/
theorem dropAllAtEnd_eq_self_iff {p : Char → Bool} {cs : List Char} :
    dropAllAtEnd p cs = cs ↔ ∀ c, cs.getLast? = some c → p c = false := by
  change cs.rdropWhile p = cs ↔ _
  rw [List.rdropWhile_eq_self_iff]
  constructor
  · intro h c hc
    have hne : cs ≠ [] := by
      rintro rfl
      cases hc
    rw [List.getLast?_eq_some_getLast hne, Option.some.injEq] at hc
    simpa [hc] using h hne
  · intro h hne
    simp [h _ (List.getLast?_eq_some_getLast hne)]

/-- A line feed at the end is dropped. -/
theorem dropAllAtEnd_append_newline (cs : List Char) :
    dropAllAtEnd isTerminator (cs ++ ['\n']) = dropAllAtEnd isTerminator cs :=
  List.rdropWhile_concat_pos isTerminator cs '\n' rfl

end Text

namespace History

/-- What comes back of an entry that a file keeps. -/
def survivor? (entry : String) : Option String :=
  let cs := dropAllAtEnd isTerminator entry.toList
  if allBlank cs then none else some (String.ofList cs)

/-- An entry that a file can keep: it holds something that is not blank, and does not end in a line
terminator. -/
structure Storable (entry : String) : Prop where
  /-- It is not blank. -/
  notBlank : allBlank entry.toList = false
  /-- It does not end in a line terminator. -/
  unterminated : ∀ c, entry.toList.getLast? = some c → isTerminator c = false

/-- An entry comes back unchanged exactly when a file can keep it. -/
theorem survivor?_eq_some_self_iff {entry : String} :
    survivor? entry = some entry ↔ Storable entry := by
  constructor
  · intro h
    simp only [survivor?] at h
    split at h
    · cases h
    · rename_i hb
      have hd : dropAllAtEnd isTerminator entry.toList = entry.toList := by
        rw [← String.toList_ofList (l := dropAllAtEnd isTerminator entry.toList),
          Option.some.inj h]
      rw [hd] at hb
      exact ⟨by simpa using hb, dropAllAtEnd_eq_self_iff.1 hd⟩
  · intro h
    simp only [survivor?]
    rw [dropAllAtEnd_eq_self_iff.2 h.unterminated, h.notBlank, String.ofList_toList]
    rfl

/-- The line that keeps an entry gives back what comes back of it. -/
theorem entryOfLine?_line (entry : String) :
    entryOfLine? (encode entry ++ [lineFeed]) = survivor? entry := by
  have hchars : decodeChars (encode entry ++ [lineFeed]) = entry.toList ++ ['\n'] := by
    rw [decodeChars_concat_lineFeed, decodeChars_encode]
  simp only [entryOfLine?, survivor?, hchars, dropAllAtEnd_append_newline]

/-- A file gives back what comes back of each of its entries. -/
theorem entriesOf_contentOf {entries : List String} (h : ∀ entry ∈ entries, '\n' ∉ entry.toList) :
    entriesOf (contentOf entries) = entries.filterMap survivor? := by
  unfold entriesOf
  induction entries with
  | nil => rfl
  | cons entry entries ih =>
    have hlf : lineFeed ∉ encode entry := lineFeed_not_mem_encode (h entry List.mem_cons_self)
    have hcontent : contentOf (entry :: entries) =
        encode entry ++ lineFeed :: contentOf entries := by
      simp [contentOf]
    rw [hcontent, lines_append_lineFeed hlf, List.filterMap_cons, entryOfLine?_line,
      ih fun e he => h e (List.mem_cons_of_mem entry he), List.filterMap_cons]

/-- The history that a file holds is made of its newest entries. -/
theorem entries_ofContent (content : Bytes) :
    (ofContent content).entries = newest defaultCapacity (entriesOf content) :=
  entries_appendAll empty (entriesOf content)

@[simp] theorem capacity_ofContent (content : Bytes) :
    (ofContent content).capacity = defaultCapacity :=
  capacity_appendAll empty (entriesOf content)

/-- The history that a file holds which keeps no more entries than there is room for. -/
theorem entries_ofContent_contentOf {entries : List String}
    (h : ∀ entry ∈ entries, '\n' ∉ entry.toList) (hlength : entries.length ≤ defaultCapacity) :
    (ofContent (contentOf entries)).entries = entries.filterMap survivor? := by
  rw [entries_ofContent, entriesOf_contentOf h]
  exact newest_of_length_le (Nat.le_trans (List.length_filterMap_le _ _) hlength)

/-- What comes back is what was kept exactly when a file can keep every entry. -/
theorem filterMap_survivor?_eq_self_iff {entries : List String} :
    entries.filterMap survivor? = entries ↔ ∀ entry ∈ entries, Storable entry := by
  induction entries with
  | nil => simp
  | cons entry entries ih =>
    rw [List.forall_mem_cons, ← ih, ← survivor?_eq_some_self_iff, List.filterMap_cons]
    cases hs : survivor? entry with
    | none =>
      have hlength := List.length_filterMap_le survivor? entries
      constructor
      · intro h
        have hl := congrArg List.length h
        simp only [List.length_cons] at hl
        omega
      · rintro ⟨h, -⟩
        cases h
    | some back => simp

/-- Cutting into lines leaves single lines. -/
theorem singleLine_of_mem_lines {bs line : Bytes} (h : line ∈ lines bs) : SingleLine line := by
  induction bs using line_induction with
  | last bs hbs =>
    rw [lines_of_not_mem hbs] at h
    split at h
    · cases h
    · rw [List.mem_singleton.1 h]
      exact ⟨bs, hbs, Or.inl rfl⟩
  | line before rest hbefore ih =>
    rw [lines_append_lineFeed hbefore] at h
    rcases List.mem_cons.1 h with rfl | hrest
    · exact ⟨before, hbefore, Or.inr rfl⟩
    · exact ih hrest

/-- What a line of a file holds can be kept in a file again, on one line. -/
theorem storable_of_entryOfLine? {line : Bytes} {entry : String} (hline : SingleLine line)
    (h : entryOfLine? line = some entry) : '\n' ∉ entry.toList ∧ Storable entry := by
  simp only [entryOfLine?] at h
  split at h
  · cases h
  rename_i hblank
  have hentry : entry.toList = dropAllAtEnd isTerminator (decodeChars line) := by
    rw [← Option.some.inj h, String.toList_ofList]
  refine ⟨?_, by rwa [hentry, ← Bool.not_eq_true], ?_⟩
  · rw [hentry]
    obtain ⟨before, hbefore, hline⟩ := hline
    have hdropped : dropAllAtEnd isTerminator (decodeChars line) =
        dropAllAtEnd isTerminator (decodeChars before) := by
      rcases hline with rfl | rfl
      · rfl
      · rw [decodeChars_concat_lineFeed, dropAllAtEnd_append_newline]
    rw [hdropped]
    intro hm
    exact newline_not_mem_decodeChars hbefore ((List.rdropWhile_prefix isTerminator _).subset hm)
  · rw [hentry]
    exact dropAllAtEnd_eq_self_iff.1 (List.rdropWhile_idempotent isTerminator _)

/-- A history that was kept in a file without a failure has been written to it. -/
theorem write_of_save {history : History} {path : Bytes} {disk kept : Disk}
    (h : history.save path disk = (.ok (), kept)) :
    disk.write path (contentOf history.entries) = (.ok (), kept) := by
  unfold save at h
  split at h
  · rename_i hw
    rw [hw, (Prod.mk.inj h).2]
  · cases h

end History

end RecallShell
