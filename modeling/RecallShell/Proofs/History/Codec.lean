import RecallShell.Proofs.Disk.Keeping
import RecallShell.Proofs.History.Reload

/-!
# The history file as a codec

An entry lasts when a file gives it back as it is: it takes one line, does not end in a carriage
return and is not blank. Reading a file yields nothing but lasting entries, and all lasting entries
that were written to it. So the contents that are read back unchanged are those of at most as many
entries as a session keeps, each of them lasting, and a history that was read once is read back
unchanged ever after.
-/

namespace RecallShell

open Text

namespace History

/-- An entry that a file gives back as it is, whatever else the file keeps. -/
structure Lasting (entry : String) : Prop where
  /-- It takes one line. -/
  singleLine : '\n' ∉ entry.toList
  /-- It does not end in a carriage return. -/
  noReturn : entry.toList.getLast? ≠ some '\r'
  /-- Some character of it is not blank. -/
  notBlank : ∃ c ∈ entry.toList, isBlank c = false

/-- An entry lasts exactly when it takes one line and a file can keep it. -/
theorem lasting_iff {entry : String} :
    Lasting entry ↔ '\n' ∉ entry.toList ∧ Storable entry := by
  have hblank : allBlank entry.toList = false ↔ ∃ c ∈ entry.toList, isBlank c = false := by
    simp [allBlank]
  constructor
  · intro h
    refine ⟨h.singleLine, hblank.2 h.notBlank, fun c hc => ?_⟩
    have hnewline : c ≠ '\n' := by
      rintro rfl
      exact h.singleLine (List.mem_of_getLast? hc)
    have hreturn : c ≠ '\r' := by
      rintro rfl
      exact h.noReturn hc
    simp [isTerminator, hnewline, hreturn]
  · rintro ⟨hsingle, hstorable⟩
    exact ⟨hsingle, fun hc => absurd (hstorable.unterminated _ hc) (by decide),
      hblank.1 hstorable.notBlank⟩

/-- Whether an entry lasts, as a test of its characters. -/
def lasts (entry : String) : Bool :=
  entry.toList.all (· ≠ '\n') && entry.toList.getLast? != some '\r' &&
    entry.toList.any fun c => !isBlank c

theorem lasts_iff {entry : String} : lasts entry = true ↔ Lasting entry := by
  have htest : lasts entry = true ↔ '\n' ∉ entry.toList ∧ entry.toList.getLast? ≠ some '\r' ∧
      ∃ c ∈ entry.toList, isBlank c = false := by
    simp [lasts, and_assoc, List.forall_mem_ne']
  rw [htest]
  exact ⟨fun h => ⟨h.1, h.2.1, h.2.2⟩, fun h => ⟨h.singleLine, h.noReturn, h.notBlank⟩⟩

instance (entry : String) : Decidable (Lasting entry) := decidable_of_iff _ lasts_iff

/-- What lasts comes back from the file that keeps it. -/
theorem entriesOf_contentOf_of_lasting {entries : List String}
    (h : ∀ entry ∈ entries, Lasting entry) : entriesOf (contentOf entries) = entries := by
  rw [entriesOf_contentOf fun entry he => (h entry he).singleLine]
  exact filterMap_survivor?_eq_self_iff.2 fun entry he => (lasting_iff.1 (h entry he)).2

/-- Whatever a file contains, the entries that it holds last. -/
theorem lasting_of_mem_entriesOf {content : Bytes} {entry : String}
    (h : entry ∈ entriesOf content) : Lasting entry := by
  obtain ⟨line, hline, hentry⟩ := List.mem_filterMap.1 h
  exact lasting_iff.2 <| storable_of_entryOfLine? (singleLine_of_mem_lines hline) hentry

/-- The entries of a history that was read from a file last. -/
theorem lasting_of_mem_ofContent {content : Bytes} {entry : String}
    (h : entry ∈ (ofContent content).entries) : Lasting entry := by
  rw [entries_ofContent] at h
  exact lasting_of_mem_entriesOf (mem_of_mem_newest h)

/-- Reading what was written for lasting entries yields the newest of them. -/
theorem entries_ofContent_contentOf_of_lasting {entries : List String}
    (h : ∀ entry ∈ entries, Lasting entry) :
    (ofContent (contentOf entries)).entries = newest defaultCapacity entries := by
  rw [entries_ofContent, entriesOf_contentOf_of_lasting h]

/-- What is read back unchanged are at most as many entries as a session keeps, all lasting. -/
theorem entries_ofContent_contentOf_eq_self_iff {entries : List String} :
    (ofContent (contentOf entries)).entries = entries ↔
      entries.length ≤ defaultCapacity ∧ ∀ entry ∈ entries, Lasting entry := by
  constructor
  · intro h
    have hlength := (ofContent (contentOf entries)).length_le
    rw [capacity_ofContent, h] at hlength
    refine ⟨hlength, fun entry he => ?_⟩
    rw [← h] at he
    exact lasting_of_mem_ofContent he
  · rintro ⟨hlength, hlasting⟩
    rw [entries_ofContent_contentOf_of_lasting hlasting, newest_of_length_le hlength]

/-- A history that was read from a file once is read back unchanged from the file it is written to.
-/
theorem ofContent_contentOf_ofContent (content : Bytes) :
    ofContent (contentOf (ofContent content).entries) = ofContent content := by
  refine eq_of_entries (by simp) (entries_ofContent_contentOf_eq_self_iff.2 ⟨?_, ?_⟩)
  · have hlength := (ofContent content).length_le
    rwa [capacity_ofContent] at hlength
  · exact fun entry he => lasting_of_mem_ofContent he

/-- Whatever comes of loading a history, some content holds what is loaded. -/
theorem exists_load_eq_ofContent (disk : Disk) (path : Bytes) :
    ∃ content, (load disk path).1 = ofContent content := by
  unfold load
  split
  · rename_i content _
    exact ⟨content, rfl⟩
  · rename_i fault _
    exact ⟨wholeLines fault.gathered, rfl⟩

/-- So what is loaded lasts. -/
theorem lasting_of_mem_load {disk : Disk} {path : Bytes} {entry : String}
    (h : entry ∈ (load disk path).1.entries) : Lasting entry := by
  obtain ⟨content, hload⟩ := exists_load_eq_ofContent disk path
  rw [hload] at h
  exact lasting_of_mem_ofContent h

/-- A history that was kept where it can be read is read from what was written for its entries. -/
theorem load_of_save {h : History} {path : Bytes} {disk kept : Disk} {old : Option Bytes}
    (hbears : disk.Bears path old) (hsave : h.save path disk = (.ok (), kept))
    (hreadable : ∃ content, kept.read path = .ok content) :
    load kept path = (ofContent (contentOf h.entries), none) := by
  obtain ⟨content, hread⟩ := hreadable
  rcases (hbears.write (write_of_save hsave)).read with hholds | ⟨e, hfails, -⟩
  · rw [load, hholds]
  · rw [hread] at hfails
    cases hfails

/-- For a history of any room that is kept where there is a file or nothing, by a write that does
not fail, and read again, which does not fail either: where all its entries last, the newest of them
come back, as many as a session keeps; where one does not, something else comes back. Whatever is
loaded from anywhere lasts, and a history that was loaded, from any content whatsoever, comes back
as it is. -/
theorem load_save (h : History) {path : Bytes} {disk kept : Disk} {old : Option Bytes}
    (hbears : disk.Bears path old) (hsave : h.save path disk = (.ok (), kept))
    (hreadable : ∃ content, kept.read path = .ok content) :
    ((∀ entry ∈ h.entries, Lasting entry) →
        (load kept path).1.entries = newest defaultCapacity h.entries) ∧
      ((∃ entry ∈ h.entries, ¬ Lasting entry) → (load kept path).1.entries ≠ h.entries) ∧
      (∀ (other : Disk) (place : Bytes),
        (∀ entry ∈ (load other place).1.entries, Lasting entry) ∧
          (h = (load other place).1 → (load kept path).1 = h)) ∧
      (∀ content, h = ofContent content → (load kept path).1 = h) := by
  have hload := load_of_save hbears hsave hreadable
  have hagain : ∀ content, h = ofContent content → (load kept path).1 = h := by
    rintro content rfl
    rw [hload]
    exact ofContent_contentOf_ofContent content
  refine ⟨fun hlasting => ?_, ?_,
    fun other place => ⟨fun entry he => ?_, fun hloaded => ?_⟩, hagain⟩
  · rw [hload]
    exact entries_ofContent_contentOf_of_lasting hlasting
  · rintro ⟨entry, he, hnot⟩ hsame
    rw [hload] at hsame
    obtain ⟨-, hlasting⟩ := entries_ofContent_contentOf_eq_self_iff.1 hsame
    exact hnot (hlasting entry he)
  · exact lasting_of_mem_load he
  · obtain ⟨content, hcontent⟩ := exists_load_eq_ofContent other place
    exact hagain content (hloaded.trans hcontent)

/-- Of eleven lasting entries the newest ten come back, with the carriage return in the middle of
one and the blanks around another. -/
theorem load_save_of_eleven :
    let h := (withCapacity 12).appendAll
      ["a", "b", "c\rd", " e ", "f", "g", "h", "i", "j", "k", "ü"]
    let saved := h.save (encode "h") Disk.bare
    saved.1 = .ok () ∧ (load saved.2 (encode "h")).1.entries =
      ["b", "c\rd", " e ", "f", "g", "h", "i", "j", "k", "ü"] := by
  intro h saved
  have hbears : Disk.bare.Bears (encode "h") none := by
    refine Disk.Missing.bears ⟨.system .noEntry, ?_, by decide⟩ Disk.sound_bare
    decide +kernel
  have hsaved : saved.1 = .ok () := by decide +kernel
  have hreadable : saved.2.read (encode "h") = .ok (contentOf h.entries) := by decide +kernel
  have hlasting : ∀ entry ∈ h.entries, Lasting entry := by decide +kernel
  obtain ⟨hback, -⟩ := load_save h hbears (Prod.ext hsaved rfl) ⟨_, hreadable⟩
  refine ⟨hsaved, (hback hlasting).trans ?_⟩
  decide +kernel

end History

end RecallShell
