import RecallShell.Session

/-!
# Recalling the newest command

When the user interrupts, the session lists its history and offers to repeat the newest entry. The
offer is taken by the answer `r` alone. The entry is launched in the foreground; whatever comes of
it, the session goes on and its history stays as it is.
-/

namespace RecallShell

open Text

/-- What an interrupt led to. -/
inductive Recalled where
  /-- The offer was not taken. -/
  | ignored
  /-- The offer was taken, but there was nothing to repeat. -/
  | emptyHistory
  /-- The newest entry was launched. -/
  | repeated (launched : Launched)
  /-- The newest entry could not be launched. -/
  | repeatFailed
  deriving DecidableEq, Repr

namespace Recall

/-- Announces the list of entries. -/
def header : String := s!"List of the most recent {History.defaultCapacity} commands:"

/-- The entries, numbered from one. -/
def numbered (entries : List String) : List String :=
  entries.mapIdx fun i entry => s!"{i + 1}: {entry}"

/-- What is shown before the answer is read. -/
def listing (entries : List String) : List String :=
  ["", Prompt.command.text, header] ++ numbered entries

/-- The answer that takes the offer. -/
def acceptance : String := "r"

/-- Whether an answer takes the offer; line terminators at its end do not matter. -/
def accepts (answer : String) : Bool := trimTerminators answer == acceptance

/-- Says that there is nothing to repeat. -/
def nothingToRepeat : String := "No commands in history."

/-- Announces the launch of an entry. -/
def announcement (entry : String) : String := s!"Executing command: {entry}"

/-- Says why an entry could not be launched. -/
def failureLine (error : ShellError) : String := s!"Exec failed: {error.message}"

/-- Warns that an entry could not be launched. -/
def failureWarning (entry : String) (error : ShellError) : String :=
  s!"repeat of {entry} failed: {error.message}"

/-- The newest entry, as long as there is something in it to launch. -/
def candidate? (history : History) : Option String :=
  match history.newest? with
  | some entry => if (Command.ofEntry entry).isEmpty then none else some entry
  | none => none

end Recall

namespace Session

open Recall

variable {H : Type} [Host H]

/-- Launches an entry of the history once more. -/
def repeatEntry (s : Session H) (entry : String) : Recalled × Session H :=
  match (s.say (announcement entry)).launch .offer (Command.ofEntry entry) with
  | (.ok launched, s) => (.repeated launched, s)
  | (.error e, s) => (.repeatFailed, (s.warn (failureWarning entry e)).say (failureLine e))

/-- Does what the answer to the offer asks for. -/
def answerOffer (s : Session H) (answer : String) : Recalled × Session H :=
  if accepts answer then
    match candidate? s.history with
    | some entry => s.repeatEntry entry
    | none => (.emptyHistory, s.say nothingToRepeat)
  else (.ignored, s)

/-- Handles an interrupt: lists the history and offers to repeat the newest entry. -/
def handleInterrupt (s : Session H) : Recalled × Session H :=
  match ((s.record .interrupting).sayAll (listing s.history.entries)).ask .offer with
  | (.line answer, s) => s.answerOffer answer
  | (_, s) => (.ignored, s)

/-- Repeating an entry never leaves more to read. -/
theorem remaining_repeatEntry_le (s : Session H) (entry : String) :
    (s.repeatEntry entry).2.remaining ≤ s.remaining := by
  have h := remaining_launch_le (s.say (announcement entry)) .offer (Command.ofEntry entry)
  unfold repeatEntry
  split
  · rename_i he
    rw [he] at h
    exact h
  · rename_i he
    rw [he] at h
    exact h

/-- Answering the offer never leaves more to read. -/
theorem remaining_answerOffer_le (s : Session H) (answer : String) :
    (s.answerOffer answer).2.remaining ≤ s.remaining := by
  unfold answerOffer
  split
  · split
    · exact remaining_repeatEntry_le s _
    · exact Nat.le_refl _
  · exact Nat.le_refl _

/-- Handling an interrupt never leaves more to read. -/
theorem remaining_handleInterrupt_le (s : Session H) : s.handleInterrupt.2.remaining ≤ s.remaining := by
  have h := remaining_ask_le ((s.record .interrupting).sayAll (listing s.history.entries)) .offer
  rw [remaining_sayAll] at h
  unfold handleInterrupt
  split
  · rename_i he
    rw [he] at h
    exact Nat.le_trans (remaining_answerOffer_le _ _) h
  · rename_i he
    rw [he] at h
    exact h

end Session

end RecallShell
