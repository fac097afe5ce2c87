import RecallShell.Console

/-!
# Hosts

A host is where the lines of a session come from and where its commands are run. Whatever it does,
it runs out of lines at some point: every read that brings something other than the end of the
stream leaves less to be read, and launching never brings more.
-/

namespace RecallShell

/-- A source of lines and a place to run commands. -/
class Host (H : Type) where
  /-- Reads the next line. -/
  readLine : Prompt → H → Console → ReadOutcome × H × Console
  /-- Launches a command. -/
  launch : Command → H → Console → Except ShellError Launched × H × Console
  /-- How much there can still be to read. -/
  remaining : H → Nat
  /-- A read never leaves more. -/
  remaining_readLine_le : ∀ prompt host console,
    remaining (readLine prompt host console).2.1 ≤ remaining host
  /-- A read that brings something leaves less. -/
  remaining_readLine_lt : ∀ prompt host console,
    (readLine prompt host console).1 ≠ .endOfStream →
      remaining (readLine prompt host console).2.1 < remaining host
  /-- A launch never leaves more. -/
  remaining_launch_le : ∀ command host console,
    remaining (launch command host console).2.1 ≤ remaining host

end RecallShell
