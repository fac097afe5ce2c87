import RecallShell.Machine.Shell.Start
import RecallShell.Machine.Utility.Blocks
import RecallShell.Machine.Utility.Characters
import RecallShell.Machine.Utility.Comparison
import RecallShell.Machine.Utility.Content
import RecallShell.Machine.Utility.Copying
import RecallShell.Machine.Utility.Counting
import RecallShell.Machine.Utility.Digests
import RecallShell.Machine.Utility.Dump
import RecallShell.Machine.Utility.Encoding
import RecallShell.Machine.Utility.Expression
import RecallShell.Machine.Utility.Finding
import RecallShell.Machine.Utility.Inspecting
import RecallShell.Machine.Utility.Layout
import RecallShell.Machine.Utility.Listing
import RecallShell.Machine.Utility.Merging
import RecallShell.Machine.Utility.Order
import RecallShell.Machine.Utility.RecordPrograms
import RecallShell.Machine.Utility.Running
import RecallShell.Machine.Utility.Sequence
import RecallShell.Machine.Utility.StreamEditing
import RecallShell.Machine.Utility.Writing

/-!
# Programs

The programs that come with the machine, by name: shells and utilities.
-/

namespace RecallShell.Machine

open Text

/-- What carries out a program of the machine. -/
inductive Carrier where
  /-- A utility. -/
  | utility (run : Utility)
  /-- A shell. -/
  | shell (dialect : Dialect)

/-- The utilities by name. -/
def utilities : List (String × Utility) :=
  [("[", bracketed), ("awk", awk), ("base64", base64), ("basename", basename),
    ("cat", cat), ("chmod", chmod), ("cksum", cksum), ("cmp", cmp), ("comm", comm), ("cp", cp),
    ("cut", cut), ("dd", dd), ("diff", diff), ("dirname", dirname), ("du", du), ("echo", echo),
    ("env", env), ("expand", expand), ("expr", expr), ("factor", factor), ("false", ends 1),
    ("find", find), ("fold", fold), ("head", head), ("install", install), ("join", join),
    ("link", link), ("ln", ln), ("ls", ls), ("md5sum", digests Digest.md5), ("mkdir", mkdir),
    ("mkfifo", mkfifo), ("mv", mv), ("nice", nice), ("nl", nl), ("od", od), ("paste", paste),
    ("printenv", printenv), ("printf", printf), ("readlink", readlink), ("realpath", realpath),
    ("rev", rev), ("rm", rm), ("rmdir", rmdir), ("sed", sed), ("seq", seq), ("setsid", setsid),
    ("sha256sum", digests Digest.sha256), ("shuf", shuf), ("sleep", sleep), ("sort", sort),
    ("split", split), ("stat", stat), ("tac", tac), ("tail", tail), ("tee", tee), ("test", test),
    ("timeout", timeout), ("touch", touch), ("tr", tr), ("true", ends 0), ("truncate", truncate),
    ("tsort", tsort), ("uniq", uniq), ("unlink", unlink), ("wc", wc), ("xargs", xargs),
    ("yes", yes)]

/-- The programs of the machine by name. -/
def programs : List (String × Carrier) :=
  [("bash", .shell .rich), ("sh", .shell .plain)] ++ utilities.map fun p => (p.1, .utility p.2)

/-- What a process does that has become a program. -/
def activityOf (program : Loaded) : Activity :=
  match programs.lookup program.program with
  | some (.utility run) => Utility.activity run program
  | some (.shell dialect) => Sh.start dialect program
  | none => .ended (.code Sh.notFound)

/-- A disk with the programs of the machine on it. -/
def furnished (disk : Disk) : Disk :=
  programs.foldl (fun disk p =>
    ((disk.make (encode s!"{programDirectory}/{p.1}") (.program p.1) 0o755).toOption).getD disk) disk

end RecallShell.Machine
