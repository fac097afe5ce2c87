import RecallShell.Disk.Standard
import RecallShell.Proofs.Host.Flow
import RecallShell.Proofs.Session.Heading
import RecallShell.Proofs.Sink.Room

/-!
# Piped sessions

A piped session whose input flows, which nobody interrupts and whose launches never fail fatally
runs through its input line by line: it prompts, reads the line and launches what the line asks for,
if it asks for anything. At the end of the input it prompts once more and ends well. So the commands
of the lines are launched in order, each of them once, and there is one prompt more than there are
lines.
-/

namespace RecallShell

open Text

/-- The text of a line, without its terminator. -/
def lineText (line : Bytes) : String := String.ofList (chomp (decodeChars line))

/-- The commands that lines ask for, in order; a line may ask for none. -/
def commandsOf (lines : List Bytes) : List Command :=
  (lines.map fun line => Command.parse (lineText line)).filter fun command => !command.isEmpty

/-- Whether a launch that goes this way fails fatally. -/
def LaunchFate.isFatal : LaunchFate → Bool
  | .fails e => e.isFatal
  | _ => false

/-- A launch fails as fatally as it is said to. -/
theorem LaunchFate.isFatal_of_result {fate : LaunchFate} {command : Command} {e : ShellError}
    (h : fate.result command = .error e) : e.isFatal = fate.isFatal := by
  cases fate with
  | fails error =>
    cases h
    rfl
  | asAsked code =>
    simp only [LaunchFate.result] at h
    split at h <;> cases h
  | _ => cases h

/-- A piped host whose input flows and whose launches bring neither signals nor fatal failures. -/
structure Piped.Steady (p : Piped) : Prop where
  /-- Its input flows. -/
  flows : p.input.Flows
  /-- No signal arrives during a launch, and no launch fails fatally. -/
  launches : ∀ item ∈ p.launches, item.signal = false ∧ item.fate.isFatal = false

/-- A launch on a steady host does nothing to the surroundings, leaves items of the same kind, and
if it fails, does so not fatally. -/
theorem Piped.Steady.launchScripted {p : Piped} (h : p.Steady) (command : Command) (c : Console) :
    (launchScripted command p.launches c).2.2 = c ∧
      (∀ item ∈ (launchScripted command p.launches c).2.1, item ∈ p.launches) ∧
      ∀ e, (launchScripted command p.launches c).1 = .error e → e.isFatal = false := by
  have hlaunches := h.launches
  cases hitems : p.launches with
  | nil =>
    refine ⟨rfl, fun item hitem => hitem, fun e he => ?_⟩
    have hresult : (LaunchFate.asAsked 0).result command = .error e := he
    exact LaunchFate.isFatal_of_result hresult
  | cons item rest =>
    rw [hitems] at hlaunches
    obtain ⟨hquiet, hharmless⟩ := hlaunches item List.mem_cons_self
    refine ⟨?_, fun other hother => List.mem_cons_of_mem item hother, fun e he => ?_⟩
    · simp [RecallShell.launchScripted, hquiet, Console.signalIf]
    · exact (LaunchFate.isFatal_of_result he).trans hharmless

/-- Lines ask for the command of the first one and those of the others. -/
theorem commandsOf_cons (line : Bytes) (rest : List Bytes) :
    commandsOf (line :: rest) = commandsOf [line] ++ commandsOf rest := by
  rw [← List.singleton_append, commandsOf, List.map_append, List.filter_append]
  rfl

/-- A line without a program asks for nothing, any other one for its command. -/
theorem commandsOf_singleton (line : Bytes) :
    commandsOf [line] = if (Command.parse (lineText line)).isEmpty then []
      else [Command.parse (lineText line)] := by
  cases h : (Command.parse (lineText line)).isEmpty <;> simp [commandsOf, h]

namespace Session

/-- On the way from `s` at the beginning of a turn to `t` at a stage a command has been asked for so
many times, and these commands have been launched. Nothing but the prompts has been offered to the
output, no interrupt waits, and the host is steady. -/
structure Served (s : Session Piped) (stage : Stage) (t : Session Piped) (asked : Nat)
    (commands : List Command) : Prop where
  /-- The session comes to the stage. -/
  path : Path .polling s stage t
  /-- No interrupt waits. -/
  clear : t.console.pending = false
  /-- The host is steady. -/
  steady : t.host.Steady
  /-- Nothing but commands has been asked for, and no interrupt was waiting. -/
  questions : questionsOf (s.since t) = List.replicate asked (.command, false)
  /-- The commands have been launched. -/
  launches : launchesOf (s.since t) = commands.map (Prompt.command, ·)
  /-- The prompts have been offered to the output. -/
  prompts : s.console.out.chunk ≠ some 0 → s.console.out.Offered
    (List.replicate asked (encode Prompt.command.text)).flatten t.console.out

namespace Served

variable {s t u : Session Piped} {a b : Stage} {asked : Nat} {commands : List Command}

/-- Nothing has happened at first. -/
theorem refl (hclear : s.console.pending = false) (hsteady : s.host.Steady) :
    Served s .polling s 0 [] where
  path := .refl
  clear := hclear
  steady := hsteady
  questions := by simp [questionsOf]
  launches := by simp [launchesOf]
  prompts hchunk := .refl hchunk

/-- A step adds what is asked for and launched at its stage. -/
theorem step (h : Served s a t asked commands) (hs : Step a t b u) (more : Nat)
    (further : List Command) (hclear : u.console.pending = false) (hsteady : u.host.Steady)
    (hasked : (a.prompt?.toList.map fun prompt => (prompt, t.console.pending)) =
      List.replicate more (.command, false))
    (hlaunched : a.launch?.toList = further.map (Prompt.command, ·))
    (hprompts : ∀ bs, s.console.out.Offered bs t.console.out → s.console.out.Offered
      (bs ++ (List.replicate more (encode Prompt.command.text)).flatten) u.console.out) :
    Served s b u (asked + more) (commands ++ further) where
  path := h.path.step hs
  clear := hclear
  steady := hsteady
  questions := by
    rw [h.path.since_append hs.path, questionsOf_append, h.questions, hs.questionsOf_since, hasked,
      List.replicate_append_replicate]
  launches := by
    rw [h.path.since_append hs.path, launchesOf_append, h.launches, hs.launchesOf_since, hlaunched,
      List.map_append]
  prompts hchunk := by
    rw [← List.replicate_append_replicate, List.flatten_append]
    exact hprompts _ (h.prompts hchunk)

/-- A step at which nothing is asked for, launched or said adds nothing. -/
theorem pass (h : Served s a t asked commands) (hs : Step a t b u) (hprompt : a.prompt? = none)
    (hlaunch : a.launch? = none) (hclear : u.console.pending = t.console.pending)
    (hhost : u.host = t.host)
    (hout : ∀ bs, s.console.out.Offered bs t.console.out →
      s.console.out.Offered bs u.console.out) :
    Served s b u asked commands := by
  have hstep := h.step hs 0 [] (hclear.trans h.clear) (hhost ▸ h.steady)
    (by rw [hprompt]; rfl) (by rw [hlaunch]; rfl) (fun bs hbs => by simpa using hout bs hbs)
  rwa [List.append_nil] at hstep

/-- A turn begins with a prompt, and the read brings what the input has next. -/
theorem hear (h : Served s .polling t asked commands) :
    Served s (.heard (t.ask .command).1) (t.ask .command).2 (asked + 1) commands := by
  have hidle := h.pass (.idle h.clear) rfl rfl rfl rfl fun _ => id
  obtain ⟨_, hc, hquiet⟩ := (t.console.record (.asked .command t.view)).calm_promptFor
    Prompt.command.text
  have hclear : (t.ask .command).2.console.pending = false := by
    have hpending := hc.pending
    rw [hquiet, Bool.or_false] at hpending
    exact hpending.trans h.clear
  have hsteady : (t.ask .command).2.host.Steady :=
    ⟨(Input.readLine_of_flows h.steady.flows).2.2, h.steady.launches⟩
  have hout : (t.ask .command).2.console.out =
      (t.console.out.emit (encode Prompt.command.text)).2.2 :=
    Console.out_promptFor _ _
  have hheard := hidle.step .hear 1 [] hclear hsteady
    (by rw [h.clear]; rfl) rfl (fun bs hbs => by
      rw [hout]
      simpa using hbs.emit (encode Prompt.command.text))
  rwa [List.append_nil] at hheard

/-- A launch leads back to a new turn; if it has failed, that was not fatal and is complained of. -/
theorem launch {program : String} {command : Command}
    (h : Served s (.launching program command) t asked commands) :
    ∃ u, Served s .polling u asked (commands ++ [command]) ∧ u.host.input = t.host.input := by
  obtain ⟨hconsole, hleft, hfailure⟩ := h.steady.launchScripted command
    (t.console.record (.launching .command command t.view))
  have hsteady : (t.launch .command command).2.host.Steady :=
    ⟨h.steady.flows, fun item hitem => h.steady.launches item (hleft item hitem)⟩
  have hclear : (t.launch .command command).2.console.pending = false :=
    (congrArg Console.pending hconsole).trans h.clear
  have hout : (t.launch .command command).2.console.out = t.console.out := by
    have hsame := congrArg Console.out hconsole
    exact hsame
  have hserved : ∀ {u : Session Piped}, Step (.launching program command) t .polling u →
      u.host = (t.launch .command command).2.host →
      u.console.pending = (t.launch .command command).2.console.pending →
      u.console.out = (t.launch .command command).2.console.out →
      Served s .polling u asked (commands ++ [command]) := by
    intro u hs hhost hpending hsaid
    refine h.step hs 0 [command] (hpending.trans hclear) (hhost ▸ hsteady) rfl rfl fun bs hbs => ?_
    rw [hsaid, hout]
    simpa using hbs
  cases hresult : (t.launch .command command).1 with
  | ok launched => exact ⟨_, hserved (.launched hresult) rfl rfl rfl, rfl⟩
  | error e => exact ⟨_, hserved (.complain hresult (hfailure e hresult)) rfl rfl rfl, rfl⟩

/-- A line takes one turn. -/
theorem line {line : Bytes} {rest : List Bytes} (h : Served s .polling t asked commands)
    (hlines : lines t.host.input.content = line :: rest) :
    ∃ u, Served s .polling u (asked + 1) (commands ++ commandsOf [line]) ∧
      lines u.host.input.content = rest := by
  obtain ⟨hread, hleft, -⟩ := Input.readLine_of_flows h.steady.flows
  rw [hlines] at hread hleft
  have hne : line ≠ [] := ne_nil_of_mem_lines (hlines ▸ List.mem_cons_self)
  have houtcome : (t.ask .command).1 = .line (lineText line) := by
    change ReadOutcome.ofRead t.host.input.readLine.1 = _
    rw [hread]
    simp [ReadOutcome.ofRead, ReadOutcome.ofBytes, hne, lineText]
  have hheard := h.hear
  rw [houtcome] at hheard
  have hleft : lines (t.ask .command).2.host.input.content = rest := hleft
  generalize (t.ask .command).2 = u at hheard hleft
  rw [commandsOf_singleton]
  cases hprogram : (Command.parse (lineText line)).program? with
  | none =>
    rw [if_pos (Command.program?_eq_none_iff.1 hprogram), List.append_nil]
    exact ⟨u, hheard.pass (.blank hprogram) rfl rfl rfl rfl fun _ => id, hleft⟩
  | some program =>
    have hasks : (Command.parse (lineText line)).isEmpty ≠ true := by
      rw [ne_eq, ← Command.program?_eq_none_iff, hprogram]
      exact nofun
    rw [if_neg hasks]
    have hadded := hheard.pass (.remember hprogram) rfl rfl rfl rfl fun _ => id
    have hkept := hadded.pass .keep rfl rfl (pending_keep _) (host_keep _)
      fun bs hbs => by rwa [out_keep]
    obtain ⟨v, hv, hinput⟩ := hkept.launch
    rw [host_keep] at hinput
    exact ⟨v, hv, (congrArg (lines ·.content) hinput).trans hleft⟩

/-- At the end of the input the session ends well. -/
theorem finish (h : Served s .polling t asked commands)
    (hlines : lines t.host.input.content = []) :
    ∃ u, Served s (.over (.ok 0)) u (asked + 1) commands := by
  obtain ⟨hread, -, -⟩ := Input.readLine_of_flows h.steady.flows
  rw [hlines] at hread
  have houtcome : (t.ask .command).1 = .endOfStream := by
    change ReadOutcome.ofRead t.host.input.readLine.1 = _
    rw [hread]
    rfl
  have hheard := h.hear
  rw [houtcome] at hheard
  obtain ⟨_, hc, hquiet⟩ := (t.ask .command).2.console.calm_flush
  have hclear : (t.ask .command).2.finish.console.pending =
      (t.ask .command).2.console.pending := by
    have hpending := hc.pending
    rwa [hquiet, Bool.or_false] at hpending
  refine ⟨_, hheard.pass .finish rfl rfl hclear rfl fun bs hbs => ?_⟩
  rw [Session.finish, Console.out_flush]
  exact hbs.flush

/-- The session runs through its input. -/
theorem through (h : Served s .polling t asked commands) :
    ∃ u, Served s (.over (.ok 0)) u (asked + (lines t.host.input.content).length + 1)
      (commands ++ commandsOf (lines t.host.input.content)) := by
  generalize hlines : lines t.host.input.content = rest
  induction rest generalizing t asked commands with
  | nil =>
    obtain ⟨u, hu⟩ := h.finish hlines
    have hnone : commandsOf [] = [] := rfl
    rw [hnone, List.append_nil]
    exact ⟨u, hu⟩
  | cons line rest ih =>
    obtain ⟨u, hu, hrest⟩ := h.line hlines
    obtain ⟨v, hv⟩ := ih hu hrest
    rw [commandsOf_cons, ← List.append_assoc, List.length_cons, Nat.add_comm rest.length,
      ← Nat.add_assoc]
    exact ⟨v, hv⟩

end Served

/-- A session on piped input that flows, in which no interrupt waits or arrives and no launch fails
fatally, ends well. It launches the commands that the lines of its input ask for, in order and
nothing else. It asks for a command once for each line, blank or not, and once more at the end of
the input; the prompts are all that its output is offered. -/
theorem piped_lines_launched (settings : Settings) (host : Piped) (console : Console)
    (hsteady : host.Steady) (hclear : console.pending = false) :
    let s := start settings host console
    let given := lines host.input.content
    s.run.1 = .ok 0 ∧ launchesOf s.events = (commandsOf given).map (Prompt.command, ·) ∧
      questionsOf s.events = List.replicate (given.length + 1) (.command, false) ∧
      (console.out.chunk ≠ some 0 → console.out.Offered
        (List.replicate (given.length + 1) (encode Prompt.command.text)).flatten
        s.run.2.console.out) := by
  intro s given
  have hbegun : Served s .polling s 0 [] :=
    .refl ((pending_start settings host console).trans hclear) hsteady
  obtain ⟨u, hu⟩ := hbegun.through
  have hend : s.run = (.ok 0, u) := hu.path.over_unique
  have hevents : s.events = s.since u := by rw [events, hend]
  have hgiven : 0 + (lines s.host.input.content).length + 1 = given.length + 1 :=
    congrArg (· + 1) (Nat.zero_add _)
  rw [hevents, hend, ← out_start settings host console, ← hgiven]
  exact ⟨rfl, hu.launches, hu.questions, hu.prompts⟩

/-- The first line comes in three fills, one of them cut short; the second is blank, and the last
lacks its line feed and holds a byte that is no text. -/
theorem piped_lines_launched_of_cuts :
    let host : Piped :=
      ⟨⟨encode "l", [.bytes (encode "s -l\x0d"), .fault (.system .interrupted),
          .bytes (encode "\n \t\n"), .bytes (encode "pwd\nid &" ++ [0xff])]⟩,
        [⟨.ends (.code 2), false⟩, ⟨.fails (.invalidArgument "nul byte"), false⟩]⟩
    let s := start (Settings.withHistoryPath (encode "h")) host
      (Console.fresh Disk.bare Sink.unbounded)
    s.run.1 = .ok 0 ∧
      launchesOf s.events = [(.command, ⟨["ls", "-l"], false⟩), (.command, ⟨["pwd"], false⟩),
        (.command, ⟨["id", "\uFFFD"], true⟩)] ∧
      s.run.2.console.out.accepted = encode "COMMAND->COMMAND->COMMAND->COMMAND->COMMAND->" := by
  intro host s
  have hsteady : host.Steady := by
    refine ⟨?_, by decide⟩
    change ∀ fill ∈ host.input.fills, fill.Flows
    decide +kernel
  obtain ⟨hresult, hlaunches, -, hprompts⟩ := piped_lines_launched
    (Settings.withHistoryPath (encode "h")) host (Console.fresh Disk.bare Sink.unbounded) hsteady
    rfl
  refine ⟨hresult, hlaunches.trans ?_, ?_⟩
  · decide +kernel
  · rw [(hprompts (by decide)).accepted_of_lossless Sink.lossless_unbounded]
    decide +kernel

end Session

end RecallShell
