import Mathlib.Data.List.DropRight
import RecallShell.Disk.Standard
import RecallShell.Proofs.Host.Tidy
import RecallShell.Proofs.Session.Repeat
import RecallShell.Proofs.Text.Runs

/-!
# How an interrupt is handled

The history is shown, an answer is read, and at most one command is launched. Everything that is
said before the answer has been sent when it is asked for. What follows depends on the answer and on
the newest entry alone, and then on what the launch comes to.
-/

namespace RecallShell

open Text Recall

namespace Text

variable {p : Char → Bool} {c : Char} {cs : List Char}

/-- A single character is left exactly when nothing follows it but characters of the kind. -/
theorem dropAllAtEnd_eq_singleton_iff (hc : p c = false) :
    dropAllAtEnd p cs = [c] ↔ ∃ ends, cs = c :: ends ∧ ∀ x ∈ ends, p x = true := by
  constructor
  · intro h
    refine ⟨cs.rtakeWhile p, ?_, fun x hx => List.mem_rtakeWhile_imp hx⟩
    have hcs := List.rdropWhile_append_rtakeWhile (p := p) (l := cs)
    rw [show cs.rdropWhile p = [c] from h] at hcs
    exact hcs.symm
  · rintro ⟨ends, rfl, hends⟩
    have hreverse : ∀ x ∈ ends.reverse, p x = true := by simpa using hends
    rw [dropAllAtEnd, List.reverse_cons, List.dropWhile_append_of_pos hreverse]
    simp [hc]

end Text

namespace Recall

/-- A reply takes the offer: it is the letter alone, perhaps with line terminators behind it. -/
def Takes (reply : String) : Prop :=
  ∃ ends, reply.toList = 'r' :: ends ∧ ∀ c ∈ ends, c = '\r' ∨ c = '\n'

/-- An entry is the newest one, and not blank. -/
def Repeatable (entries : List String) (entry : String) : Prop :=
  entries.getLast? = some entry ∧ ∃ c ∈ entry.toList, isBlank c = false

theorem accepts_iff {reply : String} : accepts reply = true ↔ Takes reply := by
  have hends : ∀ c, isTerminator c = true ↔ c = '\r' ∨ c = '\n' := by simp [isTerminator]
  have hletter : accepts reply = true ↔ dropAllAtEnd isTerminator reply.toList = ['r'] := by
    rw [accepts, beq_iff_eq, trimTerminators, acceptance, ← String.toList_inj,
      String.toList_ofList]
    rfl
  rw [hletter, dropAllAtEnd_eq_singleton_iff rfl]
  simp only [hends, Takes]

/-- The entry that is on offer is the newest one, unless that one is blank. -/
theorem candidate?_eq_some_iff {history : History} {entry : String} :
    candidate? history = some entry ↔ Repeatable history.entries entry := by
  rw [Repeatable]
  cases hnewest : history.entries.getLast? with
  | none => simp [candidate?, History.newest?, hnewest]
  | some newest =>
    rw [candidate?_of_newest? hnewest, allBlank]
    cases hblank : newest.toList.all isBlank with
    | true =>
      rw [List.all_eq_true] at hblank
      simp only [if_true, reduceCtorEq, false_iff, not_and, Option.some.injEq]
      rintro rfl ⟨c, hc, hnot⟩
      cases (hblank c hc).symm.trans hnot
    | false =>
      rw [List.all_eq_false] at hblank
      simp only [Bool.false_eq_true, if_false, Option.some.injEq]
      refine ⟨?_, And.left⟩
      rintro rfl
      simpa using hblank

theorem candidate?_eq_none_iff {history : History} :
    candidate? history = none ↔ ∀ entry, ¬Repeatable history.entries entry := by
  rw [Option.eq_none_iff_forall_ne_some]
  exact forall_congr' fun entry => not_congr candidate?_eq_some_iff

/-- The line of the newest entry is the last one of those that are shown. -/
theorem getLast?_numbered {entries : List String} {entry : String}
    (h : entries.getLast? = some entry) :
    (numbered entries).getLast? = some s!"{entries.length}: {entry}" := by
  obtain ⟨before, rfl⟩ := List.getLast?_eq_some_iff.1 h
  simp [numbered, List.mapIdx_append]

/-- The command that launches the words of an entry: its arguments are the runs of characters that
are not blank, and it is waited for. -/
def Relaunches (entry : String) (command : Command) : Prop :=
  AreRuns isBlank entry.toList (command.args.map String.toList) ∧ command.background = false

theorem relaunches_ofEntry (entry : String) : Relaunches entry (Command.ofEntry entry) := by
  refine ⟨areRuns_iff.2 ?_, rfl⟩
  simp [Command.ofEntry, Command.foreground, words, Function.comp_def]

/-- What an interrupt leads to and what happens behind the read at the offer, given the entries and
what that read has come to. -/
inductive Settles (entries : List String) : ReadOutcome → Recalled → List Event → Prop
  /-- Whatever does not take the offer is passed over in silence. -/
  | ignored {outcome} (h : ∀ reply, outcome = .line reply → ¬Takes reply) :
      Settles entries outcome .ignored []
  /-- There may be no entry to repeat. -/
  | emptyHistory {reply} (h : Takes reply) (hnone : ∀ entry, ¬Repeatable entries entry) :
      Settles entries (.line reply) .emptyHistory
        [.sent (Sink.lineBytes "No commands in history.")]
  /-- The entry is announced and launched. -/
  | repeated {reply entry command} (view launched) {during : List Event} (h : Takes reply)
      (hentry : Repeatable entries entry) (hcommand : Relaunches entry command)
      (hduring : ∀ event ∈ during, event.isAmbient = true) :
      Settles entries (.line reply) (.repeated launched)
        (.sent (Sink.lineBytes s!"Executing command: {entry}") ::
          .launching .offer command view :: during ++ [.launched .offer command (.ok launched)])
  /-- A launch that fails is told of in one more line. -/
  | repeatFailed {reply entry command} (view error warning) {during : List Event}
      (h : Takes reply) (hentry : Repeatable entries entry) (hcommand : Relaunches entry command)
      (hduring : ∀ event ∈ during, event.isAmbient = true) :
      Settles entries (.line reply) .repeatFailed
        (.sent (Sink.lineBytes s!"Executing command: {entry}") ::
          .launching .offer command view :: during ++ [.launched .offer command (.error error),
            .warned warning, .sent (Sink.lineBytes s!"Exec failed: {error.message}")])

/-- Up to the answer nothing is launched. -/
theorem launchesOf_offered {data : Bytes} {shown : List String} {view : View}
    {outcome : ReadOutcome} {waiting rest : List Event}
    (hwaiting : ∀ event ∈ waiting, event.isAmbient = true) :
    launchesOf (.interrupting :: .sent data ::
      shown.map (fun line => .sent (Sink.lineBytes line)) ++
        .asked .offer view :: waiting ++ .answered .offer outcome :: rest) = launchesOf rest := by
  have hshown : launchesOf (shown.map fun line => .sent (Sink.lineBytes line)) = [] :=
    launchesOf_ambient (by simp [Event.isAmbient])
  rw [launchesOf_append, launchesOf_append]
  change launchesOf (shown.map fun line => .sent (Sink.lineBytes line)) ++ launchesOf waiting ++
    launchesOf rest = _
  rw [hshown, launchesOf_ambient hwaiting]
  rfl

/-- An entry that is launched again makes one launch. -/
theorem launchesOf_again {data : Bytes} {command : Command} {view : View}
    {during after : List Event} (hduring : ∀ event ∈ during, event.isAmbient = true) :
    launchesOf (.sent data :: .launching .offer command view :: during ++ after) =
      (.offer, command) :: launchesOf after := by
  change (Prompt.offer, command) :: launchesOf (during ++ after) = _
  rw [launchesOf_append, launchesOf_ambient hduring, List.nil_append]

namespace Settles

variable {entries : List String} {outcome : ReadOutcome} {action : Recalled} {rest : List Event}

/-- Nothing is launched twice. -/
theorem length_launchesOf_le (h : Settles entries outcome action rest) :
    (launchesOf rest).length ≤ 1 := by
  cases h with
  | ignored => exact Nat.zero_le 1
  | emptyHistory => exact Nat.zero_le 1
  | repeated _ _ _ _ _ hduring =>
    rw [launchesOf_again hduring]
    exact Nat.le_refl 1
  | repeatFailed _ _ _ _ _ _ hduring =>
    rw [launchesOf_again hduring]
    exact Nat.le_refl 1

/-- Something is launched exactly when the offer is taken and there is an entry to repeat. -/
theorem launchesOf_ne_nil_iff (h : Settles entries outcome action rest) :
    launchesOf rest ≠ [] ↔
      ∃ reply entry, outcome = .line reply ∧ Takes reply ∧ Repeatable entries entry := by
  cases h with
  | ignored hnot =>
    refine iff_of_false (absurd rfl) ?_
    rintro ⟨reply, _, hreply, htakes, -⟩
    exact hnot reply hreply htakes
  | emptyHistory _ hnone =>
    refine iff_of_false (absurd rfl) ?_
    rintro ⟨_, entry, -, -, hentry⟩
    exact hnone entry hentry
  | repeated _ _ htakes hentry _ hduring =>
    rw [launchesOf_again hduring]
    exact iff_of_true (List.cons_ne_nil _ _) ⟨_, _, rfl, htakes, hentry⟩
  | repeatFailed _ _ _ htakes hentry _ hduring =>
    rw [launchesOf_again hduring]
    exact iff_of_true (List.cons_ne_nil _ _) ⟨_, _, rfl, htakes, hentry⟩

/-- The history counts as empty exactly when the offer is taken and there is nothing to repeat. -/
theorem emptyHistory_iff (h : Settles entries outcome action rest) :
    action = .emptyHistory ↔
      ∃ reply, outcome = .line reply ∧ Takes reply ∧ ∀ entry, ¬Repeatable entries entry := by
  cases h with
  | ignored hnot =>
    refine iff_of_false nofun ?_
    rintro ⟨reply, hreply, htakes, -⟩
    exact hnot reply hreply htakes
  | emptyHistory htakes hnone => exact iff_of_true rfl ⟨_, rfl, htakes, hnone⟩
  | repeated _ _ _ hentry =>
    refine iff_of_false nofun ?_
    rintro ⟨_, -, -, hnone⟩
    exact hnone _ hentry
  | repeatFailed _ _ _ _ hentry =>
    refine iff_of_false nofun ?_
    rintro ⟨_, -, -, hnone⟩
    exact hnone _ hentry

/-- The interrupt is ignored exactly when the offer is not taken. -/
theorem ignored_iff (h : Settles entries outcome action rest) :
    action = .ignored ↔ ∀ reply, outcome = .line reply → ¬Takes reply := by
  cases h with
  | ignored hnot => exact iff_of_true rfl hnot
  | emptyHistory htakes => exact iff_of_false nofun fun hnot => hnot _ rfl htakes
  | repeated _ _ htakes => exact iff_of_false nofun fun hnot => hnot _ rfl htakes
  | repeatFailed _ _ _ htakes => exact iff_of_false nofun fun hnot => hnot _ rfl htakes

end Settles

end Recall

namespace Session

variable {H : Type} {s : Session H}

/-- A line that is said is sent, behind what has been waiting. -/
theorem log_say (h : s.console.out.Lossless) (line : String) :
    (s.say line).console.log =
        s.console.log ++ [.sent (s.console.out.pending ++ Sink.lineBytes line)] ∧
      (s.say line).console.out.Tidy :=
  ⟨Console.log_emit h (by simp [Sink.lineBytes]), Console.tidy_emit h _⟩

/-- Where nothing waits it is sent by itself. -/
theorem log_say_of_tidy (h : s.console.out.Tidy) (line : String) :
    (s.say line).console.log = s.console.log ++ [.sent (Sink.lineBytes line)] ∧
      (s.say line).console.out.Tidy := by
  have hsaid := log_say h.toLossless line
  rwa [h.pending, List.nil_append] at hsaid

/-- Lines that are said are sent one by one. -/
theorem log_sayAll_of_tidy (h : s.console.out.Tidy) (lines : List String) :
    (s.sayAll lines).console.log =
        s.console.log ++ lines.map (fun line => .sent (Sink.lineBytes line)) ∧
      (s.sayAll lines).console.out.Tidy := by
  induction lines generalizing s with
  | nil => exact ⟨(List.append_nil _).symm, h⟩
  | cons line lines ih =>
    obtain ⟨hlog, hout⟩ := log_say_of_tidy h line
    obtain ⟨hrest, htidy⟩ := ih hout
    refine ⟨?_, htidy⟩
    change ((s.say line).sayAll lines).console.log = _
    rw [hrest, hlog, List.append_assoc, List.map_cons, List.singleton_append]

/-- What is shown comes in front of the read at the offer, and the session has said all of it. -/
theorem log_offer (h : s.console.out.Lossless) {l : Session H}
    (hl : l = (s.record .interrupting).sayAll (listing s.history.entries)) :
    l.console.log = s.console.log ++ (.interrupting ::
        .sent (s.console.out.pending ++ Sink.lineBytes "") ::
          (listing s.history.entries).tail.map fun line => .sent (Sink.lineBytes line)) ∧
      l.console.out.Tidy := by
  obtain ⟨hfirst, hout⟩ := log_say (s := s.record .interrupting) h ""
  obtain ⟨hlines, htidy⟩ := log_sayAll_of_tidy hout (listing s.history.entries).tail
  subst hl
  refine ⟨hlines.trans ?_, htidy⟩
  rw [hfirst]
  simp [record, Console.record]

variable [Host H] [Host.Tidy H]

theorem tidy_ask (h : s.console.out.Tidy) (prompt : Prompt) :
    (s.ask prompt).2.console.out.Tidy :=
  Host.Tidy.tidy_readLine prompt s.host _ h

theorem tidy_launch (h : s.console.out.Tidy) (prompt : Prompt) (command : Command) :
    (s.launch prompt command).2.console.out.Tidy :=
  Host.Tidy.tidy_launch command s.host _ h

variable [Host.Discreet H]

/-- An entry that is launched once more settles the interrupt, whatever the launch comes to. -/
theorem settles_repeatEntry (h : s.console.out.Tidy) {reply entry : String}
    (hreply : Takes reply) (hentry : Repeatable s.history.entries entry) :
    ∃ rest, (s.repeatEntry entry).2.console.log = s.console.log ++ rest ∧
      Settles s.history.entries (.line reply) (s.repeatEntry entry).1 rest := by
  obtain ⟨hsaid, hout⟩ := log_say_of_tidy h (announcement entry)
  obtain ⟨during, hduring, hlaunched⟩ :=
    (s.say (announcement entry)).log_launch .offer (Command.ofEntry entry)
  have htidy := tidy_launch hout .offer (Command.ofEntry entry)
  have hcommand := relaunches_ofEntry entry
  rw [hsaid] at hlaunched
  rw [repeatEntry]
  generalize (s.say (announcement entry)).launch .offer (Command.ofEntry entry) = launch at *
  generalize (s.say (announcement entry)).view = view at *
  obtain ⟨error | launched, t⟩ := launch
  · have hwarned : (t.warn (failureWarning entry error)).console.log =
        t.console.log ++ [.warned (failureWarning entry error)] := rfl
    obtain ⟨hfailed, -⟩ := log_say_of_tidy (s := t.warn (failureWarning entry error)) htidy
      (failureLine error)
    refine ⟨_, ?_, .repeatFailed view error (failureWarning entry error) hreply
      hentry hcommand hduring⟩
    rw [hfailed, hwarned, hlaunched]
    simp only [List.append_assoc, List.cons_append, List.nil_append]
    rfl
  · refine ⟨_, ?_, .repeated view launched hreply hentry hcommand hduring⟩
    rw [hlaunched]
    simp only [List.append_assoc, List.cons_append, List.nil_append]
    rfl

/-- What the read at the offer comes to settles the interrupt. -/
theorem settles_takeReply (h : s.console.out.Tidy) (outcome : ReadOutcome) :
    ∃ rest, (s.takeReply outcome).2.console.log = s.console.log ++ rest ∧
      Settles s.history.entries outcome (s.takeReply outcome).1 rest := by
  cases outcome with
  | line reply =>
    rw [takeReply, answerOffer]
    cases haccepts : accepts reply with
    | true =>
      have hreply := accepts_iff.1 haccepts
      cases hcandidate : candidate? s.history with
      | some entry => exact settles_repeatEntry h hreply (candidate?_eq_some_iff.1 hcandidate)
      | none =>
        exact ⟨_, (log_say_of_tidy h nothingToRepeat).1,
          .emptyHistory hreply (candidate?_eq_none_iff.1 hcandidate)⟩
    | false =>
      refine ⟨[], (List.append_nil _).symm, .ignored ?_⟩
      rintro _ ⟨⟩ hreply
      cases haccepts.symm.trans (accepts_iff.2 hreply)
  | _ => exact ⟨[], (List.append_nil _).symm, .ignored (by simp)⟩

/-- With an output that never fails, an interrupt shows the prompt, a header and the numbered
entries behind an empty line, sends each line before it reads one answer, and is settled by that
answer. One command is launched at most: when the answer takes the offer and the newest entry, which
is the one shown last, is not blank. -/
theorem handleInterrupt_settles (s : Session H) (h : s.console.out.Lossless) :
    let entries := s.history.entries
    let shown := ["COMMAND->", "List of the most recent 10 commands:"] ++
      entries.mapIdx fun i entry => s!"{i + 1}: {entry}"
    let after := s.since s.handleInterrupt.2
    ∃ view waiting outcome rest,
      after = .interrupting :: .sent (s.console.out.pending ++ Sink.lineBytes "") ::
        shown.map (fun line => .sent (Sink.lineBytes line)) ++
          .asked .offer view :: waiting ++ .answered .offer outcome :: rest ∧
      (∀ event ∈ waiting, event.isAmbient = true) ∧
      Settles entries outcome s.handleInterrupt.1 rest ∧
      (launchesOf after).length ≤ 1 ∧
      (launchesOf after ≠ [] ↔
        ∃ reply entry, outcome = .line reply ∧ Takes reply ∧ Repeatable entries entry) ∧
      (s.handleInterrupt.1 = .emptyHistory ↔
        ∃ reply, outcome = .line reply ∧ Takes reply ∧ ∀ entry, ¬Repeatable entries entry) ∧
      (s.handleInterrupt.1 = .ignored ↔ ∀ reply, outcome = .line reply → ¬Takes reply) ∧
      ∀ entry, Repeatable entries entry →
        shown.getLast? = some s!"{entries.length}: {entry}" := by
  intro entries shown after
  generalize hl : (s.record .interrupting).sayAll (listing s.history.entries) = l
  obtain ⟨hshown, htidy⟩ := log_offer h hl.symm
  obtain ⟨waiting, hwaiting, hasked⟩ := l.log_ask .offer
  obtain ⟨rest, hrest, hsettles⟩ := settles_takeReply (tidy_ask htidy .offer) (l.ask .offer).1
  rw [← s.handleInterrupt_eq_takeReply hl.symm] at hrest hsettles
  have hhistory : (l.ask .offer).2.history = s.history := by simp [← hl, record]
  rw [hhistory] at hsettles
  have hlisting : (listing s.history.entries).tail = shown := by
    have hheader : header = "List of the most recent 10 commands:" := by decide +kernel
    rw [listing, hheader]
    rfl
  have hafter : after = .interrupting :: .sent (s.console.out.pending ++ Sink.lineBytes "") ::
      shown.map (fun line => .sent (Sink.lineBytes line)) ++
        .asked .offer l.view :: waiting ++ .answered .offer (l.ask .offer).1 :: rest := by
    refine since_eq ?_
    rw [hrest, hasked, hshown, hlisting]
    simp only [List.append_assoc, List.cons_append, List.nil_append]
  have hlaunches : launchesOf after = launchesOf rest :=
    (congrArg launchesOf hafter).trans (launchesOf_offered hwaiting)
  refine ⟨l.view, waiting, _, rest, hafter, hwaiting, hsettles, ?_, ?_, hsettles.emptyHistory_iff,
    hsettles.ignored_iff, ?_⟩
  · rw [hlaunches]
    exact hsettles.length_launchesOf_le
  · rw [hlaunches]
    exact hsettles.launchesOf_ne_nil_iff
  · intro entry hentry
    have hlast : (numbered entries).getLast? = _ := getLast?_numbered hentry.1
    rw [List.getLast?_append]
    change ((numbered entries).getLast?.or _) = _
    rw [hlast]
    rfl

/-- A history that has room for two entries is listed behind a byte that has been waiting. The
newest entry has two words, and its launch fails. -/
theorem handleInterrupt_settles_of_failure :
    let s : Session Script :=
      { path := encode "h"
        history := (History.withCapacity 2).appendAll ["a", "b", "d\u00a0é"]
        host := ⟨[⟨.line "r\r\n", true⟩], [⟨.fails (.fork .tryAgain), false⟩]⟩
        console := Console.fresh Disk.bare
          { Sink.unbounded with chunk := some 3, pending := encode "!" } }
    s.console.out.Lossless ∧ s.handleInterrupt.1 = .repeatFailed ∧
      launchesOf (s.since s.handleInterrupt.2) = [(.offer, ⟨["d", "é"], false⟩)] ∧
      ∃ view waiting outcome rest,
        s.since s.handleInterrupt.2 = .interrupting :: .sent (encode "!\n") ::
          ["COMMAND->", "List of the most recent 10 commands:", "1: b", "2: d\u00a0é"].map
            (fun line => .sent (Sink.lineBytes line)) ++
            .asked .offer view :: waiting ++ .answered .offer outcome :: rest ∧
        Settles ["b", "d\u00a0é"] outcome .repeatFailed rest := by
  intro s
  have hout : s.console.out.Lossless := ⟨rfl, by decide, nofun, rfl⟩
  have haction : s.handleInterrupt.1 = .repeatFailed := by decide +kernel
  have hentries : s.history.entries = ["b", "d\u00a0é"] := by decide +kernel
  obtain ⟨view, waiting, outcome, rest, hafter, -, hsettles, -⟩ := handleInterrupt_settles s hout
  rw [haction, hentries] at hsettles
  rw [hentries] at hafter
  refine ⟨hout, haction, by decide +kernel, view, waiting, outcome, rest, hafter.trans ?_, hsettles⟩
  have hsaid : s.console.out.pending ++ Sink.lineBytes "" = encode "!\n" := by decide +kernel
  rw [hsaid]
  rfl

end Session

end RecallShell
