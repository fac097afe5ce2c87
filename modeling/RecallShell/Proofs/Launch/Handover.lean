import Mathlib.Data.List.Basic
import RecallShell.Launch.Kernel
import RecallShell.Proofs.Text.Encoding

/-!
# Handing arguments over

A program finds its arguments by following pointers up to the null pointer and reading each string
up to its first zero. It finds the bytes of all of them, in order and whole, because no string holds
a zero before its end and no pointer before the last is null. If an argument holds a zero, all are
refused on account of the first such one, and then no child is asked for.
-/

namespace RecallShell

open Text

namespace Argv

variable {args : List String} {v : Argv}

/-- An argument holds the character that ends strings exactly if it has a byte zero. -/
theorem holdsZero_iff {arg : String} : holdsZero arg = true ↔ '\x00' ∈ arg.toList :=
  List.contains_iff_mem

/-- An argument without that character has no byte zero. -/
theorem zero_not_mem_encode {arg : String} (h : '\x00' ∉ arg.toList) : (0 : UInt8) ∉ encode arg :=
  mt (mem_encode_iff (c := '\x00') (by decide)).1 h

/-- Reading the string of an argument up to its first zero brings all bytes of the argument. -/
theorem takeWhile_terminated {arg : String} (h : '\x00' ∉ arg.toList) :
    (terminated arg).takeWhile (· != 0) = encode arg := by
  have hzero := zero_not_mem_encode h
  rw [terminated, List.takeWhile_append_of_pos]
  · simp
  · intro b hb
    simp only [bne_iff_ne]
    rintro rfl
    exact hzero hb

/-- Following the pointers up to the null pointer, and each to its string's first zero, comes to
reading each string up to its first zero. -/
theorem received_eq (v : Argv) : v.received = v.strings.map (·.takeWhile (· != 0)) := by
  have hpointers : v.pointers.takeWhile Option.isSome =
      (List.range v.strings.length).map some := by
    rw [pointers, List.takeWhile_append_of_pos (by simp)]
    simp
  have hstrings : v.received = (List.range v.strings.length).map v.stringAt := by
    rw [received, hpointers, List.filterMap_map]
    exact congrFun (List.filterMap_eq_map (f := v.stringAt)) _
  rw [hstrings]
  refine List.ext_getElem (by simp) fun i hi _ => ?_
  have hlt : i < v.strings.length := by simpa using hi
  simp [stringAt, List.getD_eq_getElem?_getD, List.getElem?_eq_getElem hlt]

/-- Only the last pointer is null. -/
theorem count_none_pointers (v : Argv) :
    v.pointers.getLast? = some none ∧ v.pointers.count none = 1 := by
  have hnone : (none : Option Nat) ∉ (List.range v.strings.length).map some := by simp
  rw [pointers, List.getLast?_concat, List.count_append, List.count_eq_zero_of_not_mem hnone]
  exact ⟨rfl, rfl⟩

/-- Arguments are handed over if none of them holds a zero, each with one at its end. -/
theorem ofArgs_eq_ok_iff : ofArgs args = .ok v ↔
    (∀ arg ∈ args, '\x00' ∉ arg.toList) ∧ v = ⟨args.map terminated⟩ := by
  unfold ofArgs
  cases hfind : args.find? holdsZero with
  | none =>
    have hnone : ∀ arg ∈ args, '\x00' ∉ arg.toList := fun arg harg hzero =>
      List.find?_eq_none.1 hfind arg harg (holdsZero_iff.2 hzero)
    simp only [Except.ok.injEq]
    exact ⟨fun h => ⟨hnone, h.symm⟩, fun h => h.2.symm⟩
  | some arg =>
    have hzero : '\x00' ∈ arg.toList := holdsZero_iff.1 (List.find?_some hfind)
    simp only [reduceCtorEq, false_iff, not_and]
    exact fun hnone => absurd hzero (hnone arg (List.mem_of_find?_eq_some hfind))

/-- They are refused on account of the first one that holds a zero. -/
theorem ofArgs_eq_error_iff {failure : ShellError} : ofArgs args = .error failure ↔
    ∃ before arg after, args = before ++ arg :: after ∧
      (∀ other ∈ before, '\x00' ∉ other.toList) ∧ '\x00' ∈ arg.toList ∧
      failure = .invalidArgument (escape arg) := by
  have hclear : ∀ {arg : String}, holdsZero arg = false ↔ '\x00' ∉ arg.toList := fun {arg} => by
    rw [← holdsZero_iff, Bool.not_eq_true]
  constructor
  · intro h
    unfold ofArgs at h
    cases hfind : args.find? holdsZero with
    | none =>
      rw [hfind] at h
      cases h
    | some arg =>
      rw [hfind] at h
      obtain ⟨hzero, before, after, hargs, hbefore⟩ := List.find?_eq_some_iff_append.1 hfind
      refine ⟨before, arg, after, hargs, fun other hother => ?_, holdsZero_iff.1 hzero,
        (Except.error.inj h).symm⟩
      exact hclear.1 (by simpa using hbefore other hother)
  · rintro ⟨before, arg, after, hargs, hbefore, hzero, rfl⟩
    have hfind : args.find? holdsZero = some arg := by
      rw [List.find?_eq_some_iff_append]
      refine ⟨holdsZero_iff.2 hzero, before, after, hargs, fun other hother => ?_⟩
      rw [hclear.2 (hbefore other hother), Bool.not_false]
    rw [ofArgs, hfind]

/-- Arguments that are handed over are found as they are, whichever they are. -/
theorem received_of_ofArgs (h : ofArgs args = .ok v) :
    v.received = args.map encode ∧
      ∀ string ∈ v.strings, ∃ bs, string = bs ++ [0] ∧ (0 : UInt8) ∉ bs := by
  obtain ⟨hnone, rfl⟩ := ofArgs_eq_ok_iff.1 h
  constructor
  · rw [received_eq, List.map_map]
    exact List.map_congr_left fun arg harg => takeWhile_terminated (hnone arg harg)
  · intro string hstring
    obtain ⟨arg, harg, rfl⟩ := List.mem_map.1 hstring
    exact ⟨encode arg, rfl, zero_not_mem_encode (hnone arg harg)⟩

end Argv

/-- A command can be launched if it has a program and its arguments can be handed over. -/
theorem Command.exists_argv_iff {command : Command} : (∃ argv, command.argv = .ok argv) ↔
    command.args ≠ [] ∧ ∃ v, Argv.ofArgs command.args = .ok v := by
  unfold argv
  cases hargs : Argv.ofArgs command.args with
  | error failure => simp
  | ok v =>
    obtain ⟨-, rfl⟩ := Argv.ofArgs_eq_ok_iff.1 hargs
    by_cases hempty : command.args = [] <;> simp [Argv.isEmpty, hempty]

/-- Why its arguments cannot be handed over is why a command cannot be launched. -/
theorem Command.argv_of_error {command : Command} {failure : ShellError}
    (h : Argv.ofArgs command.args = .error failure) : command.argv = .error failure := by
  rw [argv, h]

namespace Kernel

/-- Following a child asks for no other. -/
theorem forks_follow (k : Kernel) (command : Command) (child : Pid) :
    (k.follow command child).2.forks = k.forks := by
  unfold follow
  split
  · rfl
  · split <;> rfl

/-- A command that can be launched asks for a child. -/
theorem forks_launch {command : Command} {argv : Argv} (k : Kernel) (h : command.argv = .ok argv) :
    (k.launch command).2.forks = k.forks.tail := by
  simp only [launch, h]
  obtain ⟨forks, reports⟩ := k
  cases forks with
  | nil => rfl
  | cons answer forks =>
    cases answer with
    | error number => rfl
    | ok child => exact forks_follow ⟨forks, reports⟩ command child

/-- One that cannot be fails at once and leaves the system alone. -/
theorem launch_of_error {command : Command} {failure : ShellError} (k : Kernel)
    (h : command.argv = .error failure) : k.launch command = (.error failure, k) := by
  rw [launch, h]

/-- A launch takes an answer about a child exactly if the command can be launched. -/
theorem forks_launch_iff {command : Command} {answer : Except Errno Pid}
    {forks : List (Except Errno Pid)} {reports : List WaitReport} :
    (launch ⟨answer :: forks, reports⟩ command).2.forks = forks ↔
      ∃ argv, command.argv = .ok argv := by
  cases hargv : command.argv with
  | error failure =>
    rw [launch_of_error _ hargv]
    simp
  | ok argv =>
    rw [forks_launch _ hargv]
    simp

/-- Arguments are handed over if none of them holds a zero, and the program then finds the bytes of
each in order and whole: every string ends with its first zero, and only the last pointer is null.
Otherwise they are refused, on account of the first argument that holds a zero. A child is asked for
exactly if there are arguments and they can be handed over; if not, the launch fails at once. -/
theorem arguments_handed_over (args : List String) :
    ((∃ v, Argv.ofArgs args = .ok v) ↔ ∀ arg ∈ args, '\x00' ∉ arg.toList) ∧
      (∀ v, Argv.ofArgs args = .ok v → v.received = args.map encode ∧
        v.pointers.getLast? = some none ∧ v.pointers.count none = 1 ∧
        ∀ string ∈ v.strings, ∃ bs, string = bs ++ [0] ∧ (0 : UInt8) ∉ bs) ∧
      (∀ failure, Argv.ofArgs args = .error failure ↔ ∃ before arg after,
        args = before ++ arg :: after ∧ (∀ other ∈ before, '\x00' ∉ other.toList) ∧
        '\x00' ∈ arg.toList ∧ failure = .invalidArgument (escape arg)) ∧
      ∀ background,
        (∀ answer forks reports,
          (launch ⟨answer :: forks, reports⟩ ⟨args, background⟩).2.forks = forks ↔
            args ≠ [] ∧ ∃ v, Argv.ofArgs args = .ok v) ∧
        (∀ failure, Argv.ofArgs args = .error failure →
          ∀ k : Kernel, k.launch ⟨args, background⟩ = (.error failure, k)) ∧
        (args = [] → ∀ k : Kernel,
          k.launch ⟨args, background⟩ = (.error (.invalidArgument "empty command"), k)) := by
  refine ⟨?_, fun v hv => ?_, fun failure => Argv.ofArgs_eq_error_iff, fun background =>
    ⟨?_, fun failure hfailure k => k.launch_of_error (Command.argv_of_error hfailure), ?_⟩⟩
  · simp only [Argv.ofArgs_eq_ok_iff, exists_and_left, exists_eq, and_true]
  · obtain ⟨hreceived, hstrings⟩ := Argv.received_of_ofArgs hv
    exact ⟨hreceived, v.count_none_pointers.1, v.count_none_pointers.2, hstrings⟩
  · exact fun answer forks reports => forks_launch_iff.trans Command.exists_argv_iff
  · rintro rfl k
    exact k.launch_of_error rfl

/-- An empty argument and one beyond the ASCII range are found as they are. Of two arguments that
hold a zero the first is named, and no child is asked for. -/
theorem arguments_handed_over_of_zero :
    let k : Kernel := ⟨[.ok 101], []⟩
    (∃ v, Argv.ofArgs ["printf", "", "é 0"] = .ok v ∧
      v.received = [encode "printf", [], [0xC3, 0xA9, 0x20, 0x30]]) ∧
      (k.launch ⟨["printf", "", "é 0"], true⟩).2.forks = [] ∧
      Argv.ofArgs ["printf", "a\x00\tb", "\x00"] = .error (.invalidArgument "a\\0\\tb") ∧
      k.launch ⟨["printf", "a\x00\tb", "\x00"], true⟩ =
        (.error (.invalidArgument "a\\0\\tb"), k) := by
  intro k
  obtain ⟨hsound, hreceived, -, hasks⟩ := arguments_handed_over ["printf", "", "é 0"]
  obtain ⟨-, -, hrefused, hleaves⟩ := arguments_handed_over ["printf", "a\x00\tb", "\x00"]
  obtain ⟨v, hv⟩ := hsound.2 (by decide)
  have hnul := (hrefused (.invalidArgument "a\\0\\tb")).2
    ⟨["printf"], "a\x00\tb", ["\x00"], rfl, by decide, by decide, by decide +kernel⟩
  refine ⟨⟨v, hv, (hreceived v hv).1.trans (by decide +kernel)⟩, ?_, hnul, ?_⟩
  · exact ((hasks true).1 (.ok 101) [] []).2 ⟨by simp, v, hv⟩
  · exact (hleaves true).2.1 _ hnul k

end Kernel

end RecallShell
