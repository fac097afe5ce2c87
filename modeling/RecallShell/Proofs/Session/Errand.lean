import RecallShell.Proofs.Session.Complaint

/-!
# Errands

The errands of a session are what it does when nobody interrupts it: it reads lines for commands,
writes the history, launches the commands and complains of what fails. The log tells of them in
order. What it tells of interrupts, of offers and of repeats is no errand, nor is a read of a
command that was cut short.
-/

namespace RecallShell

open Text

/-- What an event tells of the errands of a session. Whether an interrupt waits is none of them. -/
def Event.errand? : Event → Option Event
  | .answered .command outcome =>
    if outcome = .interrupted then none else some (.answered .command outcome)
  | .saved failure => some (.saved failure)
  | .launching .command command view =>
    some (.launching .command command { view with pending := false })
  | .launched .command command result => some (.launched .command command result)
  | .complained text => some (.complained text)
  | _ => none

/-- The errands that events tell of, in order. -/
def errandsOf (events : List Event) : List Event := events.filterMap Event.errand?

theorem errandsOf_append (xs ys : List Event) :
    errandsOf (xs ++ ys) = errandsOf xs ++ errandsOf ys :=
  List.filterMap_append

theorem errandsOf_singleton (event : Event) : errandsOf [event] = event.errand?.toList := by
  cases h : event.errand? <;> simp [errandsOf, h]

/-- Ambient events are no errands. -/
theorem errandsOf_ambient {events : List Event} (h : ∀ event ∈ events, event.isAmbient = true) :
    errandsOf events = [] := by
  refine List.filterMap_eq_nil_iff.2 fun event he => ?_
  have hambient := h event he
  cases event <;> first | rfl | simp [Event.isAmbient] at hambient

/-- All complaints are errands. -/
theorem complaintsOf_errandsOf (events : List Event) :
    complaintsOf (errandsOf events) = complaintsOf events := by
  rw [complaintsOf, errandsOf, List.filterMap_filterMap, complaintsOf]
  congr 1
  funext event
  cases event with
  | answered prompt outcome =>
    cases prompt with
    | command =>
      simp only [Event.errand?]
      split <;> rfl
    | offer => rfl
  | launching prompt => cases prompt <;> rfl
  | launched prompt => cases prompt <;> rfl
  | _ => rfl

theorem errandsOf_record (c : Console) (event : Event) :
    errandsOf (c.record event).log = errandsOf c.log ++ event.errand?.toList := by
  rw [Console.record, errandsOf_append, errandsOf_singleton]

/-- No errand is run in a calm lapse. -/
theorem Console.Calm.errandsOf_eq {c d : Console} {events : List Event} (h : c.Calm d events) :
    errandsOf d.log = errandsOf c.log := by
  rw [h.log, errandsOf_append, errandsOf_ambient h.ambient, List.append_nil]

namespace Session

variable {H : Type} [Host H] [Host.Discreet H]

/-- What a read comes to may be an errand. -/
theorem errandsOf_ask (s : Session H) (prompt : Prompt) :
    errandsOf (s.ask prompt).2.console.log = errandsOf s.console.log ++
      (Event.answered prompt (s.ask prompt).1).errand?.toList := by
  obtain ⟨ambient, hambient, hlog⟩ := s.log_ask prompt
  rw [hlog, ← List.singleton_append, errandsOf_append, errandsOf_append, errandsOf_append,
    errandsOf_ambient hambient, errandsOf_singleton, errandsOf_singleton]
  rfl

/-- A launch and what it comes to may be errands. -/
theorem errandsOf_launch (s : Session H) (prompt : Prompt) (command : Command) :
    errandsOf (s.launch prompt command).2.console.log = errandsOf s.console.log ++
      ((Event.launching prompt command s.view).errand?.toList ++
        (Event.launched prompt command (s.launch prompt command).1).errand?.toList) := by
  obtain ⟨ambient, hambient, hlog⟩ := s.log_launch prompt command
  rw [hlog, ← List.singleton_append, errandsOf_append, errandsOf_append, errandsOf_append,
    errandsOf_ambient hambient, errandsOf_singleton, errandsOf_singleton, List.append_nil]

end Session

end RecallShell
