import RecallShell.Proofs.Host.Reading

/-!
# Input that flows

Input flows when each fill brings some bytes or is only cut short by a signal. Then it does not
matter how the bytes are cut into fills: the reads bring the lines of the whole content one after
the other, each with its line feed, and when there are no more of them nothing. The last line may
lack its line feed.
-/

namespace RecallShell

open Text

/-- The bytes that a fill brings. -/
def Fill.data : Fill → Bytes
  | .bytes data => data
  | .fault _ => []

/-- A fill that does not stop the flow: it brings some bytes, or is cut short by a signal. -/
def Fill.Flows : Fill → Prop
  | .bytes data => data ≠ []
  | .fault cause => cause.isInterruption = true

instance : DecidablePred Fill.Flows
  | .bytes data => inferInstanceAs (Decidable (data ≠ []))
  | .fault cause => inferInstanceAs (Decidable (cause.isInterruption = true))

namespace Input

/-- All bytes that are still to be read. -/
def content (i : Input) : Bytes := i.buffer ++ i.fills.flatMap Fill.data

/-- No fill stops the flow. -/
def Flows (i : Input) : Prop := ∀ fill ∈ i.fills, fill.Flows

instance : DecidablePred Flows :=
  fun i => inferInstanceAs (Decidable (∀ fill ∈ i.fills, fill.Flows))

/-- Gathering a line behind bytes of the same line brings the first line of all these bytes and
leaves the others. -/
theorem gather_of_flows {gathered buffer : Bytes} {fills : List Fill}
    (hflows : ∀ fill ∈ fills, fill.Flows) (hgathered : lineFeed ∉ gathered) :
    (gather gathered buffer fills).1 =
        .ok ((lines (gathered ++ (Input.mk buffer fills).content)).headD []) ∧
      lines (gather gathered buffer fills).2.content =
        (lines (gathered ++ (Input.mk buffer fills).content)).tail ∧
      (gather gathered buffer fills).2.Flows := by
  fun_induction gather gathered buffer fills with
  | case1 gathered buffer line rest fills hfirst =>
    -- The line feed is in the buffer: the line ends there, and the rest of the buffer is left.
    have hspec := firstLine?_spec buffer
    rw [hfirst] at hspec
    obtain ⟨before, rfl, hbefore⟩ := hspec
    have hbuffer := append_of_firstLine?_eq_some hfirst
    have hnone : lineFeed ∉ gathered ++ before := by
      rw [List.mem_append, not_or]
      exact ⟨hgathered, hbefore⟩
    have hlines : lines (gathered ++ (Input.mk buffer fills).content) =
        (gathered ++ (before ++ [lineFeed])) :: lines (Input.mk rest fills).content := by
      have hcontent : gathered ++ (Input.mk buffer fills).content =
          (gathered ++ before) ++ lineFeed :: (Input.mk rest fills).content := by
        simp [content, ← hbuffer]
      rw [hcontent, lines_append_lineFeed hnone, List.append_assoc]
    rw [hlines]
    exact ⟨rfl, rfl, hflows⟩
  | case2 gathered buffer hfirst =>
    -- No more bytes come: what there is may be the last line.
    have hlines := lines_of_not_mem (lineFeed_not_mem_append hgathered hfirst)
    have hcontent : (Input.mk buffer []).content = buffer := by simp [content]
    rw [hcontent, hlines]
    split <;> simp_all [content, lines, Flows]
  | case3 gathered buffer data fills hfirst hempty =>
    have hdata : data ≠ [] := hflows (.bytes data) List.mem_cons_self
    exact absurd (List.isEmpty_iff.1 hempty) hdata
  | case4 gathered buffer data fills hfirst hdata ih =>
    have hcontent : (Input.mk buffer (.bytes data :: fills)).content =
        buffer ++ (Input.mk data fills).content := by simp [content, Fill.data]
    rw [hcontent, ← List.append_assoc]
    exact ih (fun fill hf => hflows fill (List.mem_cons_of_mem _ hf))
      (lineFeed_not_mem_append hgathered hfirst)
  | case5 gathered buffer cause fills hfirst hcause ih =>
    have hcontent : (Input.mk buffer (.fault cause :: fills)).content =
        buffer ++ (Input.mk [] fills).content := by simp [content, Fill.data]
    rw [hcontent, ← List.append_assoc]
    exact ih (fun fill hf => hflows fill (List.mem_cons_of_mem _ hf))
      (lineFeed_not_mem_append hgathered hfirst)
  | case6 gathered buffer cause fills hfirst hcause =>
    exact absurd (hflows (.fault cause) List.mem_cons_self) hcause

/-- However the input arrives, a read brings its first line and leaves the others; past the last
line it brings nothing. -/
theorem readLine_of_flows {i : Input} (h : i.Flows) :
    i.readLine.1 = .ok ((lines i.content).headD []) ∧
      lines i.readLine.2.content = (lines i.content).tail ∧ i.readLine.2.Flows :=
  gather_of_flows h List.not_mem_nil

end Input

end RecallShell
