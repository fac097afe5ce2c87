import RecallShell.Disk.Standard
import RecallShell.Proofs.Disk.Leading

/-!
# Files that are written and read back

On a disk whose paths start and end in directories, a file that could be written under a path where
there was none holds what was written, and so does a file that could be written anew. What a file
holds is what reading it brings, unless it may not be read.
-/

namespace RecallShell

open Text

namespace Disk

/-- Paths start in directories, and directories lie in directories. -/
structure Sound (d : Disk) : Prop where
  /-- Absolute paths start in a directory. -/
  root : (d.node root).isDirectory = true
  /-- Relative paths start in a directory. -/
  here : (d.node d.here).isDirectory = true
  /-- A directory lies in a directory. -/
  parent : ∀ id, (d.node id).isDirectory = true → (d.node (d.parentOf id)).isDirectory = true

namespace Sound

variable {d : Disk}

/-- A name that names from a directory lead to lies in a directory. -/
theorem follow (h : d.Sound) {through : Bool} {across : NodeId → List Bytes → Except Errno Place}
    (hacross : ∀ at_ names directory name, (d.node at_).isDirectory = true →
      across at_ names = .ok (.named directory name) → (d.node directory).isDirectory = true)
    {at_ : NodeId} {names : List Bytes} {directory : NodeId} {name : Bytes}
    (hat : (d.node at_).isDirectory = true)
    (hf : d.follow through across at_ names = .ok (.named directory name)) :
    (d.node directory).isDirectory = true := by
  induction names generalizing at_ with
  | nil => cases hf
  | cons first names ih =>
    cases (follow_cons_eq_ok_iff.1 hf).2 with
    | stay _ hf => exact ih hat hf
    | back _ _ hf => exact ih (h.parent at_ hat) hf
    | free _ _ _ hp =>
      cases hp
      exact hat
    | last _ _ _ _ hp =>
      cases hp
      exact hat
    | along _ _ _ _ hf =>
      refine hacross _ _ _ _ ?_ hf
      split
      · exact h.root
      · exact hat
    | into _ _ hg _ hf => exact ih (Node.guide_eq_into_iff.1 hg) hf

/-- A name that names from a directory lead to across some links lies in a directory. -/
theorem followLinks (h : d.Sound) {through : Bool} {links : Nat} {at_ : NodeId}
    {names : List Bytes} {directory : NodeId} {name : Bytes}
    (hat : (d.node at_).isDirectory = true)
    (hf : d.followLinks through links at_ names = .ok (.named directory name)) :
    (d.node directory).isDirectory = true := by
  induction links generalizing at_ names directory name with
  | zero => cases hf
  | succ links ih => exact h.follow (fun _ _ _ _ hat hacross => ih hat hacross) hat hf

/-- A name that a path leads to lies in a directory. -/
theorem find (h : d.Sound) {path : Bytes} {directory : NodeId} {name : Bytes}
    (hf : d.find path = .ok (.named directory name)) : (d.node directory).isDirectory = true := by
  unfold Disk.find at hf
  split at hf
  · cases hf
  cases hr : d.resolve true path with
  | error cause => simp [hr] at hf
  | ok place =>
    rw [hr] at hf
    cases hf
    refine h.followLinks ?_ hr
    split
    · exact h.root
    · exact h.here

end Sound

/-- The disk that holds nothing is sound. -/
theorem sound_bare : bare.Sound where
  root := rfl
  here := rfl
  parent id h := by
    have hlt : id < 2 := lt_next_of_isDirectory h
    match id, hlt with
    | 0, _ => rfl
    | 1, _ => rfl

/-- A path leads to a file with a given content. -/
def Holds (d : Disk) (path content : Bytes) : Prop :=
  ∃ id, d.look path = .ok id ∧ id < d.next ∧ (d.node id).body = .file content

/-- Reading a path fails because nothing is there. -/
def Missing (d : Disk) (path : Bytes) : Prop :=
  ∃ e, d.read path = .error (.opening e) ∧ e.kind = .notFound

/-- What a file holds can be read, unless it may not be opened. -/
theorem Holds.read {d : Disk} {path content : Bytes} (h : d.Holds path content) :
    d.read path = .ok content ∨
      ∃ e, d.read path = .error (.opening e) ∧ e.kind ≠ .notFound := by
  obtain ⟨id, hl, -, hb⟩ := h
  unfold Disk.read contentOf
  rw [hl]
  simp only [hb]
  by_cases hr : (d.node id).mayRead = true
  · exact Or.inl (by simp [hr])
  · exact Or.inr ⟨.system .accessDenied, by simp [hr], by decide⟩

/-- A path leads to nothing where nothing is there to be read. -/
theorem Missing.look_ne {d : Disk} {path : Bytes} (h : d.Missing path) (id : NodeId) :
    d.look path ≠ .ok id := by
  intro hl
  obtain ⟨e, hr, hk⟩ := h
  unfold Disk.read contentOf at hr
  rw [hl] at hr
  simp only at hr
  split at hr
  · cases hr
    exact absurd hk (by decide)
  · split at hr
    · cases hr
    · split at hr <;> cases hr
    · cases hr
    · cases hr
    · cases hr
      exact absurd hk (by decide)
    · cases hr

/-- What becomes of refilling a node, for all content alike. -/
inductive Refilling (d : Disk) (id : NodeId) : Prop where
  /-- The content is put into a file. -/
  | replaces (h : ∀ content, d.refill id content = (.ok (), d.setContent id content))
  /-- The content is lost on the way. -/
  | swallows (h : ∀ content, d.refill id content = (.ok (), d))
  /-- There is no room for any content. -/
  | overflows (h : ∀ content, d.refill id content =
      if content.isEmpty then (.ok (), d) else (.error .noSpace, d))
  /-- The node is not one to be written. -/
  | refuses (cause : Errno) (h : ∀ content, d.refill id content = (.error cause, d))

/-- What becomes of refilling a node shows in what it is and in whether it may be written. -/
theorem refilling (d : Disk) (id : NodeId) : d.Refilling id := by
  by_cases hw : (d.node id).mayWrite = true
  · cases hb : (d.node id).body with
    | directory => exact .refuses .isDirectory fun _ => by simp [refill, hb]
    | link => exact .refuses .linkLoop fun _ => by simp [refill, hb]
    | program => exact .refuses .accessDenied fun _ => by simp [refill, hb]
    | device device =>
      cases device with
      | terminal => exact .refuses .noDevice fun _ => by simp [refill, hb]
      | full => exact .overflows fun _ => by simp [refill, hb, hw]
      | _ => exact .swallows fun _ => by simp [refill, hb, hw]
    | file | damaged => exact .replaces fun _ => by simp [refill, hb, hw]
    | _ => exact .swallows fun _ => by simp [refill, hb, hw]
  · cases hb : (d.node id).body with
    | directory => exact .refuses .isDirectory fun _ => by simp [refill, hb]
    | link => exact .refuses .linkLoop fun _ => by simp [refill, hb]
    | device device =>
      cases device with
      | terminal => exact .refuses .noDevice fun _ => by simp [refill, hb]
      | _ => exact .refuses .accessDenied fun _ => by simp [refill, hb, hw]
    | _ => exact .refuses .accessDenied fun _ => by simp [refill, hb, hw]

/-- A file is refilled with the content that it then has, if it may be written. -/
theorem refill_file {d e : Disk} {id : NodeId} {old content : Bytes}
    (hb : (d.node id).body = .file old) (h : d.refill id content = (.ok (), e)) :
    e = d.setContent id content := by
  unfold refill at h
  simp only [hb] at h
  split at h
  · cases h
  · exact (Prod.mk.inj h).2.symm

/-- What becomes of writing a path anew, for all content alike. -/
inductive Overwriting (d : Disk) (path : Bytes) : Prop where
  /-- A file is made under a name that was free. -/
  | creates (directory : NodeId) (name : Bytes)
      (hslash : (Path.ofBytes path).endsInSlash = false)
      (hfind : d.find path = .ok (.named directory name))
      (hfree : d.child? directory name = none)
      (h : ∀ content, d.overwrite path content =
        (.ok (), d.create directory name (.file content) d.fileMode))
  /-- What the path stands for is refilled. -/
  | refills (id : NodeId) (hlook : d.look path = .ok id)
      (h : ∀ content, d.overwrite path content =
        ((d.refill id content).1.mapError IoError.system, (d.refill id content).2))
  /-- The path is not one to be written. -/
  | refuses (cause : IoError) (h : ∀ content, d.overwrite path content = (.error cause, d))

/-- What becomes of writing a path anew shows in where the path leads. -/
theorem overwriting (d : Disk) (path : Bytes) : d.Overwriting path := by
  by_cases hends : (Path.ofBytes path).endsInSlash = true
  · exact .refuses _ fun _ => by rw [overwrite, if_pos hends]
  have hslash : (Path.ofBytes path).endsInSlash = false := by simpa using hends
  cases hfind : d.find path with
  | error cause => exact .refuses cause fun _ => by simp [overwrite, hslash, hfind]
  | ok place =>
    cases hplace : d.at? place with
    | some id =>
      have hlook : d.look path = .ok id :=
        look_eq_ok_iff.2 ⟨place, hfind, hplace, fun h => by simp [hslash] at h⟩
      refine .refills id hlook fun content => ?_
      simp only [overwrite, hslash, hfind, hplace, Bool.false_eq_true, if_false]
      rcases d.refill id content with ⟨_ | _, e⟩ <;> rfl
    | none =>
      cases place with
      | within directory =>
        exact .refuses (.system .isDirectory) fun _ => by simp [overwrite, hslash, hfind, hplace]
      | named directory name =>
        cases hforbidden : d.forbidden? directory with
        | some cause =>
          exact .refuses (.system cause) fun _ => by
            simp [overwrite, hslash, hfind, hplace, hforbidden]
        | none =>
          exact .creates directory name hslash hfind hplace fun _ => by
            simp [overwrite, hslash, hfind, hplace, hforbidden]

/-- A path that is refilled comes to what its node comes to. -/
theorem refill_eq_ok {d e : Disk} {id : NodeId} {content : Bytes}
    (h : ((d.refill id content).1.mapError IoError.system, (d.refill id content).2) = (.ok (), e)) :
    d.refill id content = (.ok (), e) := by
  cases hr : d.refill id content with
  | mk result f =>
    rw [hr] at h
    cases result with
    | error cause => cases h
    | ok =>
      cases h
      rfl

/-- A file that could be written anew holds what was written. -/
theorem Holds.overwrite {d e : Disk} {path old content : Bytes} (h : d.Holds path old)
    (hw : d.overwrite path content = (.ok (), e)) : e.Holds path content := by
  obtain ⟨id, hl, hlt, hb⟩ := h
  cases d.overwriting path with
  | creates directory name _ hfind hfree _ =>
    obtain ⟨place, hp, ha, -⟩ := look_eq_ok_iff.1 hl
    rw [hfind] at hp
    cases hp
    rw [at?, hfree] at ha
    cases ha
  | refills j hlook heq =>
    rw [hl] at hlook
    cases hlook
    rw [refill_file hb (refill_eq_ok ((heq content).symm.trans hw))]
    refine ⟨id, (leads_setContent hb content).look hl, ?_, ?_⟩
    · rw [setContent, next_put]
      exact hlt
    · rw [setContent, node_put, if_pos ⟨rfl, hlt⟩]
  | refuses cause heq =>
    rw [heq] at hw
    cases hw

/-- A file that could be written where there was none holds what was written. -/
theorem holds_overwrite {d e : Disk} {path content : Bytes} (hsound : d.Sound)
    (hn : ∀ id, d.look path ≠ .ok id) (hw : d.overwrite path content = (.ok (), e)) :
    e.Holds path content := by
  cases d.overwriting path with
  | creates directory name hslash hfind hfree heq =>
    rw [heq] at hw
    cases hw
    have hd := hsound.find hfind
    obtain ⟨hleads, hentry⟩ := leads_create hd hfree content d.fileMode
    refine ⟨d.next, look_eq_ok_iff.2 ⟨_, hleads.find hfind, hentry, fun h => ?_⟩, ?_, ?_⟩
    · rw [hslash] at h
      cases h
    · rw [next_create]
      exact Nat.lt_succ_self _
    · rw [node_create (lt_next_of_isDirectory hd), if_pos rfl]
  | refills id hlook _ => exact absurd hlook (hn id)
  | refuses cause heq =>
    rw [heq] at hw
    cases hw

/-- A write that is cut short fails. -/
theorem overwritePart_ne_ok (d : Disk) (path content : Bytes) (room : Nat) (cause : IoError)
    (e : Disk) : d.overwritePart path content room cause ≠ (.ok (), e) := by
  intro h
  unfold overwritePart at h
  split at h
  · cases h
  · rename_i hfailed
    exact hfailed e h

/-- A file could be written only where nothing came in the way. -/
theorem write_eq_ok_cases {d e : Disk} {path content : Bytes}
    (h : d.write path content = (.ok (), e)) :
    ∃ obstacles, ({ d with obstacles := obstacles }).overwrite path content = (.ok (), e) := by
  unfold write at h
  split at h
  · cases h
  · exact absurd h (overwritePart_ne_ok _ path content _ _ e)
  · rename_i rest _
    exact ⟨rest, h⟩
  · exact ⟨d.obstacles, h⟩

/-- What stands under a path: a file with some content, or nothing at all. Nothing counts only where
paths start and end in directories, so that a file can be made there. -/
def Bears (d : Disk) (path : Bytes) : Option Bytes → Prop
  | some content => d.Holds path content
  | none => d.Sound ∧ ∀ id, d.look path ≠ .ok id

/-- Where nothing is there to be read nothing stands. -/
theorem Missing.bears {d : Disk} {path : Bytes} (h : d.Missing path) (hsound : d.Sound) :
    d.Bears path none :=
  ⟨hsound, h.look_ne⟩

/-- Only one thing stands under a path. -/
theorem Bears.unique {d : Disk} {path : Bytes} {content content' : Option Bytes}
    (h : d.Bears path content) (h' : d.Bears path content') : content = content' := by
  cases content with
  | none =>
    cases content' with
    | none => rfl
    | some _ =>
      obtain ⟨id, hl, -⟩ := h'
      exact absurd hl (h.2 id)
  | some bs =>
    obtain ⟨id, hl, -, hb⟩ := h
    cases content' with
    | none => exact absurd hl (h'.2 id)
    | some bs' =>
      obtain ⟨id', hl', -, hb'⟩ := h'
      rw [hl] at hl'
      cases hl'
      rw [hb] at hb'
      cases hb'
      rfl

/-- What stands under a path is what is read there, if it may be read. -/
theorem Bears.content? {d : Disk} {path : Bytes} {content : Option Bytes}
    (h : d.Bears path content) : d.content? path = content ∨ d.content? path = none := by
  unfold Disk.content?
  cases content with
  | none =>
    right
    unfold Disk.read
    cases hl : d.look path with
    | error e => rfl
    | ok id => exact absurd hl (h.2 id)
  | some bs =>
    rcases Holds.read h with hr | ⟨e, hr, -⟩
    · rw [hr]
      exact Or.inl rfl
    · rw [hr]
      exact Or.inr rfl

/-- What stands under a path has nothing to do with what comes in the way of writing. -/
theorem Bears.obstructed {d : Disk} {path : Bytes} {content : Option Bytes}
    (h : d.Bears path content) (obstacles : List (Option Obstacle)) :
    ({ d with obstacles := obstacles }).Bears path content := by
  have hthere : Leads d { d with obstacles := obstacles } := leads_of_nodes_eq rfl rfl
  have hback : Leads { d with obstacles := obstacles } d := leads_of_nodes_eq rfl rfl
  cases content with
  | none =>
    obtain ⟨hsound, hnothing⟩ := h
    exact ⟨⟨hsound.root, hsound.here, hsound.parent⟩, fun id hl => hnothing id (hback.look hl)⟩
  | some _ =>
    obtain ⟨id, hl, hlt, hb⟩ := h
    exact ⟨id, hthere.look hl, hlt, hb⟩

/-- A file that could be written anew or for the first time holds what was written. -/
theorem Bears.overwrite {d e : Disk} {path content : Bytes} {old : Option Bytes}
    (h : d.Bears path old) (hw : d.overwrite path content = (.ok (), e)) :
    e.Holds path content := by
  cases old with
  | none => exact holds_overwrite h.1 h.2 hw
  | some _ => exact Holds.overwrite h hw

/-- A file that could be written holds what was written, whatever stood there before. -/
theorem Bears.write {d e : Disk} {path content : Bytes} {old : Option Bytes}
    (h : d.Bears path old) (hw : d.write path content = (.ok (), e)) : e.Holds path content := by
  obtain ⟨obstacles, hw⟩ := write_eq_ok_cases hw
  exact (h.obstructed obstacles).overwrite hw

/-! ## Writes that fail -/

/-- A node that cannot be refilled leaves the disk as it is. -/
theorem refill_eq_error {d e : Disk} {id : NodeId} {content : Bytes} {cause : Errno}
    (h : d.refill id content = (.error cause, e)) : e = d := by
  cases d.refilling id with
  | replaces heq | swallows heq =>
    rw [heq] at h
    cases h
  | overflows heq =>
    rw [heq] at h
    split at h
    · cases h
    · exact (Prod.mk.inj h).2.symm
  | refuses _ heq =>
    rw [heq] at h
    exact (Prod.mk.inj h).2.symm

/-- What can be refilled with some content can be refilled with the beginning of it. -/
theorem exists_refill_take {d e : Disk} {id : NodeId} {content : Bytes}
    (h : d.refill id content = (.ok (), e)) (room : Nat) :
    ∃ f, d.refill id (content.take room) = (.ok (), f) := by
  cases d.refilling id with
  | replaces heq | swallows heq => exact ⟨_, heq _⟩
  | overflows heq =>
    rw [heq] at h
    split at h
    · rename_i hempty
      exact ⟨d, by rw [List.isEmpty_iff.1 hempty, List.take_nil, heq]; rfl⟩
    · cases h
  | refuses _ heq =>
    rw [heq] at h
    cases h

/-- A file that cannot be written at all leaves the disk as it is. -/
theorem overwrite_eq_error {d e : Disk} {path content : Bytes} {cause : IoError}
    (h : d.overwrite path content = (.error cause, e)) : e = d := by
  cases d.overwriting path with
  | creates _ _ _ _ _ heq =>
    rw [heq] at h
    cases h
  | refills id _ heq =>
    rw [heq] at h
    cases hr : d.refill id content with
    | mk result f =>
      rw [hr] at h
      cases result with
      | ok => cases h
      | error cause =>
        rw [← (Prod.mk.inj h).2]
        exact refill_eq_error hr
  | refuses _ heq =>
    rw [heq] at h
    exact (Prod.mk.inj h).2.symm

/-- A file that can be written can be written with the beginning of its content. -/
theorem exists_overwrite_take {d e : Disk} {path content : Bytes}
    (h : d.overwrite path content = (.ok (), e)) (room : Nat) :
    ∃ f, d.overwrite path (content.take room) = (.ok (), f) := by
  cases d.overwriting path with
  | creates _ _ _ _ _ heq => exact ⟨_, heq _⟩
  | refills id _ heq =>
    obtain ⟨f, hf⟩ := exists_refill_take (refill_eq_ok ((heq content).symm.trans h)) room
    exact ⟨f, by rw [heq, hf]; rfl⟩
  | refuses _ heq =>
    rw [heq] at h
    cases h

/-- A write that fails leaves what stood under the path as it was, or the beginning of what was to
be written stands there. -/
theorem Bears.write_failed {d e : Disk} {path content : Bytes} {old : Option Bytes}
    {cause : IoError} (h : d.Bears path old) (hw : d.write path content = (.error cause, e)) :
    e.Bears path old ∨ ∃ room, e.Holds path (content.take room) := by
  unfold Disk.write at hw
  split at hw
  · rw [← (Prod.mk.inj hw).2]
    exact Or.inl (h.obstructed _)
  · rename_i room _ rest _
    unfold overwritePart at hw
    split at hw
    · rename_i f hwhole
      obtain ⟨g, hpart⟩ := exists_overwrite_take hwhole room
      rw [← (Prod.mk.inj hw).2, hpart]
      exact Or.inr ⟨room, (h.obstructed rest).overwrite hpart⟩
    · rw [overwrite_eq_error hw]
      exact Or.inl (h.obstructed rest)
  · rw [overwrite_eq_error hw]
    exact Or.inl (h.obstructed _)
  · rw [overwrite_eq_error hw]
    exact Or.inl h

/-- A file of which a part is written before the room is used up. -/
example :
    ({ (bare.write (encode "h") (encode "ls\n")).2 with
        obstacles := [some (.shortage 4 (.system .noSpace))] }.write (encode "h")
      (encode "ls\npwd\n")).2.content? (encode "h") = some (encode "ls\np") := by
  decide +kernel

end Disk

end RecallShell
