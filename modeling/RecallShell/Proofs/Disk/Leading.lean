import RecallShell.Disk

/-!
# Where paths lead after a change

A path goes on at a node along a link, into a directory, or nowhere. A change of the disk that keeps
this for every node, and keeps what names stand for, leads every path that led somewhere to the same
place as before. Putting other content into a file is such a change, and so is making a file.
-/

namespace RecallShell

open Text

/-- Where a path can go on at a node. -/
inductive Guide where
  /-- Along a link. -/
  | along (target : Bytes)
  /-- Into a directory. -/
  | into
  /-- Nowhere. -/
  | nowhere

/-- Where a path can go on at a node. -/
def Node.guide (n : Node) : Guide :=
  match n.body with
  | .link target => .along target
  | .directory .. => .into
  | _ => .nowhere

/-- A path goes on along a link exactly at one. -/
theorem Node.guide_eq_along_iff {n : Node} {target : Bytes} :
    n.guide = .along target ↔ n.body = .link target := by
  unfold guide
  cases n.body <;> simp

/-- A path can go on into a node exactly if it is a directory. -/
theorem Node.guide_eq_into_iff {n : Node} : n.guide = .into ↔ n.isDirectory = true := by
  unfold guide isDirectory
  cases n.body <;> simp

namespace Disk

/-- Whether a name is one that a directory gives to something that lies in it. -/
def Proper (name : Bytes) : Prop :=
  name ≠ Path.self ∧ name ≠ Path.parent ∧ name.length ≤ maxName

/-- The ways in which a path leads from a directory by its next name to a place. -/
inductive Onward (d : Disk) (through : Bool) (across : NodeId → List Bytes → Except Errno Place)
    (at_ : NodeId) (name : Bytes) (names : List Bytes) (place : Place) : Prop
  | stay (hn : name = Path.self) (h : d.follow through across at_ names = .ok place)
  | back (hs : name ≠ Path.self) (hn : name = Path.parent)
      (h : d.follow through across (d.parentOf at_) names = .ok place)
  | free (hn : Proper name) (he : d.child? at_ name = none) (hl : names = [])
      (hp : place = .named at_ name)
  | last {id} (hn : Proper name) (he : d.child? at_ name = some id) (hl : names = [])
      (hg : ∀ target, (d.node id).guide = .along target → through = false)
      (hp : place = .named at_ name)
  | along {id target} (hn : Proper name) (he : d.child? at_ name = some id)
      (hg : (d.node id).guide = .along target) (hl : names ≠ [] ∨ through = true)
      (h : across (if (Path.ofBytes target).absolute then root else at_)
        ((Path.ofBytes target).names ++ names) = .ok place)
  | into {id} (hn : Proper name) (he : d.child? at_ name = some id)
      (hg : (d.node id).guide = .into) (hl : names ≠ [])
      (h : d.follow through across id names = .ok place)

/-- A path leads somewhere by its next name exactly in these ways, where names can be sought. -/
theorem follow_cons_eq_ok_iff {d : Disk} {through : Bool}
    {across : NodeId → List Bytes → Except Errno Place} {at_ : NodeId} {name : Bytes}
    {names : List Bytes} {place : Place} :
    d.follow through across at_ (name :: names) = .ok place ↔
      (d.node at_).mayRun = true ∧ d.Onward through across at_ name names place := by
  constructor
  · intro h
    rw [follow] at h
    split at h
    · cases h
    rename_i hrun
    refine ⟨by simpa using hrun, ?_⟩
    split at h
    · exact .stay ‹_› h
    rename_i hself
    split at h
    · exact .back hself ‹_› h
    rename_i hparent
    split at h
    · cases h
    rename_i hlength
    have hn : Proper name := ⟨hself, hparent, Nat.le_of_not_lt hlength⟩
    split at h
    · split at h
      · exact .free hn ‹_› (by simpa using ‹names.isEmpty = true›) (by cases h; rfl)
      · cases h
    · rename_i id he
      split at h
      · rename_i target hb
        have hg : (d.node id).guide = .along target := by rw [Node.guide, hb]
        split at h
        · rename_i hl
          rw [Bool.and_eq_true] at hl
          refine .last hn he (by simpa using hl.1) (fun _ _ => by simpa using hl.2) ?_
          cases h
          rfl
        · rename_i hl
          refine .along hn he hg ?_ h
          by_cases hnil : names = []
          · exact Or.inr (by simpa [hnil] using hl)
          · exact Or.inl hnil
      · rename_i hb
        have hg : (d.node id).guide = .into := by rw [Node.guide, hb]
        split at h
        · rename_i hl
          refine .last hn he (by simpa using hl) (fun _ ha => ?_) (by cases h; rfl)
          rw [hg] at ha
          cases ha
        · rename_i hl
          exact .into hn he hg (by simpa using hl) h
      · rename_i hlink hdirectory
        split at h
        · rename_i hl
          refine .last hn he (by simpa using hl) (fun target ha => ?_) (by cases h; rfl)
          exact (hlink target (Node.guide_eq_along_iff.1 ha)).elim
        · cases h
  · rintro ⟨hrun, h⟩
    rw [follow, hrun]
    simp only [Bool.not_true, Bool.false_eq_true, if_false]
    cases h with
    | stay hn h => rw [if_pos hn, h]
    | back hs hn h => rw [if_neg hs, if_pos hn, h]
    | free hn he hl hp =>
      rw [if_neg hn.1, if_neg hn.2.1, if_neg (Nat.not_lt.2 hn.2.2), he, hl, hp]
      rfl
    | @last id hn he hl hg hp =>
      rw [if_neg hn.1, if_neg hn.2.1, if_neg (Nat.not_lt.2 hn.2.2), he, hl, hp]
      cases hb : (d.node id).body with
      | link target =>
        rw [hg target (Node.guide_eq_along_iff.2 hb)]
        simp [hb]
      | _ => simp [hb]
    | along hn he hg hl h =>
      rw [if_neg hn.1, if_neg hn.2.1, if_neg (Nat.not_lt.2 hn.2.2), he]
      simp only [Node.guide_eq_along_iff.1 hg]
      rw [if_neg (by rcases hl with hl | hl <;> simp [hl]), h]
    | @into id hn he hg hl h =>
      rw [if_neg hn.1, if_neg hn.2.1, if_neg (Nat.not_lt.2 hn.2.2), he]
      have hd := Node.guide_eq_into_iff.1 hg
      unfold Node.isDirectory at hd
      cases hb : (d.node id).body with
      | directory parent entries =>
        simp only [hb]
        rw [if_neg (by simpa using hl), h]
      | _ => simp [hb] at hd

/-- The change from `d` to `e` leads paths that led somewhere to the same place. -/
structure Leads (d e : Disk) : Prop where
  /-- Relative paths start from the same directory. -/
  here : e.here = d.here
  /-- Where names could be sought they can be sought. -/
  mayRun : ∀ id, (d.node id).mayRun = true → (e.node id).mayRun = true
  /-- Directories lie where they lay. -/
  parentOf : ∀ id, e.parentOf id = d.parentOf id
  /-- Paths go on in the same way at every node. -/
  guide : ∀ id, (e.node id).guide = (d.node id).guide
  /-- Names stand for what they stood for. -/
  known : ∀ directory name id, d.child? directory name = some id →
    e.child? directory name = some id
  /-- A new name stands for something at which a path goes nowhere. -/
  fresh : ∀ directory name id, d.child? directory name = none →
    e.child? directory name = some id → (e.node id).guide = .nowhere

namespace Leads

variable {d e : Disk}

/-- Names that led to a place lead there. -/
theorem follow (h : Leads d e) {through : Bool}
    {across across' : NodeId → List Bytes → Except Errno Place}
    (hacross : ∀ at_ names place, across at_ names = .ok place → across' at_ names = .ok place)
    {at_ : NodeId} {names : List Bytes} {place : Place}
    (hf : d.follow through across at_ names = .ok place) :
    e.follow through across' at_ names = .ok place := by
  induction names generalizing at_ with
  | nil => exact hf
  | cons name names ih =>
    obtain ⟨hrun, ho⟩ := follow_cons_eq_ok_iff.1 hf
    refine follow_cons_eq_ok_iff.2 ⟨h.mayRun at_ hrun, ?_⟩
    cases ho with
    | stay hn hf => exact .stay hn (ih hf)
    | back hs hn hf =>
      rw [← h.parentOf] at hf
      exact .back hs hn (ih hf)
    | free hn he hl hp =>
      cases hnew : e.child? at_ name with
      | none => exact .free hn hnew hl hp
      | some id =>
        refine .last hn hnew hl (fun target ha => ?_) hp
        rw [h.fresh at_ name id he hnew] at ha
        cases ha
    | last hn he hl hg hp =>
      refine .last hn (h.known _ _ _ he) hl (fun target ha => ?_) hp
      rw [h.guide] at ha
      exact hg target ha
    | along hn he hg hl hf =>
      exact .along hn (h.known _ _ _ he) ((h.guide _).trans hg) hl (hacross _ _ _ hf)
    | into hn he hg hl hf =>
      exact .into hn (h.known _ _ _ he) ((h.guide _).trans hg) hl (ih hf)

/-- Names that led to a place across some links lead there. -/
theorem followLinks (h : Leads d e) {through : Bool} {links : Nat} {at_ : NodeId}
    {names : List Bytes} {place : Place}
    (hf : d.followLinks through links at_ names = .ok place) :
    e.followLinks through links at_ names = .ok place := by
  induction links generalizing at_ names place with
  | zero => exact hf
  | succ links ih => exact h.follow (fun _ _ _ hacross => ih hacross) hf

/-- A path that was found is found at the same place. -/
theorem find (h : Leads d e) {path : Bytes} {place : Place} (hf : d.find path = .ok place) :
    e.find path = .ok place := by
  unfold Disk.find at hf ⊢
  split
  · rename_i hfault
    rw [hfault] at hf
    exact hf
  · rename_i hfault
    rw [hfault] at hf
    cases hr : d.resolve true path with
    | error cause => simp [hr] at hf
    | ok found =>
      have he : e.resolve true path = .ok found := by
        unfold Disk.resolve at hr ⊢
        rw [h.here]
        exact h.followLinks hr
      rw [hr] at hf
      rw [he]
      exact hf

/-- What stood at a place stands there. -/
theorem at? (h : Leads d e) {place : Place} {id : NodeId} (ha : d.at? place = some id) :
    e.at? place = some id := by
  cases place with
  | within directory => exact ha
  | named directory name => exact h.known _ _ _ ha

end Leads

/-- Finding what a path stands for is finding its place, and what stands there. -/
theorem look_eq_ok_iff {d : Disk} {path : Bytes} {id : NodeId} :
    d.look path = .ok id ↔ ∃ place, d.find path = .ok place ∧ d.at? place = some id ∧
      ((Path.ofBytes path).endsInSlash = true → (d.node id).isDirectory = true) := by
  unfold look
  cases d.find path with
  | error e => simp
  | ok place =>
    cases ha : d.at? place with
    | none => simp [ha]
    | some found =>
      by_cases hs : (Path.ofBytes path).endsInSlash = true
      · by_cases hd : (d.node found).isDirectory = true
        · simp [ha, hs, hd]
          rintro rfl
          exact hd
        · simp [ha, hs, hd]
          rintro rfl
          simpa using hd
      · simp [ha, hs]

/-- What a path stood for it stands for. -/
theorem Leads.look {d e : Disk} (h : Leads d e) {path : Bytes} {id : NodeId}
    (hl : d.look path = .ok id) : e.look path = .ok id := by
  obtain ⟨place, hf, ha, hs⟩ := look_eq_ok_iff.1 hl
  refine look_eq_ok_iff.2 ⟨place, h.find hf, h.at? ha, fun hslash => ?_⟩
  rw [← Node.guide_eq_into_iff, h.guide, Node.guide_eq_into_iff]
  exact hs hslash

/-! ## Nodes after a change -/

/-- A node that is put in place of one stands in that place, and nowhere else. -/
theorem node_put (d : Disk) (id j : NodeId) (n : Node) :
    (d.put id n).node j = if j = id ∧ id < d.next then n else d.node j := by
  unfold node put next
  rw [Array.getElem?_setIfInBounds]
  by_cases hj : id = j
  · subst hj
    by_cases hs : id < d.nodes.size <;> simp [hs]
  · simp [hj, Ne.symm hj]

/-- Putting a node in place of one adds none. -/
@[simp] theorem next_put (d : Disk) (id : NodeId) (n : Node) : (d.put id n).next = d.next := by
  simp [put, next]

/-- A node that is added takes the next number. -/
theorem node_add (d : Disk) (body : Body) (mode : Nat) (j : NodeId) :
    (d.add body mode).node j = if j = d.next then ⟨body, mode, 0, d.clock⟩ else d.node j := by
  unfold node add next
  rw [Array.getElem?_push]
  split <;> rfl

/-- A directory is one of the nodes. -/
theorem lt_next_of_isDirectory {d : Disk} {id : NodeId} (h : (d.node id).isDirectory = true) :
    id < d.next := by
  refine Nat.lt_of_not_le fun hn => ?_
  rw [node, Array.getElem?_eq_none hn] at h
  cases h

/-- A node that has been made and named is the next one, and it stands in its directory behind the
other entries. -/
theorem node_create {d : Disk} {directory : NodeId} (hd : directory < d.next) (name : Bytes)
    (body : Body) (mode : Nat) (j : NodeId) :
    (d.create directory name body mode).node j =
      if j = d.next then ⟨body, mode, 1, d.clock⟩
      else if j = directory then
        { d.node directory with
          body := .directory (d.parentOf directory) ((d.node directory).entries ++ [(name, d.next)])
          changed := d.clock }
      else d.node j := by
  have hne : d.next ≠ directory := Nat.ne_of_gt hd
  have hadded : (d.add body mode).next = d.next + 1 := by simp [add, next]
  have hnode : (d.add body mode).node directory = d.node directory := by
    rw [node_add, if_neg hne.symm]
  have hparent : (d.add body mode).parentOf directory = d.parentOf directory := by
    rw [parentOf, hnode]
    rfl
  have hentered : ((d.add body mode).enter directory name d.next).next = d.next + 1 := by
    rw [enter, next_put, hadded]
  have henter : ∀ i, ((d.add body mode).enter directory name d.next).node i =
      if i = directory then
        { d.node directory with
          body := .directory (d.parentOf directory) ((d.node directory).entries ++ [(name, d.next)])
          changed := d.clock }
      else (d.add body mode).node i := by
    intro i
    rw [enter, node_put, hadded, hnode, hparent]
    by_cases hi : i = directory
    · rw [if_pos ⟨hi, Nat.lt_succ_of_lt hd⟩, if_pos hi]
      rfl
    · rw [if_neg (fun h => hi h.1), if_neg hi]
  rw [create, gain, node_put, hentered, henter, henter, if_neg hne]
  by_cases hj : j = d.next
  · rw [if_pos ⟨hj, Nat.lt_succ_self _⟩, if_pos hj, node_add, if_pos rfl]
  · rw [if_neg (fun h => hj h.1), if_neg hj, node_add, if_neg hj]

/-- Making a node adds one. -/
theorem next_create (d : Disk) (directory : NodeId) (name : Bytes) (body : Body) (mode : Nat) :
    (d.create directory name body mode).next = d.next + 1 := by
  simp [create, gain, enter, add, put, next]

/-- Putting other content into a file leads paths to where they led. -/
theorem leads_setContent {d : Disk} {id : NodeId} {old : Bytes} (hb : (d.node id).body = .file old)
    (content : Bytes) : Leads d (d.setContent id content) := by
  have hnode : ∀ j, (d.setContent id content).node j = d.node j ∨
      j = id ∧ (d.setContent id content).node j =
        { d.node id with body := .file content, changed := d.clock } := by
    intro j
    rw [setContent, node_put]
    split
    · rename_i hj
      exact Or.inr ⟨hj.1, rfl⟩
    · exact Or.inl rfl
  have hentry : ∀ directory name,
      (d.setContent id content).child? directory name = d.child? directory name := by
    intro directory name
    unfold child?
    rcases hnode directory with h | ⟨rfl, h⟩
    · rw [h]
    · rw [h, Node.entries, Node.entries, hb]
  refine ⟨rfl, ?_, ?_, ?_, ?_, ?_⟩
  · intro j hrun
    rcases hnode j with h | ⟨rfl, h⟩
    · rwa [h]
    · rw [h]
      exact hrun
  · intro j
    unfold parentOf
    rcases hnode j with h | ⟨rfl, h⟩
    · rw [h]
    · rw [h, hb]
  · intro j
    unfold Node.guide
    rcases hnode j with h | ⟨rfl, h⟩
    · rw [h]
    · rw [h, hb]
  · intro directory name j he
    rwa [hentry]
  · intro directory name j he hnew
    rw [hentry, he] at hnew
    cases hnew

/-- A disk with the same nodes and the same working directory leads paths to where they led. -/
theorem leads_of_nodes_eq {d e : Disk} (hn : e.nodes = d.nodes) (hh : e.here = d.here) :
    Leads d e := by
  have hnode : ∀ j, e.node j = d.node j := by
    intro j
    rw [node, node, hn]
  refine ⟨hh, ?_, ?_, ?_, ?_, ?_⟩
  · intro j hrun
    rwa [hnode]
  · intro j
    rw [parentOf, parentOf, hnode]
  · intro j
    rw [hnode]
  · intro directory name j he
    rwa [child?, hnode]
  · intro directory name j he hnew
    rw [child?, hnode] at hnew
    rw [child?, hnew] at he
    cases he

/-- A new file under a name that was free leads paths to where they led. -/
theorem leads_create {d : Disk} {directory : NodeId} {name : Bytes}
    (hd : (d.node directory).isDirectory = true) (hfree : d.child? directory name = none)
    (content : Bytes) (mode : Nat) :
    Leads d (d.create directory name (.file content) mode) ∧
      (d.create directory name (.file content) mode).child? directory name = some d.next := by
  have hnode := node_create (lt_next_of_isDirectory hd) name (.file content) mode
  have hlt := lt_next_of_isDirectory hd
  have hdefault : d.node d.next = default := by
    rw [node, next, Array.getElem?_eq_none (Nat.le_refl _)]
    rfl
  have hentry : ∀ dir n, (d.create directory name (.file content) mode).child? dir n =
      if dir = directory ∧ n = name then some d.next else d.child? dir n := by
    intro dir n
    rw [child?, hnode]
    by_cases hnext : dir = d.next
    · subst hnext
      rw [if_pos rfl, if_neg (fun h => Nat.ne_of_gt hlt h.1), child?, hdefault]
      rfl
    rw [if_neg hnext]
    by_cases hdir : dir = directory
    · subst hdir
      rw [if_pos rfl]
      change ((d.node dir).entries ++ [(name, d.next)]).lookup n = _
      rw [List.lookup_append]
      by_cases hn : n = name
      · rw [if_pos ⟨rfl, hn⟩, hn, ← child?, hfree]
        simp
      · rw [if_neg (fun h => hn h.2), ← child?, List.lookup_cons, beq_eq_false_iff_ne.2 hn]
        exact Option.or_none
    · rw [if_neg hdir, if_neg (fun h => hdir h.1), child?]
  refine ⟨⟨rfl, ?_, ?_, ?_, ?_, ?_⟩, ?_⟩
  · intro j hrun
    rw [hnode]
    split
    · rename_i hj
      rw [hj, hdefault] at hrun
      cases hrun
    split
    · rename_i hj
      rw [hj] at hrun
      exact hrun
    · exact hrun
  · intro j
    by_cases hnext : j = d.next
    · rw [parentOf, hnode, if_pos hnext, parentOf, hnext, hdefault]
      rfl
    by_cases hj : j = directory
    · rw [parentOf, hnode, if_neg hnext, if_pos hj, hj]
    · rw [parentOf, hnode, if_neg hnext, if_neg hj, parentOf]
  · intro j
    rw [hnode]
    split
    · rename_i hj
      rw [hj, hdefault]
      rfl
    split
    · rename_i hj
      rw [hj, Node.guide_eq_into_iff.2 hd]
      rfl
    · rfl
  · intro dir n j he
    rw [hentry, if_neg]
    · exact he
    · rintro ⟨rfl, rfl⟩
      rw [hfree] at he
      cases he
  · intro dir n j he hnew
    rw [hentry] at hnew
    split at hnew
    · cases hnew
      rw [hnode, if_pos rfl]
      rfl
    · rw [he] at hnew
      cases hnew
  · rw [hentry, if_pos ⟨rfl, rfl⟩]

end Disk

end RecallShell
