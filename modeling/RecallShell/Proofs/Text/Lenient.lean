import RecallShell.Proofs.Text.Lines

/-!
# Lenient decoding

Bytes that are no text are told without a word of how they are read: where no character begins, the
longest front that could still have become one counts as spoilt, or a single byte if there is none,
and one replacement character stands for it. Every string of bytes stands for one list of characters
in this way, and reading byte by byte finds it. No character goes on behind a line feed, so the
lines of the bytes stand for the lines of the text.
-/

namespace RecallShell.Text

variable {bs part rest : Bytes} {cs : List Char}

/-- Some bytes are the first ones of a character, or all of them. -/
def Begins (bs : Bytes) : Prop := ∃ c : Char, bs <+: String.utf8EncodeChar c

/-- In front of others some bytes are as many as are spoilt together. -/
structure Spoilt (part rest : Bytes) : Prop where
  /-- There is one at least. -/
  nonempty : part ≠ []
  /-- No character stands here. -/
  broken : ∀ c : Char, ¬ String.utf8EncodeChar c <+: part ++ rest
  /-- They are the first ones of a character, unless it is a single byte. -/
  begins : Begins part ∨ part.length = 1
  /-- With more bytes they would not be. -/
  longest : ∀ front, front <+: part ++ rest → Begins front → front.length ≤ part.length

/-- What bytes stand for: characters for their bytes, and one replacement character for all bytes
that are spoilt together. -/
inductive DecodesTo : Bytes → List Char → Prop where
  | done : DecodesTo [] []
  | char (c : Char) {rest : Bytes} {cs : List Char} (h : DecodesTo rest cs) :
      DecodesTo (String.utf8EncodeChar c ++ rest) (c :: cs)
  | spoilt {part rest : Bytes} {cs : List Char} (hspoilt : Spoilt part rest)
      (h : DecodesTo rest cs) : DecodesTo (part ++ rest) (replacement :: cs)

/-! ## One reading at most -/

/-- A character takes a byte at least. -/
theorem utf8EncodeChar_ne_nil (c : Char) : String.utf8EncodeChar c ≠ [] := by
  intro h
  have hlength := congrArg List.length h
  rw [String.length_utf8EncodeChar] at hlength
  exact absurd hlength (Nat.ne_of_gt c.utf8Size_pos)

/-- Where one character stands no other does. -/
theorem utf8EncodeChar_append_inj {c d : Char} {xs ys : Bytes}
    (h : String.utf8EncodeChar c ++ xs = String.utf8EncodeChar d ++ ys) : c = d ∧ xs = ys := by
  have hdecoded := congrArg (decodeFrom .between) h
  rw [decodeFrom_utf8EncodeChar, decodeFrom_utf8EncodeChar] at hdecoded
  obtain ⟨rfl, -⟩ := List.cons.inj hdecoded
  exact ⟨rfl, List.append_cancel_left h⟩

/-- Fewer bytes begin a character all the more. -/
theorem Begins.of_prefix {front : Bytes} (h : Begins bs) (hfront : front <+: bs) :
    Begins front := by
  obtain ⟨c, hc⟩ := h
  exact ⟨c, hfront.trans hc⟩

/-- Of two fronts that are spoilt together none is longer than the other. -/
theorem Spoilt.length_le {part' rest' : Bytes} (h : Spoilt part rest) (h' : Spoilt part' rest')
    (heq : part ++ rest = part' ++ rest') : part.length ≤ part'.length := by
  rcases h.begins with hbegins | hone
  · exact h'.longest part (heq ▸ List.prefix_append part rest) hbegins
  · rw [hone]
    exact List.length_pos_iff.2 h'.nonempty

/-- As many bytes as are spoilt together are always the same. -/
theorem Spoilt.unique {part' rest' : Bytes} (h : Spoilt part rest) (h' : Spoilt part' rest')
    (heq : part ++ rest = part' ++ rest') : part = part' ∧ rest = rest' :=
  List.append_inj heq (Nat.le_antisymm (h.length_le h' heq) (h'.length_le h heq.symm))

/-- Bytes stand for one list of characters only. -/
theorem DecodesTo.unique {cs' : List Char} (h : DecodesTo bs cs) (h' : DecodesTo bs cs') :
    cs = cs' := by
  induction h generalizing cs' with
  | done =>
    generalize hbs : ([] : Bytes) = bs at h'
    cases h' with
    | done => rfl
    | char c => exact absurd (List.append_eq_nil_iff.1 hbs.symm).1 (utf8EncodeChar_ne_nil c)
    | spoilt hspoilt => exact absurd (List.append_eq_nil_iff.1 hbs.symm).1 hspoilt.nonempty
  | @char c rest cs _ ih =>
    generalize hbs : String.utf8EncodeChar c ++ rest = bs at h'
    cases h' with
    | done => exact absurd (List.append_eq_nil_iff.1 hbs).1 (utf8EncodeChar_ne_nil c)
    | char d h' =>
      obtain ⟨rfl, rfl⟩ := utf8EncodeChar_append_inj hbs
      rw [ih h']
    | spoilt hspoilt => exact absurd (hbs ▸ List.prefix_append _ _) (hspoilt.broken c)
  | @spoilt part rest cs hspoilt _ ih =>
    generalize hbs : part ++ rest = bs at h'
    cases h' with
    | done => exact absurd (List.append_eq_nil_iff.1 hbs).1 hspoilt.nonempty
    | char c => exact absurd (hbs ▸ List.prefix_append _ _) (hspoilt.broken c)
    | spoilt hspoilt' h' =>
      obtain ⟨rfl, rfl⟩ := hspoilt.unique hspoilt' hbs
      rw [ih h']

/-! ## Characters that have begun -/

/-- As many bytes as given that end a character with a given number. -/
def lastBytes : Nat → Nat → Bytes
  | 0, _ => []
  | n + 1, x => UInt8.ofNat (x / 64 ^ n % 64 + 0x80) :: lastBytes n x

/-- They depend on the last bits of the number alone. -/
theorem lastBytes_add (n k x : Nat) : lastBytes n (k * 64 ^ n + x) = lastBytes n x := by
  induction n generalizing k with
  | zero => rfl
  | succ n ih =>
    have hpos : 0 < 64 ^ n := Nat.pow_pos (by decide)
    have hsplit : k * 64 ^ (n + 1) + x = k * 64 * 64 ^ n + x := by
      rw [Nat.pow_succ, Nat.mul_assoc, Nat.mul_comm 64]
    have hbits : (k * 64 * 64 ^ n + x) / 64 ^ n % 64 = x / 64 ^ n % 64 := by
      rw [Nat.add_comm, Nat.add_mul_div_right _ _ hpos, Nat.add_mul_mod_self_right]
    rw [hsplit, lastBytes, lastBytes, hbits, ih]

/-- Some bytes go on to a character with every byte that may come next and any further ones. -/
def Opens (bs : Bytes) (next : Follower) (further : Nat) : Prop :=
  ∀ x, next.low ≤ x / 64 ^ further + 0x80 → x / 64 ^ further + 0x80 ≤ next.high →
    ∃ c : Char, String.utf8EncodeChar c = bs ++ lastBytes (further + 1) x

/-! ## The bytes of several that a character takes -/

theorem toNat_ofNatAux {v : Nat} (h : v.isValidChar) : (Char.ofNatAux v h).toNat = v := rfl

/-- A first byte of two leaves one open. -/
theorem opens_two {b : UInt8} (hlow : 0xC2 ≤ b.toNat) (hhigh : b.toNat < 0xE0) :
    Opens [b] .any 0 := by
  intro x hx hx'
  simp only [Follower.low, Follower.high, Nat.pow_zero, Nat.div_one] at hx hx'
  have hv : ((b.toNat - 0xC0) * 64 + x).isValidChar := Or.inl (by omega)
  refine ⟨Char.ofNatAux _ hv, ?_⟩
  rw [utf8EncodeChar_eq, toNat_ofNatAux, if_neg (by omega), if_pos (by omega)]
  have hfirst : ((b.toNat - 0xC0) * 64 + x) / 64 % 0x20 + 0xC0 = b.toNat := by omega
  have hlast : ((b.toNat - 0xC0) * 64 + x) % 64 = x % 64 := by omega
  simp [lastBytes, hfirst, hlast]

/-- Only continuing bytes come next. -/
theorem Follower.range (f : Follower) : 0x80 ≤ f.low ∧ f.high ≤ 0xBF := by
  cases f <;> decide

/-- A first byte of three leaves two open, unless the number would have a shorter form or be that of
a surrogate. -/
theorem opens_three {b : UInt8} {next : Follower} (hlow : 0xE0 ≤ b.toNat) (hhigh : b.toNat < 0xF0)
    (hlong : b.toNat = 0xE0 → next.low = 0xA0) (hsurrogate : b.toNat = 0xED → next.high = 0x9F) :
    Opens [b] next 1 := by
  intro x hx hx'
  rw [Nat.pow_one] at hx hx'
  have hnext := next.range
  have hv : ((b.toNat - 0xE0) * 4096 + x).isValidChar := by
    simp only [Nat.isValidChar]
    omega
  refine ⟨Char.ofNatAux _ hv, ?_⟩
  rw [utf8EncodeChar_eq, toNat_ofNatAux, if_neg (by omega), if_neg (by omega), if_pos (by omega)]
  have hfirst : ((b.toNat - 0xE0) * 4096 + x) / 4096 % 0x10 + 0xE0 = b.toNat := by omega
  have hsecond : ((b.toNat - 0xE0) * 4096 + x) / 64 % 64 = x / 64 % 64 := by omega
  have hlast : ((b.toNat - 0xE0) * 4096 + x) % 64 = x % 64 := by omega
  simp [lastBytes, hfirst, hsecond, hlast]

/-- A first byte of four leaves three open, unless the number would have a shorter form or be too
large. -/
theorem opens_four {b : UInt8} {next : Follower} (hlow : 0xF0 ≤ b.toNat) (hhigh : b.toNat ≤ 0xF4)
    (hlong : b.toNat = 0xF0 → next.low = 0x90) (hlarge : b.toNat = 0xF4 → next.high = 0x8F) :
    Opens [b] next 2 := by
  intro x hx hx'
  rw [Nat.pow_two] at hx hx'
  have hnext := next.range
  have hv : ((b.toNat - 0xF0) * 262144 + x).isValidChar := Or.inr ⟨by omega, by omega⟩
  refine ⟨Char.ofNatAux _ hv, ?_⟩
  rw [utf8EncodeChar_eq, toNat_ofNatAux, if_neg (by omega), if_neg (by omega), if_neg (by omega)]
  have hfirst : ((b.toNat - 0xF0) * 262144 + x) / 262144 % 0x08 + 0xF0 = b.toNat := by omega
  have hsecond : ((b.toNat - 0xF0) * 262144 + x) / 4096 % 64 = x / 4096 % 64 := by omega
  have hthird : ((b.toNat - 0xF0) * 262144 + x) / 64 % 64 = x / 64 % 64 := by omega
  have hlast : ((b.toNat - 0xF0) * 262144 + x) % 64 = x % 64 := by omega
  simp [lastBytes, hfirst, hsecond, hthird, hlast]

/-- A byte after which reading stands inside a character leaves open what reading expects. -/
theorem opens_start {b : UInt8} {bits further : Nat} {next : Follower}
    (h : Decoding.start b = ([], .within bits next further)) : Opens [b] next further := by
  rw [Decoding.start_eq] at h
  -- Only the bytes at the edges of a range of three or four bytes restrict the next one.
  repeat' split at h
  all_goals
    simp only [Prod.mk.injEq, Decoding.within.injEq, true_and, reduceCtorEq, and_false] at h
    try obtain ⟨-, rfl, rfl⟩ := h
  · exact opens_two (by omega) (by omega)
  · exact opens_three (by omega) (by omega) (fun _ => rfl) (by omega)
  · exact opens_three (by omega) (by omega) (by omega) (fun _ => rfl)
  · exact opens_three (by omega) (by omega) (by omega) (by omega)
  · exact opens_four (by omega) (by omega) (fun _ => rfl) (by omega)
  · exact opens_four (by omega) (by omega) (by omega) (by omega)
  · exact opens_four (by omega) (by omega) (by omega) (fun _ => rfl)

/-- A byte at the beginning of a character is a character by itself, is spoilt, or has reading stand
inside a character. -/
theorem Decoding.start_trichotomy (b : UInt8) :
    (∃ c : Char, String.utf8EncodeChar c = [b]) ∨
      Decoding.start b = ([replacement], .between) ∨
      ∃ bits next further, Decoding.start b = ([], .within bits next further) := by
  by_cases hone : b.toNat < 0x80
  · have hv : b.toNat.isValidChar := Or.inl (by omega)
    refine Or.inl ⟨Char.ofNatAux _ hv, ?_⟩
    rw [utf8EncodeChar_eq, toNat_ofNatAux, if_pos (by omega), UInt8.ofNat_toNat]
  · refine Or.inr ?_
    rw [Decoding.start_eq, if_neg hone]
    repeat' split
    all_goals simp

/-! ## Reading byte by byte -/

/-- Some bytes have been read that begin a character, and reading stands inside it. -/
structure Reached (bs : Bytes) (bits : Nat) (next : Follower) (further : Nat) : Prop where
  /-- The bytes are read before what follows. -/
  reads : ∀ rest, decodeFrom .between (bs ++ rest) = decodeFrom (.within bits next further) rest
  /-- A character begins with them and goes on as it may. -/
  opens : Opens bs next further

/-- The end spoils a character that has begun. -/
theorem decodeFrom_within_ne_nil (bits : Nat) (next : Follower) (further : Nat) (bs : Bytes) :
    decodeFrom (.within bits next further) bs ≠ [] := by
  induction bs generalizing bits next further with
  | nil => exact List.cons_ne_nil _ _
  | cons b bs ih =>
    rw [decodeFrom_cons, Decoding.step]
    split
    · cases further with
      | zero => simp
      | succ n => simpa using ih _ _ _
    · simp

/-- Bytes stand for something. -/
theorem decodeFrom_cons_ne_nil (b : UInt8) (bs : Bytes) : decodeFrom .between (b :: bs) ≠ [] := by
  rcases Decoding.start_trichotomy b with ⟨c, hc⟩ | hs | ⟨bits, next, further, hs⟩
  · have hread := decodeFrom_utf8EncodeChar c bs
    rw [hc, List.singleton_append] at hread
    simp [hread]
  · simp [decodeFrom_cons, Decoding.step, hs]
  · simpa [decodeFrom_cons, Decoding.step, hs] using decodeFrom_within_ne_nil bits next further bs

namespace Reached

variable {bits further : Nat} {next : Follower} {b : UInt8}

/-- The first byte of several has reading stand inside a character. -/
theorem start (h : Decoding.start b = ([], .within bits next further)) :
    Reached [b] bits next further where
  reads rest := by
    rw [List.singleton_append, decodeFrom_cons, Decoding.step, h]
    rfl
  opens := opens_start h

/-- A byte that may come next, but not as the last one, leads on inside the character. -/
theorem step (h : Reached bs bits next (further + 1)) (hb : next.admits b = true) :
    Reached (bs ++ [b]) (bits * 64 + (b.toNat - 0x80)) .any further where
  reads rest := by
    rw [List.append_assoc, h.reads, List.singleton_append, decodeFrom_cons, Decoding.step,
      if_pos hb]
    rfl
  opens := by
    intro x hx hx'
    have hpos : 0 < 64 ^ further := Nat.pow_pos (by decide)
    obtain ⟨hlow, hhigh⟩ := Follower.admits_iff.1 hb
    have hnext := next.range
    simp only [Follower.high] at hx'
    -- The byte puts its bits in front of those of the bytes that are open.
    have hfront : ((b.toNat - 0x80) * 64 ^ (further + 1) + x) / 64 ^ (further + 1) =
        b.toNat - 0x80 := by
      have hsmall : x / 64 ^ (further + 1) = 0 := by
        rw [Nat.pow_succ, ← Nat.div_div_eq_div_mul]
        generalize x / 64 ^ further = first at hx'
        omega
      rw [Nat.add_comm, Nat.add_mul_div_right _ _ (Nat.pow_pos (by decide)), hsmall, Nat.zero_add]
    obtain ⟨c, hc⟩ := h.opens ((b.toNat - 0x80) * 64 ^ (further + 1) + x)
      (by rw [hfront]; omega) (by rw [hfront]; omega)
    refine ⟨c, ?_⟩
    have hbyte : (b.toNat - 0x80) % 64 + 0x80 = b.toNat := by omega
    rw [hc, lastBytes, hfront, hbyte, UInt8.ofNat_toNat, lastBytes_add, List.append_assoc,
      List.singleton_append]

/-- The last byte completes a character. -/
theorem complete (h : Reached bs bits next 0) (hb : next.admits b = true) :
    ∃ c : Char, String.utf8EncodeChar c = bs ++ [b] := by
  obtain ⟨hlow, hhigh⟩ := Follower.admits_iff.1 hb
  have hnext := next.range
  have hbyte : (b.toNat - 0x80) % 64 + 0x80 = b.toNat := by omega
  obtain ⟨c, hc⟩ := h.opens (b.toNat - 0x80) (by simp; omega) (by simp; omega)
  refine ⟨c, hc.trans ?_⟩
  simp [lastBytes, hbyte]

/-- What has been read is not all of a character. -/
theorem exists_more (h : Reached bs bits next further) :
    ∃ (c : Char) (more : Bytes), more ≠ [] ∧ String.utf8EncodeChar c = bs ++ more := by
  have hpos : 0 < 64 ^ further := Nat.pow_pos (by decide)
  have hnext := next.range
  have hle : next.low ≤ next.high := by cases next <;> decide
  have hfirst : (next.low - 0x80) * 64 ^ further / 64 ^ further = next.low - 0x80 :=
    Nat.mul_div_cancel _ hpos
  obtain ⟨c, hc⟩ := h.opens ((next.low - 0x80) * 64 ^ further)
    (by rw [hfirst]; omega) (by rw [hfirst]; omega)
  exact ⟨c, _, List.cons_ne_nil _ _, hc⟩

theorem begins (h : Reached bs bits next further) : Begins bs := by
  obtain ⟨c, more, -, hc⟩ := h.exists_more
  exact ⟨c, more, hc.symm⟩

/-- No character goes on with another byte. -/
theorem not_begins (h : Reached bs bits next further) (hb : next.admits b = false) :
    ¬ Begins (bs ++ [b]) := by
  rintro ⟨c, more, hc⟩
  have hread := decodeFrom_utf8EncodeChar c []
  rw [← hc, List.append_nil, List.append_assoc, h.reads, List.singleton_append, decodeFrom_cons,
    Decoding.step, hb] at hread
  -- The byte would be read anew behind a replacement character, and stand for something itself.
  have hanew : decodeFrom .between (b :: more) = [] := by
    rw [decodeFrom_cons]
    exact (List.cons.inj hread).2
  exact decodeFrom_cons_ne_nil b more hanew

/-- What has been read is spoilt where no byte follows that may come next. -/
theorem spoilt (h : Reached bs bits next further)
    (hrest : ∀ b more, rest = b :: more → next.admits b = false) : Spoilt bs rest := by
  have hlongest : ∀ front, front <+: bs ++ rest → Begins front → front.length ≤ bs.length := by
    refine fun front hfront hbegins => Nat.not_lt.1 fun hlong => ?_
    cases rest with
    | nil =>
      have hle := hfront.length_le
      rw [List.append_nil] at hle
      omega
    | cons b more =>
      have hnext : bs ++ [b] <+: front :=
        List.prefix_of_prefix_length_le ⟨more, by simp⟩ hfront (by simp; omega)
      exact h.not_begins (hrest b more rfl) (hbegins.of_prefix hnext)
  refine ⟨?_, ?_, Or.inl h.begins, hlongest⟩
  · rintro rfl
    have hread := h.reads []
    cases hread
  · intro c hc
    have hshort := hlongest _ hc ⟨c, List.prefix_refl _⟩
    obtain ⟨left, hleft⟩ := List.prefix_of_prefix_length_le hc (List.prefix_append bs rest) hshort
    obtain ⟨d, more, hmore, hd⟩ := h.exists_more
    rw [← hleft, List.append_assoc] at hd
    have hinj := (utf8EncodeChar_append_inj ((List.append_nil _).trans hd)).2
    exact hmore (List.append_eq_nil_iff.1 hinj.symm).2

end Reached

/-- Bytes begin with a character, or with some that are spoilt together and read as a replacement
character. -/
def Cut (bs : Bytes) : Prop :=
  (∃ (c : Char) (after : Bytes), bs = String.utf8EncodeChar c ++ after) ∨
    ∃ part after, bs = part ++ after ∧ Spoilt part after ∧
      decodeChars bs = replacement :: decodeChars after

/-- From inside a character reading goes on to its end, or to a byte that spoils it. -/
theorem Reached.cut {bits further : Nat} {next : Follower} (h : Reached bs bits next further)
    (rest : Bytes) : Cut (bs ++ rest) := by
  induction rest generalizing bs bits next further with
  | nil => exact Or.inr ⟨bs, [], rfl, h.spoilt (by simp), h.reads []⟩
  | cons b rest ih =>
    cases hb : next.admits b with
    | false =>
      refine Or.inr ⟨bs, b :: rest, rfl, h.spoilt ?_, ?_⟩
      · rintro _ _ ⟨⟩
        exact hb
      · rw [decodeChars, h.reads, decodeFrom_cons, Decoding.step, hb, decodeChars, decodeFrom_cons]
        rfl
    | true =>
      cases further with
      | zero =>
        obtain ⟨c, hc⟩ := h.complete hb
        exact Or.inl ⟨c, rest, by rw [hc]; simp⟩
      | succ n =>
        rw [List.append_cons]
        exact ih (h.step hb)

/-- Whatever bytes there are, they begin in one of the two ways. -/
theorem cut_cons (b : UInt8) (bs : Bytes) : Cut (b :: bs) := by
  rcases Decoding.start_trichotomy b with ⟨c, hc⟩ | hs | ⟨bits, next, further, hs⟩
  · exact Or.inl ⟨c, bs, by rw [hc]; rfl⟩
  · have hread : ∀ more,
        decodeFrom .between (b :: more) = replacement :: decodeFrom .between more := by
      intro more
      rw [decodeFrom_cons, Decoding.step, hs]
      rfl
    by_cases hb : Begins [b]
    · obtain ⟨c, more, hc⟩ := hb
      rw [List.singleton_append] at hc
      have hone := decodeFrom_utf8EncodeChar c []
      rw [List.append_nil, ← hc, hread] at hone
      cases more with
      | nil => exact Or.inl ⟨c, bs, by rw [← hc]; rfl⟩
      | cons b' more => exact absurd (List.cons.inj hone).2 (decodeFrom_cons_ne_nil b' more)
    · have hfront : ∀ front, front ≠ [] → front <+: [b] ++ bs → ¬ Begins front := by
        intro front hne hfront hbegins
        refine hb (hbegins.of_prefix (List.prefix_of_prefix_length_le ⟨bs, rfl⟩ hfront ?_))
        exact List.length_pos_iff.2 hne
      refine Or.inr ⟨[b], bs, rfl, ⟨List.cons_ne_nil b [], ?_, Or.inr rfl, ?_⟩, hread bs⟩
      · intro c hc
        exact hfront _ (utf8EncodeChar_ne_nil c) hc ⟨c, List.prefix_refl _⟩
      · intro front hprefix hbegins
        by_cases hne : front = []
        · simp [hne]
        · exact absurd hbegins (hfront front hne hprefix)
  · exact (Reached.start hs).cut bs

/-- What bytes stand for is read byte by byte. -/
theorem decodesTo_decodeChars (bs : Bytes) : DecodesTo bs (decodeChars bs) := by
  induction hn : bs.length using Nat.strongRecOn generalizing bs with
  | ind n ih =>
    cases bs with
    | nil => exact .done
    | cons b bs =>
      rcases cut_cons b bs with ⟨c, after, hbs⟩ | ⟨part, after, hbs, hspoilt, hread⟩
      · have hpos := List.length_pos_iff.2 (utf8EncodeChar_ne_nil c)
        rw [hbs, List.length_append] at hn
        rw [hbs, decodeChars, decodeFrom_utf8EncodeChar]
        exact .char c (ih after.length (by omega) after rfl)
      · have hpos := List.length_pos_iff.2 hspoilt.nonempty
        rw [hread]
        rw [hbs, List.length_append] at hn
        rw [hbs]
        exact .spoilt hspoilt (ih after.length (by omega) after rfl)

/-- Bytes stand for what is read byte by byte, and nothing else. -/
theorem decodesTo_iff : DecodesTo bs cs ↔ cs = decodeChars bs := by
  constructor
  · intro h
    exact h.unique (decodesTo_decodeChars bs)
  · rintro rfl
    exact decodesTo_decodeChars bs

/-- A character that lacks its last byte is spoilt as one, and bytes that begin no character one by
one. -/
example : decode [0xE2, 0x82, 0x0A, 0xC0, 0x80, 0xED, 0xA0, 0x80, 0xF0, 0x9F, 0x98] =
    "\uFFFD\n\uFFFD\uFFFD\uFFFD\uFFFD\uFFFD\uFFFD" := by
  decide

/-! ## Line by line -/

/-- Bytes that stand for nothing are none. -/
theorem decodeChars_eq_nil_iff : decodeChars bs = [] ↔ bs = [] := by
  cases bs with
  | nil => exact iff_of_true rfl rfl
  | cons b bs => exact iff_of_false (decodeFrom_cons_ne_nil b bs) (List.cons_ne_nil b bs)

/-- The lines of some bytes stand for the lines of the text that all of them stand for. -/
theorem map_decodeChars_lines (bs : Bytes) :
    (lines bs).map decodeChars = cutAfter (· == '\n') (decodeChars bs) := by
  induction bs using line_induction with
  | last bs hbs =>
    rw [lines_of_not_mem hbs,
      cutAfter_of_forall (forall_ne_of_not_mem (newline_not_mem_decodeChars hbs))]
    by_cases hnil : bs = []
    · rw [if_pos hnil, if_pos (decodeChars_eq_nil_iff.2 hnil)]
      rfl
    · rw [if_neg hnil, if_neg fun h => hnil (decodeChars_eq_nil_iff.1 h)]
      rfl
  | line before rest hbefore ih =>
    have hnone := forall_ne_of_not_mem (newline_not_mem_decodeChars hbefore)
    rw [lines_append_lineFeed hbefore, List.map_cons, ih, decodeChars_concat_lineFeed,
      decodeChars_append_lineFeed, cutAfter_append_cons hnone (beq_self_eq_true '\n')]

end RecallShell.Text
