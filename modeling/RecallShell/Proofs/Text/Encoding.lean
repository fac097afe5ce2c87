import RecallShell.Numeral
import RecallShell.Text.Utf8

/-!
# Encoding and decoding

Text that is written as UTF-8 is read back unchanged. A character of the ASCII range is among the
bytes of a text exactly if it is in the text, for the bytes of the characters that take several are
all beyond that range. Nor do bytes that are no text hide a line feed: a character that stands for
unfinished ones is none.
-/

namespace RecallShell.Text

namespace Follower

/-- The least byte that may come next. -/
def low : Follower → Nat
  | .any | .upTo9F | .upTo8F => 0x80
  | .fromA0 => 0xA0
  | .from90 => 0x90

/-- The greatest byte that may come next. -/
def high : Follower → Nat
  | .any | .fromA0 | .from90 => 0xBF
  | .upTo9F => 0x9F
  | .upTo8F => 0x8F

/-- The bytes that may come next are those between the least and the greatest of them. -/
theorem admits_iff {f : Follower} {b : UInt8} :
    f.admits b = true ↔ f.low ≤ b.toNat ∧ b.toNat ≤ f.high := by
  cases f <;> simp [admits, low, high, UInt8.le_iff_toNat_le]

end Follower

/-- The first byte of a character is told by its number. -/
theorem Decoding.start_eq (b : UInt8) : Decoding.start b =
    if b.toNat < 0x80 then ([Char.ofNat b.toNat], .between)
    else if b.toNat < 0xC2 then ([replacement], .between)
    else if b.toNat < 0xE0 then ([], .within (b.toNat - 0xC0) .any 0)
    else if b.toNat = 0xE0 then ([], .within 0 .fromA0 1)
    else if b.toNat = 0xED then ([], .within 0xD .upTo9F 1)
    else if b.toNat < 0xF0 then ([], .within (b.toNat - 0xE0) .any 1)
    else if b.toNat = 0xF0 then ([], .within 0 .from90 2)
    else if b.toNat < 0xF4 then ([], .within (b.toNat - 0xF0) .any 2)
    else if b.toNat = 0xF4 then ([], .within 4 .upTo8F 2)
    else ([replacement], .between) := by
  simp only [start, UInt8.lt_iff_toNat_lt, ← UInt8.toNat_inj]
  rfl

/-! ## Reading what was written -/

private theorem toNat_continuation (x : Nat) :
    (UInt8.ofNat (x % 64 + 0x80)).toNat = x % 64 + 0x80 := by
  rw [UInt8.toNat_ofNat']
  omega

/-- The last byte of a character completes it. -/
theorem decodeFrom_last {bits x : Nat} {next : Follower} (bs : Bytes)
    (h : next.low ≤ x % 64 + 0x80 ∧ x % 64 + 0x80 ≤ next.high) :
    decodeFrom (.within bits next 0) (UInt8.ofNat (x % 64 + 0x80) :: bs) =
      Char.ofNat (bits * 64 + x % 64) :: decodeFrom .between bs := by
  have ha : next.admits (UInt8.ofNat (x % 64 + 0x80)) = true := by
    rwa [Follower.admits_iff, toNat_continuation]
  simp only [decodeFrom, Decoding.step, ha, if_true, toNat_continuation, Nat.add_sub_cancel]
  rfl

/-- A byte before the last one adds its bits. -/
theorem decodeFrom_further {bits x further : Nat} {next : Follower} (bs : Bytes)
    (h : next.low ≤ x % 64 + 0x80 ∧ x % 64 + 0x80 ≤ next.high) :
    decodeFrom (.within bits next (further + 1)) (UInt8.ofNat (x % 64 + 0x80) :: bs) =
      decodeFrom (.within (bits * 64 + x % 64) .any further) bs := by
  have ha : next.admits (UInt8.ofNat (x % 64 + 0x80)) = true := by
    rwa [Follower.admits_iff, toNat_continuation]
  simp only [decodeFrom, Decoding.step, ha, if_true, toNat_continuation, Nat.add_sub_cancel]
  rfl

private theorem any_continuation (x : Nat) :
    Follower.any.low ≤ x % 64 + 0x80 ∧ x % 64 + 0x80 ≤ Follower.any.high := by
  simp only [Follower.low, Follower.high]
  omega

/-- What the first of three bytes leaves open takes the second one. -/
theorem Decoding.start_three {v : Nat} (hlow : 0x800 ≤ v) (hhigh : v < 0x10000)
    (hvalid : v.isValidChar) : ∃ next : Follower,
    Decoding.start (UInt8.ofNat (v / 4096 % 16 + 0xE0)) = ([], .within (v / 4096) next 1) ∧
      next.low ≤ v / 64 % 64 + 0x80 ∧ v / 64 % 64 + 0x80 ≤ next.high := by
  have hb : (UInt8.ofNat (v / 4096 % 16 + 0xE0)).toNat = v / 4096 + 0xE0 := by
    rw [UInt8.toNat_ofNat']
    omega
  rw [start_eq, hb]
  by_cases h0 : v / 4096 = 0
  · refine ⟨.fromA0, ?_, ?_⟩
    · simp [h0]
    · simp only [Follower.low, Follower.high]
      omega
  by_cases hd : v / 4096 = 0xD
  · refine ⟨.upTo9F, ?_, ?_⟩
    · simp [hd]
    · simp only [Follower.low, Follower.high]
      rcases hvalid with hv | hv <;> omega
  · refine ⟨.any, ?_, any_continuation _⟩
    rw [if_neg (by omega), if_neg (by omega), if_neg (by omega), if_neg (by omega),
      if_neg (by omega), if_pos (by omega), Nat.add_sub_cancel]

/-- What the first of four bytes leaves open takes the second one. -/
theorem Decoding.start_four {v : Nat} (hlow : 0x10000 ≤ v) (hvalid : v.isValidChar) :
    ∃ next : Follower,
    Decoding.start (UInt8.ofNat (v / 262144 % 8 + 0xF0)) = ([], .within (v / 262144) next 2) ∧
      next.low ≤ v / 4096 % 64 + 0x80 ∧ v / 4096 % 64 + 0x80 ≤ next.high := by
  have hv : v < 0x110000 := by
    rcases hvalid with hv | hv <;> omega
  have hb : (UInt8.ofNat (v / 262144 % 8 + 0xF0)).toNat = v / 262144 + 0xF0 := by
    rw [UInt8.toNat_ofNat']
    omega
  rw [start_eq, hb]
  by_cases h0 : v / 262144 = 0
  · refine ⟨.from90, ?_, ?_⟩
    · simp [h0]
    · simp only [Follower.low, Follower.high]
      omega
  by_cases h4 : v / 262144 = 4
  · refine ⟨.upTo8F, ?_, ?_⟩
    · simp [h4]
    · simp only [Follower.low, Follower.high]
      omega
  · refine ⟨.any, ?_, any_continuation _⟩
    rw [if_neg (by omega), if_neg (by omega), if_neg (by omega), if_neg (by omega),
      if_neg (by omega), if_neg (by omega), if_neg (by omega), if_pos (by omega),
      Nat.add_sub_cancel]

/-- The bytes of a character are told by its number. -/
theorem utf8EncodeChar_eq (c : Char) : String.utf8EncodeChar c =
    if c.toNat ≤ 0x7f then [UInt8.ofNat c.toNat]
    else if c.toNat ≤ 0x7ff then
      [UInt8.ofNat (c.toNat / 64 % 0x20 + 0xc0), UInt8.ofNat (c.toNat % 64 + 0x80)]
    else if c.toNat ≤ 0xffff then
      [UInt8.ofNat (c.toNat / 4096 % 0x10 + 0xe0), UInt8.ofNat (c.toNat / 64 % 64 + 0x80),
        UInt8.ofNat (c.toNat % 64 + 0x80)]
    else
      [UInt8.ofNat (c.toNat / 262144 % 0x08 + 0xf0), UInt8.ofNat (c.toNat / 4096 % 64 + 0x80),
        UInt8.ofNat (c.toNat / 64 % 64 + 0x80), UInt8.ofNat (c.toNat % 64 + 0x80)] := rfl

/-- A character is read back from its bytes, whatever follows them. -/
theorem decodeFrom_utf8EncodeChar (c : Char) (bs : Bytes) :
    decodeFrom .between (String.utf8EncodeChar c ++ bs) = c :: decodeFrom .between bs := by
  have hvalid : c.toNat.isValidChar := c.valid
  have hc : ∀ {n : Nat}, n = c.toNat → Char.ofNat n = c := by
    rintro n rfl
    exact Char.ofNat_toNat c
  rw [utf8EncodeChar_eq]
  by_cases h1 : c.toNat ≤ 0x7f
  · have hb : (UInt8.ofNat c.toNat).toNat = c.toNat := by
      rw [UInt8.toNat_ofNat']
      omega
    have hs : Decoding.start (UInt8.ofNat c.toNat) = ([c], .between) := by
      rw [Decoding.start_eq, hb, if_pos (by omega), hc rfl]
    rw [if_pos h1]
    simp only [List.cons_append, List.nil_append, decodeFrom, Decoding.step, hs]
  rw [if_neg h1]
  by_cases h2 : c.toNat ≤ 0x7ff
  · have hb : (UInt8.ofNat (c.toNat / 64 % 0x20 + 0xc0)).toNat = c.toNat / 64 + 0xC0 := by
      rw [UInt8.toNat_ofNat']
      omega
    have hs : Decoding.start (UInt8.ofNat (c.toNat / 64 % 0x20 + 0xc0)) =
        ([], .within (c.toNat / 64) .any 0) := by
      rw [Decoding.start_eq, hb, if_neg (by omega), if_neg (by omega), if_pos (by omega),
        Nat.add_sub_cancel]
    rw [if_pos h2]
    simp only [List.cons_append, List.nil_append]
    rw [decodeFrom, Decoding.step, hs, List.nil_append, decodeFrom_last _ (any_continuation _),
      hc (by omega)]
  rw [if_neg h2]
  by_cases h3 : c.toNat ≤ 0xffff
  · obtain ⟨next, hs, hnext⟩ := Decoding.start_three (by omega) (by omega) hvalid
    rw [if_pos h3]
    simp only [List.cons_append, List.nil_append]
    rw [decodeFrom, Decoding.step, hs, List.nil_append, decodeFrom_further _ hnext,
      decodeFrom_last _ (any_continuation _), hc (by omega)]
  · obtain ⟨next, hs, hnext⟩ := Decoding.start_four (by omega) hvalid
    rw [if_neg h3]
    simp only [List.cons_append, List.nil_append]
    rw [decodeFrom, Decoding.step, hs, List.nil_append, decodeFrom_further _ hnext,
      decodeFrom_further _ (any_continuation _), decodeFrom_last _ (any_continuation _),
      hc (by omega)]

/-- Characters are read back from their bytes, whatever follows them. -/
theorem decodeFrom_encode (s : String) (bs : Bytes) :
    decodeFrom .between (encode s ++ bs) = s.toList ++ decodeFrom .between bs := by
  unfold encode
  induction s.toList with
  | nil => rfl
  | cons c cs ih =>
    rw [List.flatMap_cons, List.append_assoc, decodeFrom_utf8EncodeChar, ih, List.cons_append]

/-- The characters of a text are read back unchanged. -/
theorem decodeChars_encode (s : String) : decodeChars (encode s) = s.toList := by
  have h := decodeFrom_encode s []
  rwa [List.append_nil, show decodeFrom .between [] = [] from rfl, List.append_nil] at h

/-- A text is read back unchanged. -/
theorem decode_encode (s : String) : decode (encode s) = s := by
  rw [decode, decodeChars_encode, String.ofList_toList]

/-! ## Characters of the ASCII range -/

/-- A byte of the ASCII range is among the bytes of a character only if it is all of them. -/
theorem toNat_eq_of_mem_utf8EncodeChar {c : Char} {b : UInt8} (hb : b.toNat < 0x80)
    (h : b ∈ String.utf8EncodeChar c) : c.toNat = b.toNat := by
  rw [utf8EncodeChar_eq] at h
  by_cases h1 : c.toNat ≤ 0x7f
  · rw [if_pos h1] at h
    rw [List.mem_singleton.1 h, UInt8.toNat_ofNat']
    omega
  · exfalso
    rw [if_neg h1] at h
    -- Every byte of a longer form has its highest bit set.
    have hlarge : ∀ {n : Nat}, 0x80 ≤ n → n < 0x100 → b ≠ UInt8.ofNat n := by
      intro n hlow hhigh he
      rw [he, UInt8.toNat_ofNat'] at hb
      omega
    split at h
    · simp only [List.mem_cons, List.not_mem_nil, or_false] at h
      rcases h with h | h <;> exact hlarge (by omega) (by omega) h
    split at h <;> simp only [List.mem_cons, List.not_mem_nil, or_false] at h
    · rcases h with h | h | h <;> exact hlarge (by omega) (by omega) h
    · rcases h with h | h | h | h <;> exact hlarge (by omega) (by omega) h

/-- A character of the ASCII range is in a text exactly if its byte is among the bytes. -/
theorem mem_encode_iff {c : Char} (hc : c.toNat < 0x80) {s : String} :
    UInt8.ofNat c.toNat ∈ encode s ↔ c ∈ s.toList := by
  have hb : (UInt8.ofNat c.toNat).toNat = c.toNat := by
    rw [UInt8.toNat_ofNat']
    omega
  constructor
  · intro h
    obtain ⟨d, hd, hm⟩ := List.mem_flatMap.1 h
    have hn := toNat_eq_of_mem_utf8EncodeChar (by omega) hm
    rwa [← Char.ofNat_toNat c, ← hb, ← hn, Char.ofNat_toNat]
  · intro h
    refine List.mem_flatMap.2 ⟨c, h, ?_⟩
    rw [utf8EncodeChar_eq, if_pos (by omega)]
    exact List.mem_singleton_self _

/-! ## Line feeds -/

/-- A text without line feeds has none among its bytes. -/
theorem lineFeed_not_mem_encode {s : String} (h : '\n' ∉ s.toList) : lineFeed ∉ encode s :=
  mt (mem_encode_iff (c := '\n') (by decide)).1 h

theorem decodeFrom_cons (d : Decoding) (b : UInt8) (bs : Bytes) :
    decodeFrom d (b :: bs) = (d.step b).1 ++ decodeFrom (d.step b).2 bs := by
  cases d <;> rfl

/-- A line feed ends whatever was being read, and reading begins anew behind it. -/
theorem decodeFrom_append_lineFeed (d : Decoding) (before rest : Bytes) :
    decodeFrom d (before ++ lineFeed :: rest) =
      decodeFrom d before ++ '\n' :: decodeFrom .between rest := by
  induction before generalizing d with
  | nil => simp [decodeFrom_cons, Decoding.step_lineFeed]
  | cons b before ih =>
    rw [List.cons_append, decodeFrom_cons, decodeFrom_cons, ih, List.append_assoc]

/-- What stands before a line feed and behind it is read by itself. -/
theorem decodeChars_append_lineFeed (before rest : Bytes) :
    decodeChars (before ++ lineFeed :: rest) = decodeChars before ++ '\n' :: decodeChars rest :=
  decodeFrom_append_lineFeed .between before rest

theorem decodeChars_concat_lineFeed (bs : Bytes) :
    decodeChars (bs ++ [lineFeed]) = decodeChars bs ++ ['\n'] :=
  decodeChars_append_lineFeed bs []

/-- A character that has begun comes to no less than the first one that takes two bytes. -/
def Decoding.Wide : Decoding → Prop
  | .between => True
  | .within bits next further => 0x80 ≤ (bits * 64 + (next.low - 0x80)) * 64 ^ further

theorem Decoding.wide_between : Decoding.between.Wide := trivial

/-- A number that reads as a line feed is that of a line feed. -/
theorem eq_of_ofNat_eq_newline {n : Nat} (h : Char.ofNat n = '\n') : n = 10 := by
  rw [Char.ofNat] at h
  by_cases hn : n.isValidChar
  · rw [dif_pos hn] at h
    exact congrArg Char.toNat h
  · rw [dif_neg hn] at h
    cases h

/-- A byte at the beginning of a character is one by itself, a line feed only for a line feed, or
begins a wide one. -/
theorem Decoding.start_cases (b : UInt8) :
    (∃ c, Decoding.start b = ([c], .between) ∧ (c = '\n' → b = lineFeed)) ∨
      ∃ d, Decoding.start b = ([], d) ∧ d.Wide := by
  rw [start_eq]
  by_cases h1 : b.toNat < 0x80
  · refine Or.inl ⟨Char.ofNat b.toNat, by rw [if_pos h1], ?_⟩
    intro hc
    exact UInt8.toNat_inj.1 (eq_of_ofNat_eq_newline hc)
  rw [if_neg h1]
  have hspoilt : replacement = '\n' → b = lineFeed := by
    intro hc
    cases hc
  split
  · exact Or.inl ⟨replacement, rfl, hspoilt⟩
  split
  · refine Or.inr ⟨_, rfl, ?_⟩
    simp only [Wide, Follower.low]
    omega
  split
  · exact Or.inr ⟨_, rfl, by simp [Wide, Follower.low]⟩
  split
  · exact Or.inr ⟨_, rfl, by simp [Wide, Follower.low]⟩
  split
  · refine Or.inr ⟨_, rfl, ?_⟩
    simp only [Wide, Follower.low]
    omega
  split
  · exact Or.inr ⟨_, rfl, by simp [Wide, Follower.low]⟩
  split
  · refine Or.inr ⟨_, rfl, ?_⟩
    simp only [Wide, Follower.low]
    omega
  split
  · exact Or.inr ⟨_, rfl, by simp [Wide, Follower.low]⟩
  · exact Or.inl ⟨replacement, rfl, hspoilt⟩

/-- A byte keeps what has begun as wide as it must be, and only a line feed reads as one. -/
theorem Decoding.Wide.step {d : Decoding} (h : d.Wide) {b : UInt8} (hb : b ≠ lineFeed) :
    (d.step b).2.Wide ∧ '\n' ∉ (d.step b).1 := by
  have hstart : (Decoding.start b).2.Wide ∧ '\n' ∉ (Decoding.start b).1 := by
    rcases Decoding.start_cases b with ⟨c, hs, hc⟩ | ⟨e, hs, he⟩
    · rw [hs]
      exact ⟨trivial, fun hm => hb (hc (List.mem_singleton.1 hm).symm)⟩
    · rw [hs]
      exact ⟨he, List.not_mem_nil⟩
  cases d with
  | between => exact hstart
  | within bits next further =>
    by_cases ha : next.admits b = true
    · have hlow := (Follower.admits_iff.1 ha).1
      have hmono : (bits * 64 + (next.low - 0x80)) * 64 ^ further ≤
          (bits * 64 + (b.toNat - 0x80)) * 64 ^ further :=
        Nat.mul_le_mul_right _ (by omega)
      have hwide : 0x80 ≤ (bits * 64 + (b.toNat - 0x80)) * 64 ^ further := Nat.le_trans h hmono
      cases further with
      | zero =>
        simp only [Decoding.step, ha, if_true]
        refine ⟨trivial, fun hm => ?_⟩
        have hn := eq_of_ofNat_eq_newline (List.mem_singleton.1 hm).symm
        omega
      | succ n =>
        simp only [Decoding.step, ha, if_true]
        refine ⟨?_, List.not_mem_nil⟩
        change 0x80 ≤ ((bits * 64 + (b.toNat - 0x80)) * 64 + 0) * 64 ^ n
        rw [Nat.add_zero, Nat.mul_assoc, ← Nat.pow_succ']
        exact hwide
    · simp only [Decoding.step, ha]
      refine ⟨hstart.1, ?_⟩
      intro hm
      rcases List.mem_cons.1 hm with hr | hm
      · cases hr
      · exact hstart.2 hm

/-- Bytes without line feeds read as a text without any. -/
theorem newline_not_mem_decodeFrom {d : Decoding} (h : d.Wide) {bs : Bytes}
    (hbs : lineFeed ∉ bs) : '\n' ∉ decodeFrom d bs := by
  induction bs generalizing d with
  | nil => cases d <;> simp [decodeFrom, replacement]
  | cons b bs ih =>
    rw [List.mem_cons, not_or] at hbs
    obtain ⟨hwide, hnot⟩ := h.step (Ne.symm hbs.1)
    rw [decodeFrom_cons, List.mem_append, not_or]
    exact ⟨hnot, ih hwide hbs.2⟩

/-- Bytes without line feeds stand for a text without any. -/
theorem newline_not_mem_decodeChars {bs : Bytes} (h : lineFeed ∉ bs) : '\n' ∉ decodeChars bs :=
  newline_not_mem_decodeFrom Decoding.wide_between h

end RecallShell.Text
