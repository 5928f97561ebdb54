import ClipCadence.Text.Utf8
import Mathlib.Data.List.Forall2

/-!
Lenient decoding. `Decodes` says by the standard, without a reader, what a byte sequence is decoded
to. Where a character is encoded it is that character. Where none is, the bytes up to the next place
are a maximal subpart: as many as could start a character, and one if not even the first could. A
subpart is decoded to U+FFFD.

The reader looks at one byte at a time. What it keeps of a character that has begun is `Sound`: the
ranges that are left say which bytes complete the character. So it goes on as long as some character
starts with the bytes so far, and no further.

Main statement: `decodes_iff`, every byte sequence is decoded to one text, that of the reader.
-/

namespace ClipCadence.Text.Utf8

open List (Forall₂)

variable {byte : UInt8} {bytes part rest tail : List UInt8} {pending : Pending}
  {text : List Char} {c : Char}

/-- Some character starts with these bytes. -/
def Begins (part : List UInt8) : Prop := ∃ c, part <+: String.utf8EncodeChar c

/-- The first bytes of a sequence that are replaced by one U+FFFD. -/
structure MaximalSubpart (part rest : List UInt8) : Prop where
  unconvertible : ∀ c, ¬ String.utf8EncodeChar c <+: part ++ rest
  ne_nil : part ≠ []
  begins : Begins part ∨ part.length = 1
  longest : ∀ longer, longer <+: part ++ rest → Begins longer → longer.length ≤ part.length

/-- What a byte sequence is decoded to. -/
inductive Decodes : List UInt8 → List Char → Prop
  | nil : Decodes [] []
  | char (c : Char) {rest : List UInt8} {text : List Char} (h : Decodes rest text) :
      Decodes (String.utf8EncodeChar c ++ rest) (c :: text)
  | replaced {part rest : List UInt8} {text : List Char} (hpart : MaximalSubpart part rest)
      (h : Decodes rest text) : Decodes (part ++ rest) ('\ufffd' :: text)

/-! ### Subparts -/

theorem MaximalSubpart.length_le {part' rest' : List UInt8} (h : MaximalSubpart part rest)
    (h' : MaximalSubpart part' rest') (heq : part ++ rest = part' ++ rest') :
    part.length ≤ part'.length := by
  rcases h.begins with hbegins | hone
  · exact h'.longest part (heq ▸ List.prefix_append part rest) hbegins
  · rw [hone]
    exact List.length_pos_of_ne_nil h'.ne_nil

/-- A sequence has one maximal subpart at most. -/
theorem MaximalSubpart.unique {part' rest' : List UInt8} (h : MaximalSubpart part rest)
    (h' : MaximalSubpart part' rest') (heq : part ++ rest = part' ++ rest') :
    part = part' ∧ rest = rest' :=
  List.append_inj heq (Nat.le_antisymm (h.length_le h' heq) (h'.length_le h heq.symm))

/-- A subpart ends where no character goes on with the next byte. -/
theorem MaximalSubpart.of_not_begins (hchar : ∀ c, ¬ String.utf8EncodeChar c <+: part ++ rest)
    (hnil : part ≠ []) (hbegins : Begins part ∨ part.length = 1)
    (hstop : ∀ byte more, rest = byte :: more → ¬ Begins (part ++ [byte])) :
    MaximalSubpart part rest := by
  refine ⟨hchar, hnil, hbegins, fun longer hlonger ⟨c, hc⟩ => ?_⟩
  by_contra hlength
  obtain ⟨extra, rfl⟩ : part <+: longer :=
    List.prefix_of_prefix_length_le (List.prefix_append part rest) hlonger (by omega)
  rw [List.prefix_append_right_inj] at hlonger
  cases extra with
  | nil => exact hlength (Nat.le_of_eq (congrArg List.length (List.append_nil part)))
  | cons byte extra =>
    obtain ⟨more, hmore⟩ := hlonger
    have hnext : part ++ [byte] <+: part ++ byte :: extra :=
      (List.prefix_append_right_inj part).mpr ⟨extra, rfl⟩
    exact hstop byte _ hmore.symm ⟨c, hnext.trans hc⟩

/-! ### The first byte -/

def Admits (range : Nat × Nat) (byte : UInt8) : Prop :=
  range.1 ≤ byte.toNat ∧ byte.toNat ≤ range.2

theorem ofNat_eq {n : Nat} (h : n = byte.toNat) : UInt8.ofNat n = byte := by
  rw [h, UInt8.ofNat_toNat]

theorem admits_ofNat {low high n : Nat} (h : n < 256) (hlow : low ≤ n) (hhigh : n ≤ high) :
    Admits (low, high) (.ofNat n) := by
  rw [Admits, toNat_ofNat h]
  exact ⟨hlow, hhigh⟩

/-- The bits that a byte after the first one carries. -/
theorem exists_bits {low high : Nat} (h : Admits (low, high) byte) (hlow : 0x80 ≤ low)
    (hhigh : high ≤ 0xbf) :
    ∃ t < 0x40, byte = .ofNat (t + 0x80) ∧ low ≤ t + 0x80 ∧ t + 0x80 ≤ high := by
  obtain ⟨h, h'⟩ := h
  exact ⟨byte.toNat - 0x80, by omega, (ofNat_eq (by omega)).symm, by omega, by omega⟩

/-- The first bytes of characters of two, three and four bytes, with what they announce. -/
inductive Announces : UInt8 → Pending → Prop
  | two (k : Nat) (hlow : 2 ≤ k) (hhigh : k < 0x20) :
      Announces (.ofNat (k + 0xc0)) ⟨[.ofNat (k + 0xc0)], k, [anyTail]⟩
  | three (k : Nat) (hk : k < 0x10) :
      Announces (.ofNat (k + 0xe0)) ⟨[.ofNat (k + 0xe0)], k,
        [(if k = 0 then 0xa0 else 0x80, if k = 0xd then 0x9f else 0xbf), anyTail]⟩
  | four (k : Nat) (hk : k < 5) :
      Announces (.ofNat (k + 0xf0)) ⟨[.ofNat (k + 0xf0)], k,
        [(if k = 0 then 0x90 else 0x80, if k = 4 then 0x8f else 0xbf), anyTail, anyTail]⟩

theorem announces_of_lead (h : lead byte = .longer pending) : Announces byte pending := by
  have hlow : 0xc2 ≤ byte.toNat := by
    by_contra hlt
    by_cases hwhole : byte.toNat < 0x80
    · simp [lead, hwhole] at h
    · simp [lead, hwhole, Nat.lt_of_not_le hlt] at h
  have hhigh : byte.toNat < 0xf5 := by
    by_contra hge
    simp only [lead] at h
    iterate 9 rw [if_neg (by omega)] at h
    cases h
  rcases Nat.lt_or_ge byte.toNat 0xe0 with h2 | h2
  · obtain ⟨k, hk⟩ : ∃ k, byte.toNat = k + 0xc0 := ⟨byte.toNat - 0xc0, by omega⟩
    rw [← ofNat_eq hk.symm, lead_two (by omega) (by omega)] at h
    rw [← ofNat_eq hk.symm, ← Lead.longer.inj h]
    exact .two k (by omega) (by omega)
  rcases Nat.lt_or_ge byte.toNat 0xf0 with h3 | h3
  · obtain ⟨k, hk⟩ : ∃ k, byte.toNat = k + 0xe0 := ⟨byte.toNat - 0xe0, by omega⟩
    rw [← ofNat_eq hk.symm, lead_three (by omega)] at h
    rw [← ofNat_eq hk.symm, ← Lead.longer.inj h]
    exact .three k (by omega)
  · obtain ⟨k, hk⟩ : ∃ k, byte.toNat = k + 0xf0 := ⟨byte.toNat - 0xf0, by omega⟩
    rw [← ofNat_eq hk.symm, lead_four (by omega)] at h
    rw [← ofNat_eq hk.symm, ← Lead.longer.inj h]
    exact .four k (by omega)

/-- What the first byte of an encoded character announces is what follows it. -/
theorem lead_encodeChar (c : Char) :
    (∃ byte, String.utf8EncodeChar c = [byte] ∧ lead byte = .whole c) ∨
      ∃ byte tail pending, String.utf8EncodeChar c = byte :: tail ∧
        lead byte = .longer pending ∧ Forall₂ Admits pending.ranges tail := by
  have valid : c.toNat < 0xd800 ∨ (0xdfff < c.toNat ∧ c.toNat < 0x110000) := c.valid
  have self := Char.ofNat_toNat c
  rw [encodeChar_eq]
  generalize c.toNat = n at valid self
  split
  · exact .inl ⟨_, rfl, by rw [lead_one (by omega), self]⟩
  split
  · exact .inr ⟨_, _, _, rfl, lead_two (by omega) (by omega),
      .cons (admits_ofNat (by omega) (by omega) (by omega)) .nil⟩
  split
  · refine .inr ⟨_, _, _, rfl, lead_three (by omega), .cons ?_ (.cons ?_ .nil)⟩
    · exact admits_ofNat (by omega) (by split <;> omega) (by split <;> omega)
    · exact admits_ofNat (by omega) (by omega) (by omega)
  · refine .inr ⟨_, _, _, rfl, lead_four (by omega), .cons ?_ (.cons ?_ (.cons ?_ .nil))⟩
    · exact admits_ofNat (by omega) (by split <;> omega) (by split <;> omega)
    · exact admits_ofNat (by omega) (by omega) (by omega)
    · exact admits_ofNat (by omega) (by omega) (by omega)

/-! ### Characters from their bytes -/

theorem exists_toNat {n : Nat} (h : n < 0xd800 ∨ (0xdfff < n ∧ n < 0x110000)) :
    ∃ c : Char, c.toNat = n :=
  ⟨Char.ofNatAux n h, rfl⟩

theorem encodeChar_of_whole (h : lead byte = .whole c) : String.utf8EncodeChar c = [byte] := by
  by_cases hbyte : byte.toNat < 0x80
  · obtain ⟨d, hd⟩ := exists_toNat (.inl (by omega) : byte.toNat < 0xd800 ∨ _)
    have hlead : lead byte = .whole d := by
      rw [← ofNat_eq hd, lead_one (by omega), Char.ofNat_toNat]
    obtain rfl := Lead.whole.inj (h.symm.trans hlead)
    rw [encodeChar_eq, if_pos (by omega), ofNat_eq hd]
  · simp only [lead, if_neg hbyte] at h
    repeat' split at h
    all_goals cases h

theorem exists_two {k t : Nat} (hlow : 2 ≤ k) (hhigh : k < 0x20) (ht : t < 0x40) :
    ∃ c, String.utf8EncodeChar c = [.ofNat (k + 0xc0), .ofNat (t + 0x80)] := by
  obtain ⟨c, hc⟩ := exists_toNat (n := k * 64 + t) (by omega)
  refine ⟨c, ?_⟩
  rw [encodeChar_eq, hc, if_neg (by omega), if_pos (by omega)]
  rw [show (k * 64 + t) / 64 % 32 = k by omega, show (k * 64 + t) % 64 = t by omega]

theorem exists_three {k t u : Nat} (hk : k < 0x10) (ht : t < 0x40) (hu : u < 0x40)
    (hshort : k = 0 → 0x20 ≤ t) (hhalf : k = 0xd → t < 0x20) :
    ∃ c, String.utf8EncodeChar c =
      [.ofNat (k + 0xe0), .ofNat (t + 0x80), .ofNat (u + 0x80)] := by
  obtain ⟨c, hc⟩ := exists_toNat (n := (k * 64 + t) * 64 + u) (by omega)
  refine ⟨c, ?_⟩
  rw [encodeChar_eq, hc, if_neg (by omega), if_neg (by omega), if_pos (by omega)]
  rw [show ((k * 64 + t) * 64 + u) / 4096 % 16 = k by omega,
    show ((k * 64 + t) * 64 + u) / 64 % 64 = t by omega,
    show ((k * 64 + t) * 64 + u) % 64 = u by omega]

theorem exists_four {k t u v : Nat} (hk : k < 5) (ht : t < 0x40) (hu : u < 0x40) (hv : v < 0x40)
    (hshort : k = 0 → 0x10 ≤ t) (hlarge : k = 4 → t < 0x10) :
    ∃ c, String.utf8EncodeChar c =
      [.ofNat (k + 0xf0), .ofNat (t + 0x80), .ofNat (u + 0x80), .ofNat (v + 0x80)] := by
  obtain ⟨c, hc⟩ := exists_toNat (n := ((k * 64 + t) * 64 + u) * 64 + v) (by omega)
  refine ⟨c, ?_⟩
  rw [encodeChar_eq, hc, if_neg (by omega), if_neg (by omega), if_neg (by omega)]
  rw [show (((k * 64 + t) * 64 + u) * 64 + v) / 262144 % 8 = k by omega,
    show (((k * 64 + t) * 64 + u) * 64 + v) / 4096 % 64 = t by omega,
    show (((k * 64 + t) * 64 + u) * 64 + v) / 64 % 64 = u by omega,
    show (((k * 64 + t) * 64 + u) * 64 + v) % 64 = v by omega]

/-- Bytes that are as they are announced encode a character. -/
theorem Announces.exists_encodeChar (h : Announces byte pending)
    (htail : Forall₂ Admits pending.ranges tail) :
    ∃ c, String.utf8EncodeChar c = byte :: tail := by
  cases h with
  | two k hlow hhigh =>
    rcases htail with _ | ⟨ha, _ | _⟩
    obtain ⟨t, ht, rfl, -⟩ := exists_bits ha (by decide) (by decide)
    exact exists_two hlow hhigh ht
  | three k hk =>
    rcases htail with _ | ⟨ha, _ | ⟨hb, _ | _⟩⟩
    obtain ⟨t, ht, rfl, hshort, hhalf⟩ := exists_bits ha (by split <;> omega) (by split <;> omega)
    obtain ⟨u, hu, rfl, -⟩ := exists_bits hb (by decide) (by decide)
    refine exists_three hk ht hu (fun h0 => ?_) (fun hd => ?_)
    · rw [if_pos h0] at hshort
      omega
    · rw [if_pos hd] at hhalf
      omega
  | four k hk =>
    rcases htail with _ | ⟨ha, _ | ⟨hb, _ | ⟨hc, _ | _⟩⟩⟩
    obtain ⟨t, ht, rfl, hshort, hlarge⟩ := exists_bits ha (by split <;> omega) (by split <;> omega)
    obtain ⟨u, hu, rfl, -⟩ := exists_bits hb (by decide) (by decide)
    obtain ⟨v, hv, rfl, -⟩ := exists_bits hc (by decide) (by decide)
    refine exists_four hk ht hu hv (fun h0 => ?_) (fun h4 => ?_)
    · rw [if_pos h0] at hshort
      omega
    · rw [if_pos h4] at hlarge
      omega

/-! ### Characters that have begun -/

/-- A character that has begun, of which the ranges say how it can be completed. -/
structure Pending.Sound (pending : Pending) : Prop where
  begun : pending.bytes ≠ []
  unfinished : pending.ranges ≠ []
  completable : ∃ tail, Forall₂ Admits pending.ranges tail
  completes_iff : ∀ tail, (∃ c, String.utf8EncodeChar c = pending.bytes ++ tail) ↔
    Forall₂ Admits pending.ranges tail

theorem Announces.bytes_eq (h : Announces byte pending) : pending.bytes = [byte] := by
  cases h <;> rfl

theorem Announces.ranges_ne_nil (h : Announces byte pending) : pending.ranges ≠ [] := by
  cases h <;> exact List.cons_ne_nil _ _

theorem Announces.completable (h : Announces byte pending) :
    ∃ tail, Forall₂ Admits pending.ranges tail := by
  have hany : Admits anyTail (.ofNat 0x80) :=
    admits_ofNat (by decide) (by decide) (by decide)
  cases h with
  | two k => exact ⟨_, .cons hany .nil⟩
  | three k =>
    refine ⟨_, .cons (admits_ofNat ?_ (Nat.le_refl _) ?_) (.cons hany .nil)⟩
    · split <;> omega
    · split <;> split <;> omega
  | four k =>
    refine ⟨_, .cons (admits_ofNat ?_ (Nat.le_refl _) ?_) (.cons hany (.cons hany .nil))⟩
    · split <;> omega
    · split <;> split <;> omega

theorem sound_of_lead (h : lead byte = .longer pending) : pending.Sound := by
  have hannounces := announces_of_lead h
  refine ⟨?begun, hannounces.ranges_ne_nil, hannounces.completable, fun tail => ?completes_iff⟩
  case begun =>
    rw [hannounces.bytes_eq]
    exact List.cons_ne_nil byte []
  case completes_iff =>
    rw [hannounces.bytes_eq, List.singleton_append]
    refine ⟨fun ⟨c, hc⟩ => ?_, hannounces.exists_encodeChar⟩
    obtain ⟨first, hfirst, hlead⟩ | ⟨first, more, other, hfirst, hlead, hmore⟩ :=
      lead_encodeChar c
    · cases hc.symm.trans hfirst
      cases h.symm.trans hlead
    · cases hc.symm.trans hfirst
      cases h.symm.trans hlead
      exact hmore

namespace Pending.Sound

variable {bits : Nat} {range : Nat × Nat} {ranges : List (Nat × Nat)}

theorem begins (h : pending.Sound) : Begins pending.bytes := by
  obtain ⟨tail, htail⟩ := h.completable
  obtain ⟨c, hc⟩ := (h.completes_iff tail).mpr htail
  exact ⟨c, tail, hc.symm⟩

/-- Some character goes on with a byte if and only if the next range admits it. -/
theorem begins_concat_iff (h : Sound ⟨bytes, bits, range :: ranges⟩) :
    Begins (bytes ++ [byte]) ↔ Admits range byte := by
  constructor
  · rintro ⟨c, tail, hc⟩
    rw [List.append_assoc] at hc
    exact (List.forall₂_cons.mp ((h.completes_iff _).mp ⟨c, hc.symm⟩)).1
  · intro hbyte
    obtain ⟨_, htail⟩ := h.completable
    rcases htail with _ | ⟨-, htail⟩
    obtain ⟨c, hc⟩ := (h.completes_iff (byte :: _)).mpr (.cons hbyte htail)
    exact ⟨c, _, by rw [hc, List.append_assoc]; rfl⟩

theorem next {next : Nat × Nat} {bits' : Nat} (h : Sound ⟨bytes, bits, range :: next :: ranges⟩)
    (hbyte : Admits range byte) : Sound ⟨bytes ++ [byte], bits', next :: ranges⟩ where
  begun := List.concat_ne_nil byte bytes
  unfinished := List.cons_ne_nil next ranges
  completable := by
    obtain ⟨_, htail⟩ := h.completable
    rcases htail with _ | ⟨-, htail⟩
    exact ⟨_, htail⟩
  completes_iff tail := by
    rw [List.append_assoc]
    exact (h.completes_iff (byte :: tail)).trans <|
      List.forall₂_cons.trans (and_iff_right hbyte)

/-- The last byte completes a character. -/
theorem exists_char (h : Sound ⟨bytes, bits, [range]⟩) (hbyte : Admits range byte) :
    ∃ c, String.utf8EncodeChar c = bytes ++ [byte] :=
  (h.completes_iff [byte]).mpr (.cons hbyte .nil)

end Pending.Sound

/-! ### The reader -/

section

variable {bits : Nat} {range next : Nat × Nat} {ranges : List (Nat × Nat)}

theorem piecesFrom_refused (h : ¬ Admits range byte) :
    piecesFrom (some ⟨bytes, bits, range :: ranges⟩) (byte :: rest) =
      .damaged bytes .continuation :: pieces (byte :: rest) := by
  unfold Admits at h
  rw [piecesFrom, step, if_neg h]
  rfl

theorem piecesFrom_admitted (h : Admits range byte) :
    piecesFrom (some ⟨bytes, bits, range :: next :: ranges⟩) (byte :: rest) =
      piecesFrom
        (some ⟨bytes ++ [byte], bits * 64 + (byte.toNat - 0x80), next :: ranges⟩) rest := by
  unfold Admits at h
  rw [piecesFrom, step, if_pos h]
  rfl

end

/-- Where no character is encoded, a character that has begun comes to a maximal subpart. -/
theorem exists_subpart_of_pending (hsound : pending.Sound)
    (hchar : ∀ c, ¬ String.utf8EncodeChar c <+: pending.bytes ++ rest) :
    ∃ part rest' damage, pending.bytes ++ rest = part ++ rest' ∧ MaximalSubpart part rest' ∧
      piecesFrom (some pending) rest = .damaged part damage :: pieces rest' := by
  -- By the bytes that are still to come: each either goes over to the pending character, which
  -- stays sound, or ends it.
  induction rest generalizing pending with
  | nil =>
    exact ⟨pending.bytes, [], .truncated, rfl,
      .of_not_begins hchar hsound.begun (.inl hsound.begins) (by rintro _ _ ⟨⟩), rfl⟩
  | cons byte rest ih =>
    obtain ⟨bytes, bits, ranges⟩ := pending
    obtain ⟨range, ranges, rfl⟩ := List.exists_cons_of_ne_nil hsound.unfinished
    by_cases hbyte : Admits range byte
    case neg =>
      refine ⟨bytes, byte :: rest, .continuation, rfl,
        .of_not_begins hchar hsound.begun (.inl hsound.begins) ?_, piecesFrom_refused hbyte⟩
      rintro _ _ ⟨⟩
      rwa [hsound.begins_concat_iff]
    case pos =>
      rw [List.append_cons] at hchar ⊢
      cases ranges with
      | nil =>
        obtain ⟨c, hc⟩ := hsound.exists_char hbyte
        exact absurd ⟨rest, by rw [hc]⟩ (hchar c)
      | cons next ranges =>
        rw [piecesFrom_admitted hbyte]
        exact ih (hsound.next hbyte) hchar

theorem not_begins_of_none (h : lead byte = .none) (more : List UInt8) :
    ¬ Begins (byte :: more) := by
  rintro ⟨c, rest, hc⟩
  rcases lead_encodeChar c with ⟨first, hfirst, hlead⟩ | ⟨first, tail, pending, hfirst, hlead, -⟩
  all_goals
    obtain ⟨rfl, -⟩ := List.cons.inj (hc.trans hfirst)
    cases h.symm.trans hlead

/-- Where no character is encoded, the reader takes a maximal subpart. -/
theorem exists_subpart (hnil : bytes ≠ []) (hchar : ∀ c, ¬ String.utf8EncodeChar c <+: bytes) :
    ∃ part rest damage, bytes = part ++ rest ∧ MaximalSubpart part rest ∧
      pieces bytes = .damaged part damage :: pieces rest := by
  obtain ⟨byte, rest, rfl⟩ := List.exists_cons_of_ne_nil hnil
  cases hlead : lead byte with
  | whole c =>
    exact absurd ⟨rest, by rw [encodeChar_of_whole hlead, List.singleton_append]⟩ (hchar c)
  | none =>
    refine ⟨[byte], rest, .start, rfl, .of_not_begins hchar (List.cons_ne_nil _ _) (.inr rfl)
      fun next _ _ => not_begins_of_none hlead [next], ?_⟩
    rw [pieces, piecesFrom, step, start, hlead]
    rfl
  | longer pending =>
    have hbytes : byte :: rest = pending.bytes ++ rest := by
      rw [(announces_of_lead hlead).bytes_eq, List.singleton_append]
    rw [pieces, piecesFrom_longer hlead, hbytes]
    rw [hbytes] at hchar
    exact exists_subpart_of_pending (sound_of_lead hlead) hchar

/-! ### The text -/

theorem decodeLossy_encodeChar (c : Char) (rest : List UInt8) :
    decodeLossy (String.utf8EncodeChar c ++ rest) = c :: decodeLossy rest := by
  rw [decodeLossy, pieces, piecesFrom_encodeChar]
  rfl

theorem decodeLossy_subpart (h : MaximalSubpart part rest) :
    decodeLossy (part ++ rest) = '�' :: decodeLossy rest := by
  have hnil : part ++ rest ≠ [] := List.append_ne_nil_of_left_ne_nil h.ne_nil rest
  obtain ⟨part', rest', damage, heq, hpart', hpieces⟩ := exists_subpart hnil h.unconvertible
  obtain ⟨rfl, rfl⟩ := h.unique hpart' heq
  rw [decodeLossy, hpieces]
  rfl

theorem Decodes.eq_decodeLossy (h : Decodes bytes text) : text = decodeLossy bytes := by
  induction h with
  | nil => rfl
  | char c h ih => rw [decodeLossy_encodeChar, ih]
  | replaced hpart h ih => rw [decodeLossy_subpart hpart, ih]

theorem decodes_decodeLossy (bytes : List UInt8) : Decodes bytes (decodeLossy bytes) := by
  -- By the length: a character and a subpart take one byte at least.
  induction hlength : bytes.length using Nat.strongRecOn generalizing bytes with
  | ind length ih =>
    rcases eq_or_ne bytes [] with rfl | hnil
    · exact .nil
    by_cases hchar : ∃ c, String.utf8EncodeChar c <+: bytes
    · obtain ⟨c, rest, rfl⟩ := hchar
      have hpos := List.length_pos_of_ne_nil (String.utf8EncodeChar_ne_nil (c := c))
      rw [List.length_append] at hlength
      rw [decodeLossy_encodeChar]
      exact .char c (ih rest.length (by omega) rest rfl)
    · obtain ⟨part, rest, -, rfl, hpart, -⟩ := exists_subpart hnil (not_exists.mp hchar)
      have hpos := List.length_pos_of_ne_nil hpart.ne_nil
      rw [List.length_append] at hlength
      rw [decodeLossy_subpart hpart]
      exact .replaced hpart (ih rest.length (by omega) rest rfl)

/-- **Lenient decoding.** Every byte sequence is decoded to exactly one text, and the reader finds
it. -/
theorem decodes_iff : Decodes bytes text ↔ text = decodeLossy bytes :=
  ⟨Decodes.eq_decodeLossy, fun h => h ▸ decodes_decodeLossy bytes⟩

/-- A character cut short, a slash in two bytes, half of a surrogate pair. -/
example : decodeLossy [0xe2, 0x82, 0x28, 0xc0, 0xaf, 0xed, 0xa0, 0x80] =
    "�(�����".toList := by decide

end ClipCadence.Text.Utf8
