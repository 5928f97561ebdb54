/-!
UTF-8. A byte sequence is read into pieces: a character, or a damaged stretch, which is as long
a start of a character as the bytes allow, or one byte that can start none. Strict decoding
stops at the first damaged piece and says where and why; lenient decoding puts U+FFFD for each.

Main statement: `decode_encode`, the encoding of a text is read as that text.
-/

namespace ClipCadence.Text.Utf8

def encode (text : List Char) : List UInt8 := text.flatMap String.utf8EncodeChar

inductive Damage where
  | start
  | continuation
  | truncated
  deriving DecidableEq, Repr

def Damage.reason : Damage → String
  | .start => "invalid start byte"
  | .continuation => "invalid continuation byte"
  | .truncated => "unexpected end of data"

inductive Piece where
  | char (c : Char)
  | damaged (bytes : List UInt8) (damage : Damage)
  deriving DecidableEq, Repr

/-- A character that has begun: its bytes so far, the bits they carry, the ranges in which the
bytes to come must lie. -/
structure Pending where
  bytes : List UInt8
  bits : Nat
  ranges : List (Nat × Nat)

def anyTail : Nat × Nat := (0x80, 0xbf)

/-- What the first byte of a character announces. -/
inductive Lead where
  | whole (c : Char)
  | longer (pending : Pending)
  | none

def lead (byte : UInt8) : Lead :=
  let n := byte.toNat
  let longer bits ranges := Lead.longer ⟨[byte], bits, ranges⟩
  if n < 0x80 then .whole (Char.ofNat n)
  else if n < 0xc2 then .none
  else if n < 0xe0 then longer (n - 0xc0) [anyTail]
  else if n = 0xe0 then longer 0 [(0xa0, 0xbf), anyTail]
  else if n = 0xed then longer 0xd [(0x80, 0x9f), anyTail]
  else if n < 0xf0 then longer (n - 0xe0) [anyTail, anyTail]
  else if n = 0xf0 then longer 0 [(0x90, 0xbf), anyTail, anyTail]
  else if n < 0xf4 then longer (n - 0xf0) [anyTail, anyTail, anyTail]
  else if n = 0xf4 then longer 4 [(0x80, 0x8f), anyTail, anyTail]
  else .none

/-- The state of the reader between two bytes. -/
abbrev State := Option Pending

def start (byte : UInt8) : List Piece × State :=
  match lead byte with
  | .whole c => ([.char c], none)
  | .longer pending => ([], some pending)
  | .none => ([.damaged [byte] .start], none)

def step (state : State) (byte : UInt8) : List Piece × State :=
  match state with
  | none => start byte
  | some ⟨bytes, bits, ranges⟩ =>
    match ranges with
    | [] => start byte
    | (low, high) :: ranges =>
      if low ≤ byte.toNat ∧ byte.toNat ≤ high then
        let bits := bits * 64 + (byte.toNat - 0x80)
        if ranges.isEmpty then ([.char (Char.ofNat bits)], none)
        else ([], some ⟨bytes ++ [byte], bits, ranges⟩)
      else
        let (pieces, state) := start byte
        (.damaged bytes .continuation :: pieces, state)

def finish : State → List Piece
  | none => []
  | some pending => [.damaged pending.bytes .truncated]

def piecesFrom : State → List UInt8 → List Piece
  | state, [] => finish state
  | state, byte :: rest =>
    let (pieces, state) := step state byte
    pieces ++ piecesFrom state rest

def pieces (bytes : List UInt8) : List Piece := piecesFrom none bytes

/-- Lenient decoding. -/
def decodeLossy (bytes : List UInt8) : List Char :=
  (pieces bytes).map fun
    | .char c => c
    | .damaged .. => '\ufffd'

/-- The first damaged stretch of a byte sequence: where it starts, its bytes, what is wrong. -/
structure DecodeError where
  position : Nat
  bytes : List UInt8
  damage : Damage
  deriving DecidableEq, Repr

def encodedLength (c : Char) : Nat := (String.utf8EncodeChar c).length

def decodePieces : Nat → List Piece → Except DecodeError (List Char)
  | _, [] => .ok []
  | position, .char c :: rest =>
    (decodePieces (position + encodedLength c) rest).map (c :: ·)
  | position, .damaged bytes damage :: _ => .error ⟨position, bytes, damage⟩

/-- Strict decoding. -/
def decode (bytes : List UInt8) : Except DecodeError (List Char) :=
  decodePieces 0 (pieces bytes)

/-! ### Encoded texts are read back -/

theorem toNat_ofNat {n : Nat} (h : n < 256) : (UInt8.ofNat n).toNat = n := by
  simp [Nat.mod_eq_of_lt h]

theorem lead_one {n : Nat} (h : n < 0x80) : lead (.ofNat n) = .whole (Char.ofNat n) := by
  simp [lead, toNat_ofNat (n := n) (by omega), h]

theorem lead_two {k : Nat} (h : 2 ≤ k) (h' : k < 0x20) :
    lead (.ofNat (k + 0xc0)) = .longer ⟨[.ofNat (k + 0xc0)], k, [anyTail]⟩ := by
  have hn := toNat_ofNat (n := k + 0xc0) (by omega)
  simp only [lead, hn]
  rw [if_neg (by omega), if_neg (by omega), if_pos (by omega)]
  simp

theorem lead_three {k : Nat} (h : k < 0x10) :
    lead (.ofNat (k + 0xe0)) = .longer ⟨[.ofNat (k + 0xe0)], k,
      [(if k = 0 then 0xa0 else 0x80, if k = 0xd then 0x9f else 0xbf), anyTail]⟩ := by
  have hn := toNat_ofNat (n := k + 0xe0) (by omega)
  simp only [lead, hn]
  rw [if_neg (by omega), if_neg (by omega), if_neg (by omega)]
  by_cases h0 : k = 0
  · subst h0; rfl
  · rw [if_neg (by omega)]
    by_cases hd : k = 0xd
    · subst hd; rfl
    · rw [if_neg (by omega), if_pos (by omega)]
      simp [h0, hd, anyTail]

theorem lead_four {k : Nat} (h : k < 5) :
    lead (.ofNat (k + 0xf0)) = .longer ⟨[.ofNat (k + 0xf0)], k,
      [(if k = 0 then 0x90 else 0x80, if k = 4 then 0x8f else 0xbf), anyTail, anyTail]⟩ := by
  match k with
  | 0 => rfl
  | 1 => rfl
  | 2 => rfl
  | 3 => rfl
  | 4 => rfl

section

variable {bytes rest : List UInt8} {ranges : List (Nat × Nat)} {bits low high tail : Nat}

theorem piecesFrom_longer {byte : UInt8} {pending : Pending} (h : lead byte = .longer pending) :
    piecesFrom none (byte :: rest) = piecesFrom (some pending) rest := by
  simp [piecesFrom, step, start, h]

theorem piecesFrom_tail (range : Nat × Nat) (h : low ≤ tail + 0x80 ∧ tail + 0x80 ≤ high)
    (ht : tail < 0x40) :
    piecesFrom (some ⟨bytes, bits, (low, high) :: range :: ranges⟩)
        (.ofNat (tail + 0x80) :: rest) =
      piecesFrom (some ⟨bytes ++ [.ofNat (tail + 0x80)], bits * 64 + tail, range :: ranges⟩)
        rest := by
  simp only [piecesFrom, step, toNat_ofNat (n := tail + 0x80) (by omega), if_pos h]
  simp

theorem piecesFrom_last (h : low ≤ tail + 0x80 ∧ tail + 0x80 ≤ high) (ht : tail < 0x40) :
    piecesFrom (some ⟨bytes, bits, [(low, high)]⟩) (.ofNat (tail + 0x80) :: rest) =
      .char (Char.ofNat (bits * 64 + tail)) :: piecesFrom none rest := by
  simp only [piecesFrom, step, toNat_ofNat (n := tail + 0x80) (by omega), if_pos h]
  simp

end

theorem encodeChar_eq (c : Char) : String.utf8EncodeChar c =
    if c.toNat ≤ 0x7f then [.ofNat c.toNat]
    else if c.toNat ≤ 0x7ff then [.ofNat (c.toNat / 64 % 32 + 0xc0), .ofNat (c.toNat % 64 + 0x80)]
    else if c.toNat ≤ 0xffff then
      [.ofNat (c.toNat / 4096 % 16 + 0xe0), .ofNat (c.toNat / 64 % 64 + 0x80),
        .ofNat (c.toNat % 64 + 0x80)]
    else
      [.ofNat (c.toNat / 262144 % 8 + 0xf0), .ofNat (c.toNat / 4096 % 64 + 0x80),
        .ofNat (c.toNat / 64 % 64 + 0x80), .ofNat (c.toNat % 64 + 0x80)] := rfl

/-- The bytes of a character are read as that character. -/
theorem piecesFrom_encodeChar (c : Char) (rest : List UInt8) :
    piecesFrom none (String.utf8EncodeChar c ++ rest) = .char c :: piecesFrom none rest := by
  have valid : c.toNat < 0xd800 ∨ (0xdfff < c.toNat ∧ c.toNat < 0x110000) := c.valid
  have self := Char.ofNat_toNat c
  rw [encodeChar_eq]
  generalize c.toNat = n at valid self
  split
  · simp [piecesFrom, step, start, lead_one (n := n) (by omega), self]
  split
  · simp only [List.cons_append, List.nil_append]
    rw [piecesFrom_longer (lead_two (by omega) (by omega)), anyTail,
      piecesFrom_last (by omega) (by omega)]
    rw [show n / 64 % 32 * 64 + n % 64 = n by omega, self]
  split
  · simp only [List.cons_append, List.nil_append]
    rw [piecesFrom_longer (lead_three (by omega)),
      piecesFrom_tail _ ⟨by split <;> omega, by split <;> omega⟩ (by omega), anyTail,
      piecesFrom_last (by omega) (by omega)]
    rw [show (n / 4096 % 16 * 64 + n / 64 % 64) * 64 + n % 64 = n by omega, self]
  · simp only [List.cons_append, List.nil_append]
    rw [piecesFrom_longer (lead_four (by omega)),
      piecesFrom_tail _ ⟨by split <;> omega, by split <;> omega⟩ (by omega), anyTail,
      piecesFrom_tail _ (by omega) (by omega), piecesFrom_last (by omega) (by omega)]
    rw [show ((n / 262144 % 8 * 64 + n / 4096 % 64) * 64 + n / 64 % 64) * 64 + n % 64 = n by omega,
      self]

theorem pieces_encode (text : List Char) : pieces (encode text) = text.map .char := by
  induction text with
  | nil => rfl
  | cons c rest ih =>
    simp only [pieces, encode, List.flatMap_cons, List.map_cons] at ih ⊢
    rw [piecesFrom_encodeChar, ih]

/-- Lenient decoding gives back every encoded text. -/
theorem decodeLossy_encode (text : List Char) : decodeLossy (encode text) = text := by
  simp [decodeLossy, pieces_encode, Function.comp_def]

theorem decodePieces_map_char (position : Nat) (text : List Char) :
    decodePieces position (text.map .char) = .ok text := by
  induction text generalizing position with
  | nil => rfl
  | cons c rest ih => simp [decodePieces, ih, Except.map]

/-- Strict decoding accepts every encoded text and gives it back. -/
theorem decode_encode (text : List Char) : decode (encode text) = .ok text := by
  rw [decode, pieces_encode, decodePieces_map_char]

end ClipCadence.Text.Utf8
