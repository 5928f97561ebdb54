import ClipCadence.Proofs.Fallible
import ClipCadence.Settings.Store

/-!
Documents that the reader gives up on. It keeps count of the lists and objects that stand inside
each other, and has room for only so many of them. What is one deeper is no error of the document:
it may be well-formed, and every value that a setting is read from may be right.

Main statement: `ofBytes_deepDocument`, a document with an unused value for which there is not the
room is not read.
-/

namespace ClipCadence

/-! ### Ends of lines -/

theorem Text.normalEnds_of_notMem {text : List Char} (h : '\r' ∉ text) :
    normalEnds text = text := by
  fun_induction normalEnds text with
  | case1 | case2 => simp at h
  | case3 c rest hreturn hlone ih => rw [ih (List.not_mem_of_not_mem_cons h)]
  | case4 => rfl

/-! ### The reader -/

namespace Json

/-- An object with a list inside a list, so many times over. -/
def deepDocument (depth : Nat) : List Char :=
  "\x7b\"extra\": ".toList ++
    (List.replicate depth '[' ++ (List.replicate depth ']' ++ ['\x7d']))

section Reader

variable {fuel room : Nat} (rest : List Char) (at_ : Nat)

theorem skip_bracket : skip ('[' :: rest) at_ = ('[' :: rest, at_) := rfl

/-- Lists one deeper than there is room for are given up on, whatever comes after their brackets. -/
theorem value_tooDeep (h : 2 * room < fuel) :
    value fuel room (List.replicate (room + 1) '[' ++ rest) at_ = .error (.tooDeep .list) := by
  induction room generalizing fuel at_ with
  | zero =>
    obtain ⟨fuel, rfl⟩ : ∃ n, fuel = n + 1 := ⟨fuel - 1, by omega⟩
    rw [List.replicate_succ, List.cons_append, value]
  | succ room ih =>
    -- A list and its first item use up one step each.
    obtain ⟨fuel, rfl⟩ : ∃ n, fuel = n + 2 := ⟨fuel - 2, by omega⟩
    have hitems : items (fuel + 1) room (List.replicate (room + 1) '[' ++ rest) (at_ + 1) =
        .error (.tooDeep .list) := by
      rw [items, ih (at_ + 1) (by omega)]
      rfl
    rw [List.replicate_succ, List.cons_append, value]
    rw [List.replicate_succ, List.cons_append] at hitems ⊢
    rw [skip_bracket]
    split
    · next hclosed => simp at hclosed
    · next hopen =>
      obtain ⟨rfl, rfl⟩ := Prod.mk.inj hopen
      rw [hitems]
      rfl

theorem members_tooDeep (h : 2 * room + 1 < fuel) :
    members fuel room [] ("\"extra\": ".toList ++ (List.replicate (room + 1) '[' ++ rest)) at_ =
      .error (.tooDeep .list) := by
  obtain ⟨fuel, rfl⟩ : ∃ n, fuel = n + 1 := ⟨fuel - 1, by omega⟩
  generalize hlists : List.replicate (room + 1) '[' ++ rest = lists
  have hkey : string ("extra\": ".toList ++ lists) (at_ + 1) =
      .ok (.ofString "extra", ": ".toList ++ lists, at_ + 7) := by rfl
  have hcolon : skip (": ".toList ++ lists) (at_ + 7) = (':' :: ' ' :: lists, at_ + 7) := rfl
  have hblank : skip (' ' :: lists) (at_ + 8) = (lists, at_ + 9) := by
    subst hlists
    rfl
  have hvalue : value fuel room lists (at_ + 9) = .error (.tooDeep .list) := by
    rw [← hlists]
    exact value_tooDeep rest _ (by omega)
  show members (fuel + 1) room [] ('"' :: ("extra\": ".toList ++ lists)) at_ = _
  rw [members]
  refine Fallible.bind_eq_error_iff.mpr (.inr ⟨_, hkey, ?_⟩)
  dsimp only
  rw [hcolon]
  split
  · next hfound =>
    obtain ⟨htext, rfl⟩ := Prod.mk.inj hfound
    rw [← List.tail_eq_of_cons_eq htext, hblank]
    exact Fallible.bind_eq_error_iff.mpr (.inl hvalue)
  · next hother hfound => exact (hother _ (Prod.mk.inj hfound).1.symm).elim

theorem value_object_tooDeep (h : 2 * room + 1 < fuel) :
    value (fuel + 1) (room + 1)
        ('\x7b' :: ("\"extra\": ".toList ++ (List.replicate (room + 1) '[' ++ rest))) at_ =
      .error (.tooDeep .list) := by
  have hmembers := members_tooDeep rest (at_ + 1) h
  generalize List.replicate (room + 1) '[' ++ rest = lists at hmembers ⊢
  have hskip : skip ("\"extra\": ".toList ++ lists) (at_ + 1) =
      ("\"extra\": ".toList ++ lists, at_ + 1) := rfl
  rw [value, hskip]
  split
  · next hclosed => simp at hclosed
  · next hopen =>
    obtain ⟨rfl, rfl⟩ := Prod.mk.inj hopen
    rw [hmembers]
    rfl

theorem parse_tooDeep {space : Room} (hroom : space.levels = room + 1) :
    parse ('\x7b' :: ("\"extra\": ".toList ++ (List.replicate (room + 1) '[' ++ rest))) space =
      .error (.tooDeep .list) := by
  generalize hbody : "\"extra\": ".toList ++ (List.replicate (room + 1) '[' ++ rest) = body
  have hlength : room < body.length := by
    rw [← hbody, List.length_append, List.length_append, List.length_replicate]
    omega
  have hvalue : value (2 * ('\x7b' :: body).length + 2) space.levels ('\x7b' :: body) 0 =
      .error (.tooDeep .list) := by
    obtain ⟨fuel, hfuel⟩ : ∃ fuel, 2 * ('\x7b' :: body).length + 2 = fuel + 1 :=
      ⟨2 * ('\x7b' :: body).length + 1, rfl⟩
    rw [List.length_cons] at hfuel
    rw [List.length_cons, hfuel, hroom, ← hbody]
    exact value_object_tooDeep rest 0 (by omega)
  have hskip : skip ('\x7b' :: body) 0 = ('\x7b' :: body, 0) := rfl
  rw [parse, if_neg (by simp), hskip]
  dsimp only
  rw [hvalue]
  rfl

end Reader

theorem parse_deepDocument {room : Room} {depth : Nat} (h : room.levels ≤ depth) :
    parse (deepDocument depth) room = .error (.tooDeep .list) := by
  have hpositive : 0 < room.levels := Nat.lt_of_lt_of_le Nat.two_pos room.two_le
  generalize hmax : room.levels = most at h hpositive
  obtain ⟨less, rfl⟩ := Nat.exists_eq_add_one.mpr hpositive
  obtain ⟨more, rfl⟩ := Nat.exists_eq_add_of_le h
  have hsplit (lists : List Char) : "\x7b\"extra\": ".toList ++ lists =
      '\x7b' :: ("\"extra\": ".toList ++ lists) := rfl
  unfold deepDocument
  rw [hsplit, ← List.replicate_append_replicate, List.append_assoc]
  exact parse_tooDeep _ hmax

theorem return_notMem_deepDocument (depth : Nat) : '\r' ∉ deepDocument depth := by
  have hkey : '\r' ∉ "\x7b\"extra\": ".toList := by decide
  unfold deepDocument
  generalize "\x7b\"extra\": ".toList = key at hkey
  simp [hkey]

end Json

/-! ### Settings files -/

namespace Settings

open Text

/-- The bytes of a text are read as that text. -/
theorem ofBytes_encode (room : Json.Room) (source : Source) (text : List Char) :
    ofBytes room source (Utf8.encode text) = ofDocument room source (normalEnds text) := by
  rw [ofBytes, Utf8.decode_encode]
  rfl

/-- A document that is deeper than there is room for is given up on, for a value no setting uses. -/
theorem ofBytes_deepDocument {room : Json.Room} (source : Source) {depth : Nat}
    (h : room.levels ≤ depth) :
    ofBytes room source (Utf8.encode (Json.deepDocument depth)) = .error (.tooDeep .list) := by
  have hends : normalEnds (Json.deepDocument depth) = Json.deepDocument depth :=
    normalEnds_of_notMem (Json.return_notMem_deepDocument depth)
  have hparse := Json.parse_deepDocument h
  generalize Json.deepDocument depth = document at hends hparse
  rw [ofBytes_encode, hends, ofDocument, hparse]

end Settings

end ClipCadence
