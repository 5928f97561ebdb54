import ClipCadence.Proofs.Fallible
import ClipCadence.Json.Reader

/-!
How the room of the reader matters. A reader with more room reads all that one with less room
reads, and reads it as the same value: the room decides only which documents are given up on.

Main statement: `parse_more`.
-/

namespace ClipCadence.Json

open Text

/-- With this much fuel, all that is read with some room is read alike with more. -/
structure KeepsRoom (fuel : Nat) : Prop where
  value {room more at_ : Nat} {source : List Char} {result : Json × Rest} (hmore : room ≤ more) :
    value fuel room source at_ = .ok result → value fuel more source at_ = .ok result
  items {room more at_ : Nat} {source : List Char} {result : List Json × Rest}
    (hmore : room ≤ more) :
    items fuel room source at_ = .ok result → items fuel more source at_ = .ok result
  members {room more at_ : Nat} {fields : List (RawText × Json)} {source : List Char}
    {result : List (RawText × Json) × Rest} (hmore : room ≤ more) :
    members fuel room fields source at_ = .ok result →
      members fuel more fields source at_ = .ok result

namespace KeepsRoom

variable {fuel room more at_ : Nat} {source : List Char}

theorem value_succ (h : KeepsRoom fuel) {result : Json × Rest} (hmore : room ≤ more)
    (hvalue : Json.value (fuel + 1) room source at_ = .ok result) :
    Json.value (fuel + 1) more source at_ = .ok result := by
  unfold Json.value at hvalue
  split at hvalue
  case h_1 => rw [Json.value, hvalue]
  case h_2 | h_3 => cases hvalue
  case h_4 room =>
    -- A list takes one level of each room.
    obtain ⟨more, rfl⟩ : ∃ n, more = n + 1 := ⟨more - 1, by omega⟩
    rw [Json.value]
    split at hvalue
    · exact hvalue
    · obtain ⟨found, hfound, hresult⟩ := Fallible.bind_eq_ok_iff.mp hvalue
      have hless : room ≤ more := Nat.le_of_succ_le_succ hmore
      exact Fallible.bind_eq_ok_iff.mpr ⟨found, h.items hless hfound, hresult⟩
  case h_5 room =>
    obtain ⟨more, rfl⟩ : ∃ n, more = n + 1 := ⟨more - 1, by omega⟩
    rw [Json.value]
    split at hvalue
    · exact hvalue
    · obtain ⟨found, hfound, hresult⟩ := Fallible.bind_eq_ok_iff.mp hvalue
      have hless : room ≤ more := Nat.le_of_succ_le_succ hmore
      exact Fallible.bind_eq_ok_iff.mpr ⟨found, h.members hless hfound, hresult⟩
  case h_6 htext hlist hobject hlist' hobject' =>
    -- What is neither a string nor holds other values is read alike in every room.
    have hopen (rest : List Char) : source ≠ '[' :: rest ∧ source ≠ '\x7b' :: rest := by
      cases room with
      | zero => exact ⟨fun h => hlist rest h rfl, fun h => hobject rest h rfl⟩
      | succ room => exact ⟨fun h => hlist' rest room h rfl, fun h => hobject' rest room h rfl⟩
    rw [Json.value]
    · exact hvalue
    · exact htext
    · exact fun rest h => absurd h (hopen rest).1
    · exact fun rest h => absurd h (hopen rest).2
    · exact fun rest _ h => absurd h (hopen rest).1
    · exact fun rest _ h => absurd h (hopen rest).2

theorem items_succ (h : KeepsRoom fuel) {result : List Json × Rest} (hmore : room ≤ more)
    (hitems : Json.items (fuel + 1) room source at_ = .ok result) :
    Json.items (fuel + 1) more source at_ = .ok result := by
  rw [Json.items] at hitems ⊢
  obtain ⟨⟨item, rest, next⟩, hitem, hitems⟩ := Fallible.bind_eq_ok_iff.mp hitems
  refine Fallible.bind_eq_ok_iff.mpr ⟨_, h.value hmore hitem, ?_⟩
  dsimp only at hitems ⊢
  split at hitems
  · exact hitems
  · obtain ⟨found, hfound, hresult⟩ := Fallible.bind_eq_ok_iff.mp hitems
    exact Fallible.bind_eq_ok_iff.mpr ⟨found, h.items hmore hfound, hresult⟩
  · cases hitems

theorem members_succ (h : KeepsRoom fuel) {fields : List (RawText × Json)}
    {result : List (RawText × Json) × Rest} (hmore : room ≤ more)
    (hmembers : Json.members (fuel + 1) room fields source at_ = .ok result) :
    Json.members (fuel + 1) more fields source at_ = .ok result := by
  unfold Json.members at hmembers ⊢
  split at hmembers
  · obtain ⟨⟨key, rest, next⟩, hkey, hmembers⟩ := Fallible.bind_eq_ok_iff.mp hmembers
    refine Fallible.bind_eq_ok_iff.mpr ⟨_, hkey, ?_⟩
    dsimp only at hmembers ⊢
    split at hmembers
    · obtain ⟨⟨item, rest, next⟩, hitem, hmembers⟩ := Fallible.bind_eq_ok_iff.mp hmembers
      refine Fallible.bind_eq_ok_iff.mpr ⟨_, h.value hmore hitem, ?_⟩
      dsimp only at hmembers ⊢
      split at hmembers
      · exact hmembers
      · exact h.members hmore hmembers
      · cases hmembers
    · cases hmembers
  · cases hmembers

end KeepsRoom

theorem keepsRoom (fuel : Nat) : KeepsRoom fuel := by
  induction fuel with
  | zero =>
    constructor
    case value => exact fun _ h => by rw [value] at h; cases h
    case items => exact fun _ h => by rw [items] at h; cases h
    case members => exact fun _ h => by rw [members] at h; cases h
  | succ fuel ih => exact ⟨ih.value_succ, ih.items_succ, ih.members_succ⟩

/-- What is read with some room is read alike with more. -/
theorem parse_more {room more : Room} (hmore : room.levels ≤ more.levels) {source : List Char}
    {document : Json} (h : parse source room = .ok document) :
    parse source more = .ok document := by
  unfold parse at h ⊢
  split at h
  · cases h
  · next hmark =>
    rw [if_neg hmark]
    obtain ⟨found, hfound, hresult⟩ := Fallible.bind_eq_ok_iff.mp h
    exact Fallible.bind_eq_ok_iff.mpr ⟨found, (keepsRoom _).value hmore hfound, hresult⟩

end ClipCadence.Json
