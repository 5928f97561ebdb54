import ClipCadence.Proofs.Json.Numbers
import ClipCadence.Proofs.Json.Strings
import ClipCadence.Proofs.Number.Characters

/-!
Documents that are read as they were written. The text of a value is read back wherever it stands,
at every depth and in front of everything that may follow a value; lists and objects are read item
by item, past the line ends and blanks that set them out.

Main statement: `parse_write`.
-/

namespace ClipCadence.Json

open Text Number

/-- A document that is read as it was written: its integers are not too long, its other numbers are
finite doubles, its strings hold no half of a surrogate pair, its objects no key twice; and it has
no more lists and objects inside each other than there is room for. -/
inductive Legible : Nat → Json → Prop
  | null {room : Nat} : Legible room .null
  | bool {room : Nat} {b : Bool} : Legible room (.bool b)
  | int {room : Nat} {n : Int}
    (hlength : (Nat.toDigits 10 n.natAbs).length ≤ Numeral.maxIntLength) : Legible room (.int n)
  | real {room : Nat} {x : Binary64} (hfinite : x.isFinite = true) (hdouble : x.IsDouble) :
    Legible room (.real x)
  | text {room : Nat} {chars : List Char} : Legible room (.text (.ofChars chars))
  | list {room : Nat} {items : List Json} (hitems : ∀ item ∈ items, Legible room item) :
    Legible (room + 1) (.list items)
  | object {room : Nat} {fields : List (RawText × Json)} (hmap : (fields.map Prod.fst).Nodup)
    (hkeys : ∀ field ∈ fields, ∃ chars, field.1 = .ofChars chars)
    (hfields : ∀ field ∈ fields, Legible room field.2) : Legible (room + 1) (.object fields)

/-! ### Texts of values -/

/-- A character that a value can start with. -/
def Opens (c : Char) : Prop := isSpace c = false ∧ c ≠ ']' ∧ c ≠ '\ufeff'

instance (c : Char) : Decidable (Opens c) := inferInstanceAs (Decidable (_ ∧ _))

/-- A text that is read as a value in front of all that may follow one. -/
structure Reads (room : Nat) (text : List Char) (found : Json) : Prop where
  opens : ∃ first rest, text = first :: rest ∧ Opens first
  reads : ∀ (fuel at_ : Nat) (rest : List Char), 2 * text.length ≤ fuel → Closes rest →
    ∃ after, value fuel room (text ++ rest) at_ = .ok (found, rest, after)

theorem opens_of_isDigit {c : Char} (h : c.isDigit = true) : Opens c := by
  have hne {other : Char} (hother : other.isDigit = false) : c ≠ other :=
    Numeral.ne_of_isDigit h hother
  have hblank : c ≠ ' ' := hne rfl
  have htab : c ≠ '\t' := hne rfl
  have hline : c ≠ '\n' := hne rfl
  have hreturn : c ≠ '\r' := hne rfl
  exact ⟨by simp [isSpace, hblank, htab, hline, hreturn], hne rfl, hne rfl⟩

theorem value_scalar {fuel room : Nat} {first : Char} {rest : List Char} {at_ : Nat}
    (hquote : first ≠ '"') (hlist : first ≠ '[') (hobject : first ≠ '\x7b') :
    value (fuel + 1) room (first :: rest) at_ = scalar (first :: rest) at_ := by
  rw [value]
  all_goals simp_all

/-- A value without items or fields is read by itself. -/
theorem reads_of_scalar {room : Nat} {text : List Char} {found : Json} {first : Char}
    {rest : List Char} (htext : text = first :: rest) (hopens : Opens first)
    (hquote : first ≠ '"') (hlist : first ≠ '[') (hobject : first ≠ '\x7b')
    (h : ∀ (at_ : Nat) (rest : List Char), Closes rest →
      ∃ after, scalar (text ++ rest) at_ = .ok (found, rest, after)) :
    Reads room text found where
  opens := ⟨first, rest, htext, hopens⟩
  reads := by
    intro fuel at_ after hfuel hcloses
    obtain ⟨fuel, rfl⟩ : ∃ n, fuel = n + 1 := by
      refine ⟨fuel - 1, ?_⟩
      rw [htext, List.length_cons] at hfuel
      omega
    have hscalar := h at_ after hcloses
    rw [htext, List.cons_append] at hscalar ⊢
    rw [value_scalar hquote hlist hobject]
    exact hscalar

theorem reads_number {room : Nat} {m : Magnitude} (h : m.WellFormed) {negative : Bool}
    {found : Json} (hfound : number (m.parts negative) = .ok found) :
    Reads room (Layout.signed negative m.text) found := by
  obtain ⟨first, rest, hfirst, htext⟩ := signed_text_eq h negative
  cases negative with
  | true =>
    exact reads_of_scalar htext (by decide) (by decide) (by decide) (by decide)
      fun at_ rest hrest => scalar_text h hfound hrest at_
  | false =>
    have hne {c : Char} (hc : c.isDigit = false) : first ≠ c := Numeral.ne_of_isDigit hfirst hc
    exact reads_of_scalar htext (opens_of_isDigit hfirst) (hne rfl) (hne rfl) (hne rfl)
      fun at_ rest hrest => scalar_text h hfound hrest at_

theorem string_append (text : RawText) (rest : List Char) :
    Writer.string text ++ rest = '"' :: (text.flatMap Writer.escaped ++ '"' :: rest) := by
  simp [Writer.string]

theorem reads_string (room : Nat) (chars : List Char) :
    Reads room (Writer.string (.ofChars chars)) (.text (.ofChars chars)) where
  opens := ⟨'"', _, rfl, by decide⟩
  reads := by
    intro fuel at_ rest hfuel _
    obtain ⟨fuel, rfl⟩ : ∃ n, fuel = n + 1 := by
      refine ⟨fuel - 1, ?_⟩
      rw [Writer.string, List.cons_append, List.length_cons] at hfuel
      omega
    obtain ⟨after, hstring⟩ := string_escaped chars rest (at_ + 1)
    refine ⟨after, ?_⟩
    rw [string_append, value, hstring]
    rfl

/-! ### Line ends and blanks -/

theorem skip_of_not_space {c : Char} (h : isSpace c = false) (rest : List Char) (at_ : Nat) :
    skip (c :: rest) at_ = (c :: rest, at_) := by
  rw [skip, if_neg (by simp [h])]

theorem skip_space {c : Char} (h : isSpace c = true) (rest : List Char) (at_ : Nat) :
    skip (c :: rest) at_ = skip rest (at_ + 1) := by
  rw [skip, if_pos h]

theorem skip_indent (level : Nat) {c : Char} (h : isSpace c = false) (rest : List Char)
    (at_ : Nat) :
    ∃ after, skip (Writer.indent level ++ c :: rest) at_ = (c :: rest, after) := by
  rw [Writer.indent, List.cons_append, skip_space rfl]
  generalize at_ + 1 = at_
  induction 2 * level generalizing at_ with
  | zero => exact ⟨at_, skip_of_not_space h rest at_⟩
  | succ blanks ih =>
    rw [List.replicate_succ, List.cons_append, skip_space rfl]
    exact ih (at_ + 1)

/-! ### Items and fields -/

/-- What follows an item or a field up to the end of its list or object. -/
def following (level : Nat) (last : Char) : List (List Char) → List Char
  | [] => Writer.indent level ++ [last]
  | next :: more => ',' :: (Writer.indent (level + 1) ++ (next ++ following level last more))

theorem bracketed_cons (first last : Char) (level : Nat) (next : List Char)
    (more : List (List Char)) :
    Writer.bracketed first last level (next :: more) =
      first :: (Writer.indent (level + 1) ++ (next ++ following level last more)) := by
  have hmore : List.intercalate [','] ((next :: more).map (Writer.indent (level + 1) ++ ·)) ++
      Writer.indent level ++ [last] =
        Writer.indent (level + 1) ++ (next ++ following level last more) := by
    induction more generalizing next with
    | nil => simp [List.intercalate, following]
    | cons second more ih =>
      rw [following, ← ih]
      simp [List.intercalate]
  rw [Writer.bracketed, List.cons_append, List.cons_append, hmore]
  exact List.cons_ne_nil _ _

section Following

variable {level : Nat} {last : Char} {next rest : List Char} {more : List (List Char)}

theorem following_nil_append :
    following level last [] ++ rest = Writer.indent level ++ last :: rest := by
  simp [following]

theorem following_cons_append :
    following level last (next :: more) ++ rest =
      ',' :: (Writer.indent (level + 1) ++ (next ++ (following level last more ++ rest))) := by
  simp [following]

theorem closes_following : Closes (following level last more ++ rest) := by
  intro c hc
  cases more with
  | nil =>
    obtain rfl : '\n' = c := by simpa [following, Writer.indent] using hc
    decide
  | cons next more =>
    obtain rfl : ',' = c := by simpa [following] using hc
    decide

end Following

section Lists

variable {fuel room at_ after next : Nat} {text source rest tail : List Char} {item : Json}

theorem items_last (hitem : value fuel room source at_ = .ok (item, rest, after))
    (hclose : skip rest after = (']' :: tail, next)) :
    items (fuel + 1) room source at_ = .ok ([item], tail, next + 1) := by
  rw [items]
  refine Fallible.bind_eq_ok_iff.mpr ⟨_, hitem, ?_⟩
  dsimp only
  rw [hclose]
  rfl

theorem items_more (hitem : value fuel room source at_ = .ok (item, ',' :: rest, after))
    (hskip : skip rest (after + 1) = (tail, next)) {more : List Json} {left : Rest}
    (hmore : items fuel room tail next = .ok (more, left)) :
    items (fuel + 1) room source at_ = .ok (item :: more, left) := by
  have hcomma : skip (',' :: rest) after = (',' :: rest, after) := skip_of_not_space rfl _ _
  rw [items]
  refine Fallible.bind_eq_ok_iff.mpr ⟨_, hitem, ?_⟩
  dsimp only
  rw [hcomma]
  show (items fuel room (skip rest (after + 1)).1 (skip rest (after + 1)).2 >>= _) = _
  rw [hskip, hmore]
  rfl

theorem value_list (hskip : skip rest (at_ + 1) = (source, next)) (hopen : source.head? ≠ some ']')
    {found : List Json} {left : Rest} (hitems : items fuel room source next = .ok (found, left)) :
    value (fuel + 1) (room + 1) ('[' :: rest) at_ = .ok (.list found, left) := by
  rw [value, hskip]
  split
  · next hclosed =>
    rw [(Prod.mk.inj hclosed).1] at hopen
    exact absurd rfl hopen
  · next hfound =>
    obtain ⟨rfl, rfl⟩ := Prod.mk.inj hfound
    rw [hitems]
    rfl

theorem Reads.head?_append {found : Json} (h : Reads room text found) (rest : List Char) :
    (text ++ rest).head? ≠ some ']' := by
  obtain ⟨first, tail, rfl, hopens⟩ := h.opens
  simpa using hopens.2.1

theorem Reads.skip_indent {found : Json} (h : Reads room text found) (level : Nat)
    (rest : List Char) (at_ : Nat) :
    ∃ after, skip (Writer.indent level ++ (text ++ rest)) at_ = (text ++ rest, after) := by
  obtain ⟨first, tail, rfl, hopens⟩ := h.opens
  exact Json.skip_indent level hopens.1 (tail ++ rest) at_

/-- Items are read up to the end of their list. -/
theorem items_reads {level : Nat} {shown : Json → List Char} {item : Json} {more : List Json}
    (h : ∀ found ∈ item :: more, Reads room (shown found) found) (fuel at_ : Nat) (rest : List Char)
    (hfuel : 2 * (shown item ++ following level ']' (more.map shown)).length ≤ fuel) :
    ∃ after, items fuel room (shown item ++ (following level ']' (more.map shown) ++ rest)) at_ =
      .ok (item :: more, rest, after) := by
  induction more generalizing item fuel at_ with
  | nil =>
    have hitem := h item List.mem_cons_self
    simp only [List.map_nil, following, List.length_append, List.length_singleton] at hfuel
    obtain ⟨fuel, rfl⟩ : ∃ n, fuel = n + 1 := ⟨fuel - 1, by omega⟩
    obtain ⟨after, hvalue⟩ := hitem.reads fuel at_ (following level ']' [] ++ rest) (by omega)
      closes_following
    obtain ⟨next, hclose⟩ := @Json.skip_indent level ']' rfl rest after
    rw [← following_nil_append] at hclose
    exact ⟨next + 1, items_last hvalue hclose⟩
  | cons second more ih =>
    have hitem := h item List.mem_cons_self
    have hmore : ∀ found ∈ second :: more, Reads room (shown found) found :=
      fun found hfound => h found (List.mem_cons_of_mem item hfound)
    have hsecond := hmore second List.mem_cons_self
    simp only [List.map_cons, following, List.length_append, List.length_cons] at hfuel
    obtain ⟨fuel, rfl⟩ : ∃ n, fuel = n + 1 := ⟨fuel - 1, by omega⟩
    obtain ⟨after, hvalue⟩ := hitem.reads fuel at_
      (following level ']' ((second :: more).map shown) ++ rest) (by omega) closes_following
    obtain ⟨next, hskip⟩ := hsecond.skip_indent (level + 1)
      (following level ']' (more.map shown) ++ rest) (after + 1)
    obtain ⟨last, hrest⟩ := ih hmore fuel next (by simp only [List.length_append]; omega)
    rw [List.map_cons, following_cons_append] at hvalue ⊢
    exact ⟨last, items_more hvalue hskip hrest⟩

end Lists

section Objects

variable {fuel room at_ after next : Nat} {fields : List (RawText × Json)} {key : RawText}
  {source rest : List Char} {item : Json} {shown : Json → List Char} {field : RawText × Json}

/-- What is left to do for an object after one of its fields has been read. -/
def membersAfter (fuel room : Nat) (fields : List (RawText × Json)) :
    Rest → Read (List (RawText × Json) × Rest)
  | ('\x7d' :: rest, at_) => .ok (fields, rest, at_ + 1)
  | (',' :: rest, at_) => members fuel room fields (skip rest (at_ + 1)).1 (skip rest (at_ + 1)).2
  | (_, at_) => fail .comma at_

theorem members_field {text : List Char} {colon : Nat}
    (hkey : string text (at_ + 1) = .ok (key, ':' :: ' ' :: source, colon))
    (hblank : skip (' ' :: source) (colon + 1) = (source, next))
    (hitem : value fuel room source next = .ok (item, rest, after)) :
    members (fuel + 1) room fields ('"' :: text) at_ =
      membersAfter fuel room (setField key item fields) (skip rest after) := by
  have hcolon : skip (':' :: ' ' :: source) colon = (':' :: ' ' :: source, colon) :=
    skip_of_not_space rfl _ _
  rw [members, Fallible.bind_ok hkey]
  dsimp only
  rw [hcolon]
  show (value fuel room (skip (' ' :: source) (colon + 1)).1
    (skip (' ' :: source) (colon + 1)).2 >>= _) = _
  rw [hblank, Fallible.bind_ok hitem]
  rfl

theorem value_object (hskip : skip rest (at_ + 1) = (source, next))
    (hopen : source.head? ≠ some '\x7d') {found : List (RawText × Json)} {left : Rest}
    (hfields : members fuel room [] source next = .ok (found, left)) :
    value (fuel + 1) (room + 1) ('\x7b' :: rest) at_ = .ok (.object found, left) := by
  rw [value, hskip]
  split
  · next hclosed =>
    rw [(Prod.mk.inj hclosed).1] at hopen
    exact absurd rfl hopen
  · next hfound =>
    obtain ⟨rfl, rfl⟩ := Prod.mk.inj hfound
    rw [hfields]
    rfl

/-- A field under a new key comes last. -/
theorem setField_of_notMem (h : key ∉ fields.map Prod.fst) :
    setField key item fields = fields ++ [(key, item)] := by
  induction fields with
  | nil => rfl
  | cons field fields ih =>
    rw [List.map_cons, List.mem_cons, not_or] at h
    rw [setField, if_neg (Ne.symm h.1), ih h.2, List.cons_append]

theorem key_notMem {more : List (RawText × Json)}
    (hmap : ((fields ++ field :: more).map Prod.fst).Nodup) : field.1 ∉ fields.map Prod.fst := by
  rw [List.map_append, List.map_cons, List.nodup_append'] at hmap
  exact fun hmem => hmap.2.2 hmem List.mem_cons_self

def fieldText (shown : Json → List Char) (field : RawText × Json) : List Char :=
  Writer.string field.1 ++ ':' :: ' ' :: shown field.2

theorem fieldText_append :
    fieldText shown field ++ rest = '"' :: (field.1.flatMap Writer.escaped ++
      '"' :: ':' :: ' ' :: (shown field.2 ++ rest)) := by
  rw [fieldText, List.append_assoc, string_append, List.cons_append, List.cons_append]

theorem head?_fieldText : (fieldText shown field ++ rest).head? ≠ some '\x7d' := by
  rw [fieldText_append]
  exact (by decide : some '"' ≠ some '\x7d')

theorem skip_indent_fieldText (level : Nat) :
    ∃ after, skip (Writer.indent level ++ (fieldText shown field ++ rest)) at_ =
      (fieldText shown field ++ rest, after) := by
  rw [fieldText_append]
  exact skip_indent level rfl _ at_

/-- A field is read up to what follows it. -/
theorem members_fieldText (hnew : field.1 ∉ fields.map Prod.fst)
    (hkey : ∃ chars, field.1 = .ofChars chars) (h : Reads room (shown field.2) field.2)
    (hfuel : 2 * (shown field.2).length ≤ fuel) (hrest : Closes rest) :
    ∃ after, members (fuel + 1) room fields (fieldText shown field ++ rest) at_ =
      membersAfter fuel room (fields ++ [field]) (skip rest after) := by
  obtain ⟨chars, hchars⟩ := hkey
  obtain ⟨colon, hstring⟩ := string_escaped chars (':' :: ' ' :: (shown field.2 ++ rest)) (at_ + 1)
  obtain ⟨after, hitem⟩ := h.reads fuel (colon + 2) rest hfuel hrest
  obtain ⟨first, tail, hfirst, hopens⟩ := h.opens
  have hblank : skip (' ' :: (shown field.2 ++ rest)) (colon + 1) =
      (shown field.2 ++ rest, colon + 2) := by
    rw [skip_space rfl, hfirst, List.cons_append, skip_of_not_space hopens.1]
  rw [← hchars] at hstring
  refine ⟨after, ?_⟩
  rw [fieldText_append, members_field hstring hblank hitem, setField_of_notMem hnew]

/-- Fields are read up to the end of their object, after those already read. -/
theorem members_reads {level : Nat} {more : List (RawText × Json)}
    (hmap : ((fields ++ field :: more).map Prod.fst).Nodup)
    (hkeys : ∀ found ∈ field :: more, ∃ chars, found.1 = .ofChars chars)
    (h : ∀ found ∈ field :: more, Reads room (shown found.2) found.2)
    (fuel at_ : Nat) (rest : List Char)
    (hfuel : 2 * (fieldText shown field ++
      following level '\x7d' (more.map (fieldText shown))).length ≤ fuel) :
    ∃ after, members fuel room fields
        (fieldText shown field ++
          (following level '\x7d' (more.map (fieldText shown)) ++ rest)) at_ =
      .ok (fields ++ field :: more, rest, after) := by
  induction more generalizing field fields fuel at_ with
  | nil =>
    have hnew : field.1 ∉ fields.map Prod.fst := key_notMem hmap
    simp only [List.map_nil, following, fieldText, List.length_append, List.length_cons] at hfuel
    obtain ⟨fuel, rfl⟩ : ∃ n, fuel = n + 1 := ⟨fuel - 1, by omega⟩
    obtain ⟨after, hfield⟩ := @members_fieldText fuel room at_ fields
      (following level '\x7d' [] ++ rest) shown field hnew (hkeys field List.mem_cons_self)
      (h field List.mem_cons_self) (by omega) closes_following
    obtain ⟨next, hclose⟩ := @Json.skip_indent level '\x7d' rfl rest after
    rw [← following_nil_append] at hclose
    rw [hclose] at hfield
    exact ⟨next + 1, hfield⟩
  | cons second more ih =>
    have hnew : field.1 ∉ fields.map Prod.fst := key_notMem hmap
    have hlength : 2 * (shown field.2).length + 1 ≤ fuel ∧
        2 * (fieldText shown second ++
          following level '\x7d' (more.map (fieldText shown))).length + 1 ≤ fuel := by
      rw [List.map_cons, following, List.length_append, fieldText] at hfuel
      simp only [List.length_append, List.length_cons] at hfuel ⊢
      omega
    obtain ⟨fuel, rfl⟩ : ∃ n, fuel = n + 1 := ⟨fuel - 1, by omega⟩
    obtain ⟨after, hfield⟩ := @members_fieldText fuel room at_ fields
      (following level '\x7d' ((second :: more).map (fieldText shown)) ++ rest) shown field hnew
      (hkeys field List.mem_cons_self) (h field List.mem_cons_self) (by omega) closes_following
    obtain ⟨next, hskip⟩ := @skip_indent_fieldText (after + 1)
      (following level '\x7d' (more.map (fieldText shown)) ++ rest) shown second (level + 1)
    rw [List.append_cons] at hmap
    obtain ⟨last, hrest⟩ := ih hmap
      (fun found hfound => hkeys found (List.mem_cons_of_mem field hfound))
      (fun found hfound => h found (List.mem_cons_of_mem field hfound)) fuel next (by omega)
    rw [List.map_cons, following_cons_append] at hfield ⊢
    rw [skip_of_not_space rfl] at hfield
    refine ⟨last, ?_⟩
    calc members (fuel + 1) room fields _ at_
        = members fuel room (fields ++ [field]) (skip _ (after + 1)).1 (skip _ (after + 1)).2 :=
          hfield
      _ = .ok (fields ++ field :: second :: more, rest, last) := by
          rw [hskip, hrest, ← List.append_cons]

end Objects

/-! ### Documents -/

section Documents

variable {room level : Nat}

theorem items_eq_map (level : Nat) (items : List Json) :
    Writer.items level items = items.map (Writer.value level) := by
  induction items with
  | nil => rfl
  | cons item items ih => rw [Writer.items, ih, List.map_cons]

theorem members_eq_map (level : Nat) (fields : List (RawText × Json)) :
    Writer.members level fields = fields.map (fieldText (Writer.value level)) := by
  induction fields with
  | nil => rfl
  | cons field fields ih =>
    rw [Writer.members, ih, List.map_cons]
    rfl

theorem value_nil (fuel room at_ : Nat) (rest : List Char) :
    value (fuel + 1) (room + 1) ('[' :: ']' :: rest) at_ = .ok (.list [], rest, at_ + 2) := by
  rw [value]
  rfl

theorem value_empty (fuel room at_ : Nat) (rest : List Char) :
    value (fuel + 1) (room + 1) ('\x7b' :: '\x7d' :: rest) at_ =
      .ok (.object [], rest, at_ + 2) := by
  rw [value]
  rfl

theorem reads_list {items : List Json}
    (h : ∀ item ∈ items, Reads room (Writer.value (level + 1) item) item) :
    Reads (room + 1) (Writer.value level (.list items)) (.list items) := by
  rw [Writer.value, items_eq_map]
  cases items with
  | nil =>
    refine ⟨⟨'[', _, rfl, by decide⟩, fun fuel at_ rest hfuel _ => ?_⟩
    rw [List.map_nil, Writer.bracketed, List.length_cons] at hfuel
    obtain ⟨fuel, rfl⟩ : ∃ n, fuel = n + 1 := ⟨fuel - 1, by omega⟩
    exact ⟨_, value_nil fuel room at_ rest⟩
  | cons item more =>
    rw [List.map_cons, bracketed_cons]
    refine ⟨⟨'[', _, rfl, by decide⟩, fun fuel at_ rest hfuel _ => ?_⟩
    rw [List.length_cons, List.length_append] at hfuel
    obtain ⟨fuel, rfl⟩ : ∃ n, fuel = n + 1 := ⟨fuel - 1, by omega⟩
    have hitem := h item List.mem_cons_self
    obtain ⟨next, hskip⟩ := hitem.skip_indent (level + 1)
      (following level ']' (more.map (Writer.value (level + 1))) ++ rest) (at_ + 1)
    obtain ⟨after, hitems⟩ := @items_reads room level _ item more h fuel next rest (by omega)
    refine ⟨after, ?_⟩
    rw [List.cons_append, List.append_assoc, List.append_assoc]
    exact value_list hskip (hitem.head?_append _) hitems

theorem reads_object {fields : List (RawText × Json)} (hmap : (fields.map Prod.fst).Nodup)
    (hkeys : ∀ field ∈ fields, ∃ chars, field.1 = .ofChars chars)
    (h : ∀ field ∈ fields, Reads room (Writer.value (level + 1) field.2) field.2) :
    Reads (room + 1) (Writer.value level (.object fields)) (.object fields) := by
  rw [Writer.value, members_eq_map]
  cases fields with
  | nil =>
    refine ⟨⟨'\x7b', _, rfl, by decide⟩, fun fuel at_ rest hfuel _ => ?_⟩
    rw [List.map_nil, Writer.bracketed, List.length_cons] at hfuel
    obtain ⟨fuel, rfl⟩ : ∃ n, fuel = n + 1 := ⟨fuel - 1, by omega⟩
    exact ⟨_, value_empty fuel room at_ rest⟩
  | cons field more =>
    rw [List.map_cons, bracketed_cons]
    refine ⟨⟨'\x7b', _, rfl, by decide⟩, fun fuel at_ rest hfuel _ => ?_⟩
    rw [List.length_cons, List.length_append] at hfuel
    obtain ⟨fuel, rfl⟩ : ∃ n, fuel = n + 1 := ⟨fuel - 1, by omega⟩
    generalize hrest : following level '\x7d'
      (more.map (fieldText (Writer.value (level + 1)))) ++ rest = behind
    obtain ⟨next, hskip⟩ := @skip_indent_fieldText (at_ + 1) behind (Writer.value (level + 1)) field
      (level + 1)
    obtain ⟨after, hfields⟩ := @members_reads room [] _ field level more hmap hkeys h fuel next rest
      (by omega)
    rw [hrest] at hfields
    refine ⟨after, ?_⟩
    rw [List.cons_append, List.append_assoc, List.append_assoc, hrest]
    exact value_object hskip head?_fieldText hfields

/-- What is written of a document is read as the document, wherever it stands. -/
theorem Legible.reads {document : Json} (h : Legible room document) (level : Nat) :
    Reads room (Writer.value level document) document := by
  induction h generalizing level with
  | null =>
    exact reads_of_scalar rfl (by decide) (by decide) (by decide) (by decide)
      fun at_ rest _ => ⟨at_ + 4, rfl⟩
  | @bool _ b =>
    cases b with
    | true =>
      exact reads_of_scalar rfl (by decide) (by decide) (by decide) (by decide)
        fun at_ rest _ => ⟨at_ + 4, rfl⟩
    | false =>
      exact reads_of_scalar rfl (by decide) (by decide) (by decide) (by decide)
        fun at_ rest _ => ⟨at_ + 5, rfl⟩
  | int hlength =>
    rw [Writer.value, write_eq]
    exact reads_number (wellFormed_wholeNumber _) (number_int hlength)
  | real hfinite hdouble =>
    rw [Writer.value, if_pos hfinite]
    cases hdouble with
    | infinite | nan => cases hfinite
    | finite hlimit hwhole =>
      obtain ⟨m, htext, hm, hnumber⟩ := @number_double Layout.documentLayout rfl _ hlimit hwhole _
      rw [Binary64.document, htext]
      exact reads_number hm hnumber
  | text => exact reads_string _ _
  | list _ ih => exact reads_list fun item hitem => ih item hitem (level + 1)
  | object hmap hkeys _ ih =>
    exact reads_object hmap hkeys fun field hfield => ih field hfield (level + 1)

/-- A document is read from its own text. -/
theorem parse_write {room : Room} {document : Json} (h : Legible room.levels document) :
    parse document.write room = .ok document := by
  obtain ⟨⟨first, rest, htext, hblank, -, hmark⟩, hreads⟩ := h.reads 0
  obtain ⟨after, hvalue⟩ := hreads (2 * document.write.length + 2) 0 []
    (Nat.le_add_right _ _) (by simp [Closes])
  rw [List.append_nil] at hvalue
  have hstart : skip document.write 0 = (document.write, 0) := by
    rw [write, htext]
    exact skip_of_not_space hblank rest 0
  have hfirst : document.write.head? ≠ some '\ufeff' := by
    rw [write, htext]
    simpa using hmark
  rw [parse, if_neg hfirst, hstart]
  refine Fallible.bind_eq_ok_iff.mpr ⟨_, hvalue, ?_⟩
  rfl

theorem return_notMem_following {last : Char} (hlast : '\r' ≠ last) {more : List (List Char)}
    (h : ∀ next ∈ more, '\r' ∉ next) : '\r' ∉ following level last more := by
  have hindent (level : Nat) : '\r' ∉ Writer.indent level := by simp [Writer.indent]
  induction more with
  | nil => simp [following, hindent, hlast]
  | cons next more ih =>
    rw [List.forall_mem_cons] at h
    simp [following, hindent, h.1, ih h.2]

theorem return_notMem_bracketed {first last : Char} (hfirst : '\r' ≠ first) (hlast : '\r' ≠ last)
    {texts : List (List Char)} (h : ∀ text ∈ texts, '\r' ∉ text) :
    '\r' ∉ Writer.bracketed first last level texts := by
  cases texts with
  | nil => simp [Writer.bracketed, hfirst, hlast]
  | cons next more =>
    rw [List.forall_mem_cons] at h
    rw [bracketed_cons]
    simp [Writer.indent, hfirst, h.1, return_notMem_following hlast h.2]

/-- The text of a document has no carriage return, so its lines are read as they are. -/
theorem Legible.return_notMem {document : Json} (h : Legible room document) (level : Nat) :
    '\r' ∉ Writer.value level document := by
  have hnumeric : isNumeric '\r' = false := rfl
  induction h generalizing level with
  | null => exact (by decide : '\r' ∉ "null".toList)
  | @bool _ b => exact (by decide +revert : '\r' ∉ (if b then "true" else "false").toList)
  | int => exact (numeric_write _).notMem hnumeric
  | @real _ x hfinite hdouble =>
    rw [Writer.value, if_pos hfinite]
    cases hdouble with
    | infinite | nan => cases hfinite
    | finite => exact (Layout.numeric_double_finite _ _ _ _).notMem hnumeric
  | text => exact return_notMem_string _
  | list _ ih =>
    rw [Writer.value, items_eq_map]
    refine return_notMem_bracketed (by decide) (by decide) fun text htext => ?_
    obtain ⟨item, hitem, rfl⟩ := List.mem_map.mp htext
    exact ih item hitem (level + 1)
  | object _ hkeys _ ih =>
    rw [Writer.value, members_eq_map]
    refine return_notMem_bracketed (by decide) (by decide) fun text htext => ?_
    obtain ⟨field, hfield, rfl⟩ := List.mem_map.mp htext
    obtain ⟨chars, hchars⟩ := hkeys field hfield
    have hkey := return_notMem_string chars
    rw [← hchars] at hkey
    simp [fieldText, hkey, ih field hfield (level + 1)]

end Documents

end ClipCadence.Json
