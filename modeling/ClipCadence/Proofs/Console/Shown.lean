import ClipCadence.Proofs.Console.Markup

/-!
What is shown of a template. The characters of a rendered template are those of its text tokens, so
they are read off its parts one after the other: plain text is shown as it is, apart from characters
that are never printed, and a tag is not shown, unless an odd number of backslashes stands before
it. A part of a template is inert if it adds text and no tag to whatever is read after it.

Main statements: `render_chars` and `Inert.shows`.
-/

namespace ClipCadence.Console.Markup

open Text

/-! ### Text tokens -/

/-- What is shown of a token, whatever styles are open. -/
def Token.shown : Token → List Char
  | .text chars => sanitize chars
  | .tag .. => []

theorem renderTokens_chars {found : List Token} {length : Nat} {opened : List Opened}
    {text : Styled} (h : renderTokens length opened found = .ok text) :
    text.chars = found.flatMap Token.shown := by
  induction found generalizing length opened text with
  | nil =>
    rw [renderTokens] at h
    rw [← Except.ok.inj h]
    rfl
  | cons token rest ih =>
    rw [List.flatMap_cons]
    cases token with
    | text chars =>
      obtain ⟨after, hafter, htext⟩ := Fallible.bind_eq_ok_iff.mp h
      rw [← Except.ok.inj htext, ← ih hafter]
      rfl
    | tag position content =>
      rw [renderTokens] at h
      dsimp only at h
      split at h
      · obtain ⟨style, -, h⟩ := Fallible.bind_eq_ok_iff.mp h
        obtain ⟨-, -, h⟩ := Fallible.bind_eq_ok_iff.mp h
        obtain ⟨after, hafter, htext⟩ := Fallible.bind_eq_ok_iff.mp h
        rw [← Except.ok.inj htext, ← ih hafter]
        rfl
      · obtain ⟨name, -, h⟩ := Fallible.bind_eq_ok_iff.mp h
        exact ih h

/-- What is shown of a part of a template that comes after some backslashes. -/
def Shows (before : Nat) (text shown : List Char) : Prop :=
  ∀ position, (tokensFrom position before 0 text).flatMap Token.shown = shown

/-- A template that is rendered has the characters that are shown of it. -/
theorem render_chars {template shown : List Char} {text : Styled} (hshows : Shows 0 template shown)
    (h : render template = .ok text) : text.chars = shown :=
  (renderTokens_chars h).trans (hshows 0)

/-! ### Plain text -/

theorem sanitize_slashes (n : Nat) : sanitize (slashes n) = slashes n := by
  refine List.filter_eq_self.mpr fun c hc => ?_
  rw [List.eq_of_mem_replicate hc]
  rfl

theorem sanitize_append (first second : List Char) :
    sanitize (first ++ second) = sanitize first ++ sanitize second := List.filter_append ..

theorem slashes_succ_append (n : Nat) (text : List Char) :
    slashes (n + 1) ++ text = slashes n ++ '\\' :: text := by
  simp [slashes, List.replicate_succ']

/-- The backslashes at the end of a text that comes after some of them. -/
def slashesAtEnd (before : Nat) (text : List Char) : Nat :=
  text.foldl (fun count c => if c = '\\' then count + 1 else 0) before

/-- What is shown of a text after some backslashes, once it has been escaped, up to the backslashes
at its end. -/
def shownFrom (before : Nat) : List Char → List Char
  | [] => []
  | c :: rest =>
    if c = '\\' then shownFrom (before + 1) rest
    else if c = '[' then
      slashes (if (tag? rest).isSome then before else before - 1) ++ '[' :: shownFrom 0 rest
    else slashes before ++ c :: shownFrom 0 rest

theorem slashesAtEnd_concat (before : Nat) (start : List Char) {last : Char} (hlast : last ≠ '\\')
    (rest : List Char) : slashesAtEnd before (start ++ [last] ++ rest) = slashesAtEnd 0 rest := by
  simp [slashesAtEnd, hlast]

theorem shownFrom_concat (before : Nat) {start : List Char} {last : Char}
    (hplain : '[' ∉ start ++ [last]) (hlast : last ≠ '\\') (rest : List Char) :
    shownFrom before (start ++ [last] ++ rest) =
      slashes before ++ (start ++ [last] ++ shownFrom 0 rest) := by
  induction start generalizing before with
  | nil =>
    have hbracket : last ≠ '[' := fun hbracket => hplain (by simp [hbracket])
    simp [shownFrom, hlast, hbracket]
  | cons c start ih =>
    obtain ⟨hc, hrest⟩ := not_or.mp (List.mem_cons.not.mp hplain)
    rw [List.cons_append, List.cons_append, shownFrom]
    split
    · next hslash =>
      rw [ih _ hrest, slashes_succ_append, hslash]
      rfl
    · rw [if_neg (Ne.symm hc), ih _ hrest]
      rfl

/-! ### Inert parts of a template -/

/-- A part of a template that is read as text after `before` backslashes, if `tail` follows it. The
last `after` backslashes count with what follows, and the others are shown, with all the rest of the
part, as `shown`. -/
def Inert (before : Nat) (text tail : List Char) (after : Nat) (shown : List Char) : Prop :=
  ∀ position, ∃ texts : List (List Char),
    tokensFrom position before 0 (text ++ tail) =
      texts.map .text ++ tokensFrom (position + text.length) after 0 tail ∧
    texts.flatten = shown

section Inert

variable {before middle after : Nat} {first second text tail shown more : List Char}

theorem inert_slashes (before n : Nat) (tail : List Char) :
    Inert before (slashes n) tail (before + n) [] := by
  intro position
  refine ⟨[], ?_, rfl⟩
  rw [tokensFrom_slashes, slashes, List.length_replicate]
  rfl

theorem inert_char {c : Char} (hslash : c ≠ '\\') (hbracket : c ≠ '[') :
    Inert before [c] tail 0 (slashes before ++ [c]) := by
  intro position
  refine ⟨[slashes before ++ [c]], ?_, List.append_nil _⟩
  rw [List.singleton_append, tokensFrom, if_neg hslash, if_neg hbracket]
  rfl

theorem inert_bracket (hnone : tag? tail = none) :
    Inert before ['['] tail 0 (slashes (before - 1) ++ ['[']) := by
  intro position
  refine ⟨[slashes (before - 1) ++ ['[']], ?_, List.append_nil _⟩
  rw [List.singleton_append, tokensFrom, if_neg (by decide), if_pos rfl, hnone]
  rfl

/-- A tag after an odd number of backslashes is plain text, and half of them are shown. -/
theorem inert_tag {content : List Char} (htag : IsTag content) (hodd : before % 2 = 1) :
    Inert before (bracketed content) tail 0 (slashes (before / 2) ++ bracketed content) := by
  intro position
  refine ⟨[slashes (before / 2) ++ bracketed content], ?_, List.append_nil _⟩
  have hlength : position + 1 + (content.length + 1) = position + (bracketed content).length := by
    simp [bracketed]
    omega
  rw [tokensFrom_tag htag, if_neg (by omega), hlength]
  rfl

theorem Inert.append (h : Inert before first (second ++ tail) middle shown)
    (hsecond : Inert middle second tail after more) :
    Inert before (first ++ second) tail after (shown ++ more) := by
  intro position
  obtain ⟨texts, htokens, hshown⟩ := h position
  obtain ⟨others, hothers, hmore⟩ := hsecond (position + first.length)
  refine ⟨texts ++ others, ?_, by rw [List.flatten_append, hshown, hmore]⟩
  rw [List.append_assoc, htokens, hothers, List.map_append, List.append_assoc, List.length_append,
    Nat.add_assoc]

theorem Inert.after_slashes {n : Nat} (h : Inert (before + n) text tail after shown) :
    Inert before (slashes n ++ text) tail after shown :=
  (inert_slashes before n (text ++ tail)).append h

/-- A part without a bracket. -/
theorem inert_plain (hplain : '[' ∉ text) (before : Nat) (tail : List Char) :
    Inert before text tail (slashesAtEnd before text) (shownFrom before text) := by
  induction text generalizing before with
  | nil => exact inert_slashes before 0 tail
  | cons c rest ih =>
    obtain ⟨hc, hrest⟩ := not_or.mp (List.mem_cons.not.mp hplain)
    rw [shownFrom]
    split
    · next hslash =>
      subst hslash
      exact (inert_slashes before 1 (rest ++ tail)).append (ih hrest (before + 1))
    · next hslash =>
      rw [if_neg (Ne.symm hc), slashesAtEnd, List.foldl_cons, if_neg hslash, ← slashesAtEnd,
        List.append_cons]
      exact (inert_char hslash (Ne.symm hc)).append (ih hrest 0)

/-- A part without a bracket that does not end in a backslash. -/
theorem inert_of_last (hplain : '[' ∉ text) (hlast : text.getLast? ≠ some '\\') (tail : List Char) :
    Inert 0 text tail 0 text := by
  have hinert := inert_plain hplain 0 tail
  rcases List.eq_nil_or_concat text with rfl | ⟨start, last, rfl⟩
  · exact hinert
  · rw [List.concat_eq_append] at hplain hlast hinert ⊢
    have hlast : last ≠ '\\' := fun hslash => hlast (by simp [hslash])
    have hshown := shownFrom_concat 0 hplain hlast []
    have hend := slashesAtEnd_concat 0 start hlast []
    rw [List.append_nil] at hshown hend
    rw [hshown, hend] at hinert
    simpa [shownFrom, slashes, slashesAtEnd] using hinert

/-! ### Inert parts are rendered -/

theorem balanced_texts {opened : Nat} {found : List Token} (h : Balanced opened found)
    (texts : List (List Char)) : Balanced opened (texts.map .text ++ found) := by
  induction texts with
  | nil => exact h
  | cons chars texts ih => exact .text chars ih

theorem Inert.settled {opened : Nat} (h : Inert 0 text tail after shown)
    (htail : ∀ position, Balanced opened (tokensFrom position after 0 tail)) :
    Settled opened (text ++ tail) := by
  intro position
  obtain ⟨texts, htokens, -⟩ := h position
  rw [htokens]
  exact balanced_texts (htail _) texts

theorem flatMap_shown_texts (texts : List (List Char)) :
    (texts.map Token.text).flatMap Token.shown = sanitize texts.flatten := by
  induction texts with
  | nil => rfl
  | cons chars texts ih =>
    rw [List.map_cons, List.flatMap_cons, ih, List.flatten_cons, sanitize_append]
    rfl

theorem Inert.shows (h : Inert before text tail after shown) (htail : Shows after tail more) :
    Shows before (text ++ tail) (sanitize shown ++ more) := by
  intro position
  obtain ⟨texts, htokens, hshown⟩ := h position
  rw [htokens, List.flatMap_append, flatMap_shown_texts, hshown, htail]

end Inert

/-! ### Parts of a template -/

section Parts

variable {before : Nat} {rest shown : List Char}

theorem shows_nil (before : Nat) : Shows before [] (slashes before) := by
  intro position
  simp [tokensFrom, Token.shown, sanitize_slashes]

/-- Plain text that does not end in a backslash is shown as it is. -/
theorem Shows.plain {plain : List Char} (hplain : '[' ∉ plain) (hlast : plain.getLast? ≠ some '\\')
    (h : Shows 0 rest shown) : Shows 0 (plain ++ rest) (sanitize plain ++ shown) :=
  (inert_of_last hplain hlast rest).shows h

/-- Half of the backslashes before a tag are shown, if their number is even. -/
theorem Shows.tag_of_even {content : List Char} (htag : IsTag content) (heven : before % 2 = 0)
    (h : Shows 0 rest shown) :
    Shows before (bracketed content ++ rest) (slashes (before / 2) ++ shown) := by
  intro position
  rw [tokensFrom_tag htag, if_pos heven, List.flatMap_cons, List.flatMap_cons, h, Token.shown,
    Token.shown, sanitize_slashes, List.nil_append]

theorem Shows.tag {content : List Char} (htag : IsTag content) (h : Shows 0 rest shown) :
    Shows 0 (bracketed content ++ rest) shown := h.tag_of_even htag rfl

/-- A tag after an odd number of backslashes is plain text, and half of them are shown. -/
theorem Shows.literal {content : List Char} (htag : IsTag content) (hodd : before % 2 = 1)
    (h : Shows 0 rest shown) :
    Shows before (bracketed content ++ rest)
      (slashes (before / 2) ++ (sanitize (bracketed content) ++ shown)) := by
  have hshows := (inert_tag htag hodd).shows h
  rwa [sanitize_append, sanitize_slashes, List.append_assoc] at hshows

end Parts

/-- A text that is shown as it is where it stands in a template: without a bracket, without
characters that are not printed or that are laid out, and without a backslash at its end. -/
structure Literal (text : List Char) : Prop where
  bracket : '[' ∉ text
  lineFeed : '\n' ∉ text
  tab : '\t' ∉ text
  printed : ∀ c ∈ text, isDropped c = false
  last : text.getLast? ≠ some '\\'

instance (text : List Char) : Decidable (Literal text) :=
  decidable_of_iff ('[' ∉ text ∧ '\n' ∉ text ∧ '\t' ∉ text ∧ text.any isDropped = false ∧
      text.getLast? ≠ some '\\')
    ⟨fun h => ⟨h.1, h.2.1, h.2.2.1, fun c hc => by simpa using List.any_eq_false.mp h.2.2.2.1 c hc,
        h.2.2.2.2⟩,
      fun h => ⟨h.bracket, h.lineFeed, h.tab,
        List.any_eq_false.mpr fun c hc => by simp [h.printed c hc], h.last⟩⟩

theorem Literal.sanitize {text : List Char} (h : Literal text) : sanitize text = text := by
  refine List.filter_eq_self.mpr fun c hc => ?_
  rw [h.printed c hc]
  rfl

theorem Literal.inert {text : List Char} (h : Literal text) (tail : List Char) :
    Inert 0 text tail 0 text := inert_of_last h.bracket h.last tail

theorem Literal.shows {plain rest shown : List Char} (h : Literal plain)
    (hrest : Shows 0 rest shown) :
    Shows 0 (plain ++ rest) (plain ++ shown) := by
  have hshows : Shows 0 (plain ++ rest) (Console.sanitize plain ++ shown) :=
    hrest.plain h.bracket h.last
  rwa [h.sanitize] at hshows

theorem Literal.append {first second : List Char} (h : Literal first) (hsecond : Literal second) :
    Literal (first ++ second) where
  bracket hmem := (List.mem_append.mp hmem).elim h.bracket hsecond.bracket
  lineFeed hmem := (List.mem_append.mp hmem).elim h.lineFeed hsecond.lineFeed
  tab hmem := (List.mem_append.mp hmem).elim h.tab hsecond.tab
  printed c hc := (List.mem_append.mp hc).elim (h.printed c) (hsecond.printed c)
  last hlast := by
    rw [List.getLast?_append, Option.or_eq_some_iff] at hlast
    exact hlast.elim hsecond.last fun hfirst => h.last hfirst.2

/-- The characters that a literal text is without, a backslash only at its end. -/
def specials : List Char := ['[', '\n', '\t', '\\', '\x07', '\x08', '\x0b', '\x0c', '\x0d']

theorem mem_specials_of_isDropped {c : Char} (h : isDropped c = true) : c ∈ specials := by
  have hchar : Char.ofNat c.toNat = c := Char.ofNat_toNat c
  have hcode : c.toNat ∈ [7, 8, 11, 12, 13] := List.contains_iff_mem.mp h
  generalize c.toNat = code at hchar hcode
  subst hchar
  revert code
  decide

/-- A text of characters of a class that leaves the special ones out is literal. -/
theorem literal_of_forall {p : Char → Bool} {text : List Char} (h : ∀ c ∈ text, p c = true)
    (hp : specials.any p = false) : Literal text := by
  have hnone {c : Char} (hc : c ∈ specials) : c ∉ text := by
    intro hmem
    exact List.any_eq_false.mp hp c hc (h c hmem)
  refine ⟨hnone (by decide), hnone (by decide), hnone (by decide), fun c hc => ?_, fun hlast => ?_⟩
  · cases hdropped : isDropped c with
    | false => rfl
    | true => exact absurd hc (hnone (mem_specials_of_isDropped hdropped))
  · exact hnone (by decide) (List.mem_of_getLast? hlast)

end ClipCadence.Console.Markup
