import ClipCadence.Console.Markup
import ClipCadence.Proofs.Fallible
import Mathlib.Data.List.TakeDrop
import Mathlib.Data.List.TakeWhile

/-!
Markup that can be rendered. Rendering fails at tags only, so what has to be known of a template is
which tags stand in it: `Balanced` are the tokens that open styles with names of their own and
close no more than are open. A template is taken apart into tags and into parts without a bracket.

Main statement: `render_settled`, a template with balanced tokens is rendered, with styles that can
be shown.
-/

namespace ClipCadence.Console.Markup

open Text

/-! ### Names of styles -/

theorem check_ne_emptyNumber (holds : Bool) : StyleName.check holds ≠ .error .emptyNumber := by
  cases holds <;> simp [StyleName.check]

theorem color_ne_emptyNumber {word : List Char} (h : StyleName.argument? "rgb(" word = none) :
    StyleName.color word ≠ .error .emptyNumber := by
  unfold StyleName.color
  split
  · next hparts => rw [h] at hparts; cases hparts
  · apply check_ne_emptyNumber

/-- Words without a colour that is given by numbers miss none of its numbers. -/
theorem read_ne_emptyNumber {words : List (List Char)}
    (h : ∀ word ∈ words, StyleName.argument? "rgb(" (lowerCase word) = none)
    (style : StyleName.Style) : StyleName.read style words ≠ .error .emptyNumber := by
  have hcolored {word : List Char} {rest : List (List Char)} {next : StyleName.Style}
      (hword : StyleName.argument? "rgb(" (lowerCase word) = none)
      (hrest : StyleName.read next rest ≠ .error .emptyNumber) :
      (do StyleName.color (lowerCase word); StyleName.read next rest) ≠ .error .emptyNumber := by
    intro hread
    rcases Fallible.bind_eq_error_iff.mp hread with hcolor | ⟨-, -, hfails⟩
    · exact color_ne_emptyNumber hword hcolor
    · exact hrest hfails
  fun_induction StyleName.read style words with
  | case1 | case3 | case5 | case6 | case8 => simp
  | case2 _ on _ _ word rest _ ih =>
    exact hcolored (h word (by simp)) (ih fun later hlater => h later (by simp [hlater]))
  | case4 _ _ _ _ _ _ rest _ _ ih | case7 _ _ _ _ _ _ _ rest ih =>
    exact ih fun later hlater => h later (by simp [hlater])
  | case9 _ _ rest _ _ _ _ _ _ ih => exact ih fun later hlater => h later (by simp [hlater])
  | case10 _ word rest _ _ _ _ _ ih =>
    exact hcolored (h word (by simp)) (ih fun later hlater => h later (by simp [hlater]))

/-- The content of a tag that opens a style: one with a name, and without parameters. -/
def Opens (content : List Char) : Prop :=
  content.head? ≠ some '/' ∧ '=' ∉ content ∧
    ∀ word ∈ StyleName.words content, StyleName.argument? "rgb(" (lowerCase word) = none

instance (content : List Char) : Decidable (Opens content) :=
  inferInstanceAs (Decidable (_ ∧ _ ∧ _))

theorem styleName_ok {content : List Char} (h : Opens content) :
    ∃ name, styleName content = .ok name := by
  have hnormal : (StyleName.normal? content).isSome = true := by
    unfold StyleName.normal?
    split
    · rfl
    · next found hfound =>
      have hread := read_ne_emptyNumber h.2.2 ⟨[], none, none, none⟩
      cases hresult : StyleName.read ⟨[], none, none, none⟩ (StyleName.words content) with
      | ok style => rfl
      | error flaw =>
        cases flaw with
        | unknown => rfl
        | emptyNumber => exact absurd hresult hread
  obtain ⟨name, hname⟩ := Option.isSome_iff_exists.mp hnormal
  exact ⟨name, by rw [styleName, hname]⟩

/-! ### Tokens that can be rendered -/

/-- Tokens that close no more styles than are open, the given ones included. -/
inductive Balanced : (opened : Nat) → List Token → Prop where
  | nil (opened : Nat) : Balanced opened []
  | text {opened : Nat} {rest : List Token} (chars : List Char) (h : Balanced opened rest) :
    Balanced opened (.text chars :: rest)
  | opening {opened : Nat} {content : List Char} {rest : List Token} (position : Nat)
    (hopens : Opens content) (h : Balanced (opened + 1) rest) :
    Balanced opened (.tag position content :: rest)
  | closing {opened : Nat} {rest : List Token} (position : Nat) (h : Balanced opened rest) :
    Balanced (opened + 1) (.tag position ['/'] :: rest)

theorem span_of_notMem {content : List Char} (h : '=' ∉ content) :
    content.span (· ≠ '=') = (content, []) := by
  have hall : ∀ c ∈ content, (decide (c ≠ '=')) = true := by
    intro c hc
    simpa using ne_of_mem_of_not_mem hc h
  rw [List.span_eq_takeWhile_dropWhile, List.takeWhile_eq_self_iff.mpr hall,
    List.dropWhile_eq_nil_iff.mpr hall]

theorem check_plain {style : Opened} (h : style.parameters = none) : style.check = .ok () := by
  unfold Opened.check
  split
  · next hparameters => rw [h] at hparameters; cases hparameters
  · rfl

theorem stretch_plain {style : Opened} (h : style.parameters = none) (length : Nat) :
    (style.stretch length).isFlawed = false := by
  rw [Opened.stretch, h]
  rfl

theorem renderTokens_opening {content : List Char} (hopens : Opens content) (length position : Nat)
    (opened : List Opened) (rest : List Token) :
    ∃ name, renderTokens length opened (.tag position content :: rest) =
      renderTokens length (⟨length, name, none⟩ :: opened) rest := by
  obtain ⟨name, hname⟩ := styleName_ok hopens
  refine ⟨name, ?_⟩
  rw [renderTokens, span_of_notMem hopens.2.1]
  dsimp only
  split
  · exact absurd rfl hopens.1
  · rw [hname]
    rfl

theorem renderTokens_closing {last : Opened} (h : last.parameters = none) (length position : Nat)
    (opened : List Opened) (rest : List Token) :
    renderTokens length (last :: opened) (.tag position ['/'] :: rest) =
      (renderTokens length opened rest).map fun text =>
        { text with styles := last.stretch length :: text.styles } := by
  rw [renderTokens]
  show (do
    last.check
    let text ← renderTokens length ((last :: opened).erase last) rest
    return { text with styles := last.stretch length :: text.styles }) = _
  rw [check_plain h, List.erase_cons_head]
  cases renderTokens length opened rest <;> rfl

/-- Balanced tokens can be rendered, with styles that can be shown. -/
theorem renderTokens_balanced {opened : List Opened} {found : List Token}
    (h : Balanced opened.length found) (hplain : ∀ style ∈ opened, style.parameters = none)
    (length : Nat) :
    ∃ text, renderTokens length opened found = .ok text ∧ text.isFlawed = false := by
  generalize hn : opened.length = n at h
  induction h generalizing opened length with
  | nil n =>
    refine ⟨_, rfl, ?_⟩
    simpa [Styled.isFlawed] using fun style hstyle => stretch_plain (hplain style hstyle) length
  | text chars h ih =>
    obtain ⟨text, hrun, hclean⟩ := ih hplain (length + (sanitize chars).length) hn
    refine ⟨{ text with chars := sanitize chars ++ text.chars }, ?_, hclean⟩
    rw [renderTokens, hrun]
    rfl
  | @opening n content rest position hopens h ih =>
    obtain ⟨name, hname⟩ := renderTokens_opening hopens length position opened rest
    let style : Opened := ⟨length, name, none⟩
    have hall : ∀ other ∈ style :: opened, other.parameters = none :=
      List.forall_mem_cons.mpr ⟨rfl, hplain⟩
    obtain ⟨text, hrun, hclean⟩ := ih hall length (congrArg (· + 1) hn)
    exact ⟨text, hname.trans hrun, hclean⟩
  | @closing n rest position h ih =>
    obtain _ | ⟨last, others⟩ := opened
    · cases hn
    · obtain ⟨hlast, hothers⟩ := List.forall_mem_cons.mp hplain
      obtain ⟨text, hrun, hclean⟩ := ih hothers length (Nat.succ.inj hn)
      refine ⟨{ text with styles := last.stretch length :: text.styles }, ?_, ?_⟩
      · rw [renderTokens_closing hlast, hrun]
        rfl
      · simpa [Styled.isFlawed, stretch_plain hlast] using hclean

/-! ### Tokens that cannot be rendered -/

/-- Whether tokens come to a tag that closes the last style when no style is open, and open only
styles with names of their own before. -/
def overcloses : (opened : Nat) → List Token → Bool
  | _, [] => false
  | opened, .text _ :: rest => overcloses opened rest
  | 0, .tag _ content :: rest =>
    content = ['/'] || (decide (Opens content) && overcloses 1 rest)
  | opened + 1, .tag _ content :: rest =>
    if content = ['/'] then overcloses opened rest
    else decide (Opens content) && overcloses (opened + 2) rest

/-- Tokens that close too much cannot be rendered. -/
theorem renderTokens_overcloses {opened : List Opened} {found : List Token}
    (h : overcloses opened.length found = true)
    (hplain : ∀ style ∈ opened, style.parameters = none) (length : Nat) :
    ∃ position, renderTokens length opened found = .error (.nothingToClose position) := by
  induction found generalizing opened length with
  | nil => simp [overcloses] at h
  | cons token rest ih =>
    cases token with
    | text chars =>
      obtain ⟨position, hfails⟩ := ih (by simpa [overcloses] using h) hplain
        (length + (sanitize chars).length)
      exact ⟨position, by rw [renderTokens, hfails]; rfl⟩
    | tag position content =>
      by_cases hclosing : content = ['/']
      · subst hclosing
        obtain _ | ⟨last, others⟩ := opened
        · exact ⟨position, rfl⟩
        · obtain ⟨hlast, hothers⟩ := List.forall_mem_cons.mp hplain
          obtain ⟨place, hfails⟩ := ih (by simpa [overcloses] using h) hothers length
          exact ⟨place, by rw [renderTokens_closing hlast, hfails]; rfl⟩
      · obtain ⟨hopens, hrest⟩ : Opens content ∧ overcloses (opened.length + 1) rest = true := by
          cases opened <;> simpa [overcloses, hclosing] using h
        obtain ⟨name, hname⟩ := renderTokens_opening hopens length position opened rest
        let style : Opened := ⟨length, name, none⟩
        have hall : ∀ other ∈ style :: opened, other.parameters = none :=
          List.forall_mem_cons.mpr ⟨rfl, hplain⟩
        have hmore : overcloses (style :: opened).length rest = true := hrest
        obtain ⟨place, hfails⟩ := ih hmore hall length
        exact ⟨place, hname.trans hfails⟩

/-! ### Tags -/

def isBracket (c : Char) : Bool := c = '[' || c = ']'

/-- The content of a tag. -/
structure IsTag (content : List Char) : Prop where
  starts : content.head?.any startsTag = true
  inside : content.all (!isBracket ·) = true

/-- Whether the first bracket of a text is a closing one. -/
def closesFirst (text : List Char) : Bool := (text.dropWhile (!isBracket ·)).head? = some ']'

theorem closesFirst_cons (c : Char) (rest : List Char) :
    closesFirst (c :: rest) = if isBracket c then decide (c = ']') else closesFirst rest := by
  rw [closesFirst, List.dropWhile_cons]
  cases h : isBracket c <;> simp [closesFirst]

theorem closesFirst_append {inside : List Char} (h : inside.all (!isBracket ·) = true)
    (rest : List Char) : closesFirst (inside ++ rest) = closesFirst rest := by
  rw [closesFirst, List.dropWhile_append_of_pos (List.all_eq_true.mp h), closesFirst]

theorem startsTag_isBracket {c : Char} (h : startsTag c = true) : isBracket c = false := by
  have hopen : c ≠ '[' := by rintro rfl; exact absurd h (by decide)
  have hclose : c ≠ ']' := by rintro rfl; exact absurd h (by decide)
  simp [isBracket, hopen, hclose]

theorem tag?_cons (c : Char) (rest : List Char) :
    tag? (c :: rest) =
      if startsTag c && closesFirst rest then some (c :: rest.takeWhile (!isBracket ·))
      else none := by
  have hbody : (rest.takeWhile fun c => c ≠ '[' && c ≠ ']') = rest.takeWhile (!isBracket ·) := by
    congr 1
    funext c
    simp [isBracket]
  have hdrop : rest.drop (rest.takeWhile (!isBracket ·)).length =
      rest.dropWhile (!isBracket ·) := by
    have happend := List.takeWhile_append_dropWhile (p := (!isBracket ·)) (l := rest)
    exact (congrArg (List.drop _) happend.symm).trans List.drop_left
  rw [tag?]
  dsimp only
  rw [hbody, hdrop, closesFirst]
  cases startsTag c <;> simp

theorem tag?_eq_some_iff {text content : List Char} :
    tag? text = some content ↔ IsTag content ∧ ∃ rest, text = content ++ ']' :: rest := by
  constructor
  · intro h
    obtain _ | ⟨c, rest⟩ := text
    · cases h
    · rw [tag?_cons] at h
      split at h
      · next hstarts =>
        obtain ⟨hc, hcloses⟩ := Bool.and_eq_true_iff.mp hstarts
        obtain ⟨after, hafter⟩ := List.head?_eq_some_iff.mp (of_decide_eq_true hcloses)
        obtain rfl := Option.some.inj h
        have hinside : (c :: rest.takeWhile (!isBracket ·)).all (!isBracket ·) = true := by
          rw [List.all_cons, startsTag_isBracket hc, List.all_takeWhile]
          rfl
        refine ⟨⟨by simpa using hc, hinside⟩, after, ?_⟩
        rw [List.cons_append, ← hafter, List.takeWhile_append_dropWhile]
      · cases h
  · rintro ⟨htag, rest, rfl⟩
    obtain _ | ⟨c, body⟩ := content
    · exact absurd htag.starts (by simp)
    · have hc : startsTag c = true := by simpa using htag.starts
      obtain ⟨-, hbody⟩ := Bool.and_eq_true_iff.mp htag.inside
      have hcloses : closesFirst (body ++ ']' :: rest) = true := by
        rw [closesFirst_append hbody]
        rfl
      have htake : (body ++ ']' :: rest).takeWhile (!isBracket ·) = body := by
        rw [List.takeWhile_append_of_pos (List.all_eq_true.mp hbody)]
        simp [isBracket]
      rw [List.cons_append, tag?_cons, hc, hcloses, htake]
      rfl

/-- A tag is one whatever follows it. -/
theorem tag?_append {content : List Char} (h : IsTag content) (rest : List Char) :
    tag? (content ++ ']' :: rest) = some content := tag?_eq_some_iff.mpr ⟨h, rest, rfl⟩

/-- No tag starts where the first bracket is not a closing one. -/
theorem tag?_eq_none {text : List Char} (h : closesFirst text = false) : tag? text = none := by
  cases hfound : tag? text with
  | none => rfl
  | some content =>
    obtain ⟨htag, rest, rfl⟩ := tag?_eq_some_iff.mp hfound
    rw [closesFirst_append htag.inside] at h
    cases h

/-! ### Parts of a template -/

/-- A part of a template that is rendered after any number of backslashes, if so many styles are
open before it. -/
def Safe (opened : Nat) (text : List Char) : Prop :=
  ∀ position before, Balanced opened (tokensFrom position before 0 text)

/-- A part of a template that is rendered after anything but a backslash. -/
def Settled (opened : Nat) (text : List Char) : Prop :=
  ∀ position, Balanced opened (tokensFrom position 0 0 text)

section Parts

variable {opened : Nat} {rest : List Char}

theorem Safe.settled (h : Safe opened rest) : Settled opened rest := fun position => h position 0

theorem safe_nil (opened : Nat) : Safe opened [] := fun _ _ => .text _ (.nil opened)

theorem Settled.cons {c : Char} (hslash : c ≠ '\\') (hbracket : c ≠ '[')
    (h : Settled opened rest) : Safe opened (c :: rest) := by
  intro position before
  rw [tokensFrom, if_neg hslash, if_neg hbracket]
  exact .text _ (h (position + 1))

theorem Safe.append {plain : List Char} (hplain : '[' ∉ plain) (h : Safe opened rest) :
    Safe opened (plain ++ rest) := by
  induction plain with
  | nil => exact h
  | cons c plain ih =>
    obtain ⟨hc, hplain⟩ := not_or.mp (List.mem_cons.not.mp hplain)
    intro position before
    rw [List.cons_append, tokensFrom]
    split
    · exact ih hplain (position + 1) (before + 1)
    · rw [if_neg (Ne.symm hc)]
      exact .text _ (ih hplain (position + 1) 0)

/-- Plain text that does not end in a backslash. -/
theorem Settled.append {plain : List Char} (hplain : '[' ∉ plain)
    (hlast : plain.getLast?.any (· ≠ '\\') = true) (h : Settled opened rest) :
    Safe opened (plain ++ rest) := by
  obtain ⟨c, hc, hslash⟩ := (Option.any_eq_true ..).mp hlast
  obtain ⟨before, rfl⟩ := List.getLast?_eq_some_iff.mp hc
  obtain ⟨hbefore, hbracket⟩ := not_or.mp (List.mem_append.not.mp hplain)
  rw [List.append_assoc]
  refine Safe.append hbefore (h.cons (by simpa using hslash) ?_)
  rintro rfl
  exact hbracket (by simp)

theorem tokensFrom_skip (position skip : Nat) {text : List Char} (h : skip ≤ text.length) :
    tokensFrom position 0 skip text = tokensFrom (position + skip) 0 0 (text.drop skip) := by
  induction skip generalizing position text with
  | zero => rfl
  | succ skip ih =>
    obtain _ | ⟨c, text⟩ := text
    · exact absurd h (by simp)
    · rw [tokensFrom, ih (position + 1) (Nat.le_of_succ_le_succ h), List.drop_succ_cons,
        Nat.add_right_comm, Nat.add_assoc]

theorem tokensFrom_slashes (position before n : Nat) (rest : List Char) :
    tokensFrom position before 0 (slashes n ++ rest) =
      tokensFrom (position + n) (before + n) 0 rest := by
  induction n generalizing position before with
  | zero => rfl
  | succ n ih =>
    show tokensFrom position before 0 ('\\' :: (slashes n ++ rest)) = _
    rw [tokensFrom, if_pos rfl, ih, Nat.add_right_comm, Nat.add_right_comm before]
    rfl

/-- The tokens of a tag and of what follows it. -/
theorem tokensFrom_tag {content : List Char} (h : IsTag content) (position before : Nat) :
    tokensFrom position before 0 (bracketed content ++ rest) =
      if before % 2 = 0 then
        .text (slashes (before / 2)) :: .tag position content ::
          tokensFrom (position + 1 + (content.length + 1)) 0 0 rest
      else
        .text (slashes (before / 2) ++ bracketed content) ::
          tokensFrom (position + 1 + (content.length + 1)) 0 0 rest := by
  have hbracketed : bracketed content ++ rest = '[' :: (content ++ ']' :: rest) := by
    simp [bracketed]
  have hlength : content.length + 1 ≤ (content ++ ']' :: rest).length := by simp
  have hdrop : (content ++ ']' :: rest).drop (content.length + 1) = rest := by
    simp [List.drop_append]
  rw [hbracketed, tokensFrom, if_neg (by decide), if_pos rfl, tag?_append h]
  dsimp only
  rw [tokensFrom_skip (position + 1) _ hlength, hdrop]

theorem Settled.opening {content : List Char} (htag : IsTag content) (hopens : Opens content)
    (h : Settled (opened + 1) rest) : Settled opened (bracketed content ++ rest) := by
  intro position
  rw [tokensFrom_tag htag, if_pos rfl]
  exact .text _ (.opening position hopens (h _))

/-- A tag that closes the last style. After an odd number of backslashes it is plain text, and the
style stays open. -/
theorem Settled.closing (h : ∀ opened, Settled opened rest) :
    Safe (opened + 1) (bracketed ['/'] ++ rest) := by
  intro position before
  rw [tokensFrom_tag ⟨by decide, by decide⟩]
  split
  · exact .text _ (.closing position (h opened _))
  · exact .text _ (h (opened + 1) _)

end Parts

/-! ### Templates -/

/-- A template that closes more styles than it has opened cannot be rendered. -/
theorem render_overcloses {template : List Char} (h : overcloses 0 (tokens template) = true) :
    ∃ position, render template = .error (.nothingToClose position) := by
  have hnone : ∀ style ∈ ([] : List Opened), style.parameters = none := by simp
  have hcloses : overcloses ([] : List Opened).length (tokens template) = true := h
  exact renderTokens_overcloses hcloses hnone 0

/-- A template that is safe with no style open can be rendered, with styles that can be shown. -/
theorem render_settled {template : List Char} (h : Settled 0 template) :
    ∃ text, render template = .ok text ∧ text.isFlawed = false := by
  have hnone : ∀ style ∈ ([] : List Opened), style.parameters = none := by simp
  have hbalanced : Balanced ([] : List Opened).length (tokens template) := h 0
  exact renderTokens_balanced hbalanced hnone 0

end ClipCadence.Console.Markup
