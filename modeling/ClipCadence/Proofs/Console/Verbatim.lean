import ClipCadence.Proofs.Console.Notices

/-!
Errors as they are shown. The message of an error and the notice of a failed write end in a text
from outside, and the escape that keeps tags in it from taking effect is not undone in all places:
the backslash before a bracket that starts no tag is lost, two or more backslashes at the end are
halved, and if their number is odd the closing tag is shown behind them. What is lost are
backslashes only, so it is found by counting them.

Main statement: `shown_verbatim_iff`, which texts are shown as they are.
-/

namespace ClipCadence.Console

open Markup Messages Number

/-- Texts that are shown as they are at the end of a message. -/
structure Verbatim (text : List Char) : Prop where
  printed : ∀ c ∈ text, isDropped c = false
  tab : '\t' ∉ text
  /-- A bracket after a backslash starts a tag. -/
  bracket : ∀ after, '\\' :: '[' :: after <:+ text → (tag? after).isSome = true
  /-- There are no two backslashes at the end. -/
  ending : ¬['\\', '\\'] <:+ text

/-- A text that does not start with a backslash that is lost. -/
def slashKept : List Char → Bool
  | '\\' :: '[' :: after => (tag? after).isSome
  | _ => true

instance (text : List Char) : Decidable (Verbatim text) :=
  have hbracket : (∀ part ∈ text.tails, slashKept part = true) ↔
      ∀ after, '\\' :: '[' :: after <:+ text → (tag? after).isSome = true := by
    simp only [List.mem_tails]
    refine ⟨fun h after => h _, fun h part hpart => ?_⟩
    unfold slashKept
    split
    · exact h _ hpart
    · rfl
  decidable_of_iff (text.any isDropped = false ∧ '\t' ∉ text ∧
      (∀ part ∈ text.tails, slashKept part = true) ∧ ¬['\\', '\\'] <:+ text)
    ⟨fun h => ⟨fun c hc => by simpa using List.any_eq_false.mp h.1 c hc, h.2.1,
        hbracket.mp h.2.2.1, h.2.2.2⟩,
      fun h => ⟨List.any_eq_false.mpr fun c hc => by simp [h.printed c hc], h.tab,
        hbracket.mpr h.bracket, h.ending⟩⟩

/-! ### Backslashes that are lost -/

theorem count_slashes_self (n : Nat) : (slashes n).count '\\' = n := by
  rw [slashes, List.count_replicate_self]

/-- There are no more backslashes in what is shown of a text than in the text. -/
theorem count_slash_shownFrom_le (before : Nat) (text : List Char) :
    (shownFrom before text).count '\\' + slashesAtEnd before text ≤ before + text.count '\\' := by
  induction text generalizing before with
  | nil => simp [shownFrom, slashesAtEnd]
  | cons c rest ih =>
    rw [shownFrom, slashesAtEnd, List.foldl_cons, ← slashesAtEnd]
    split
    · next hslash =>
      have hrest := ih (before + 1)
      rw [hslash, List.count_cons_self]
      omega
    · next hslash =>
      have hrest := ih 0
      have hother : (c == '\\') = false := by simpa using hslash
      split
      · next hbracket =>
        subst hbracket
        rw [List.count_append, count_slashes_self, List.count_cons, List.count_cons, hother]
        split <;> simp <;> omega
      · rw [List.count_append, count_slashes_self, List.count_cons, List.count_cons, hother]
        simp
        omega

/-- If none is lost, each bracket after a backslash starts a tag. -/
theorem bracket_of_count {text : List Char}
    (h : text.count '\\' ≤ (shownFrom 0 text).count '\\' + slashesAtEnd 0 text)
    (after : List Char) (hafter : '\\' :: '[' :: after <:+ text) : (tag? after).isSome = true := by
  by_contra hnone
  obtain ⟨front, htext⟩ := hafter
  -- One backslash is lost at this bracket, and no part on either side can make up for it.
  have hslashes : slashesAtEnd 0 (front ++ ['\\']) = slashesAtEnd 0 front + 1 := by
    rw [slashesAtEnd_last, if_pos rfl]
  have hsplit : text = (front ++ ['\\']) ++ '[' :: after := by rw [← htext]; simp
  have hend : slashesAtEnd 0 text = slashesAtEnd 0 after := by
    have hconcat := slashesAtEnd_concat 0 (front ++ ['\\']) (by decide : '[' ≠ '\\') after
    rwa [List.append_assoc (front ++ ['\\']), List.singleton_append, ← hsplit] at hconcat
  have hshown : (shownFrom 0 text).count '\\' = (shownFrom 0 (front ++ ['\\'])).count '\\' +
      (slashesAtEnd 0 front + (shownFrom 0 after).count '\\') := by
    rw [hsplit, shownFrom_append_bracket, hslashes, shownFrom, if_neg (by decide), if_pos rfl,
      if_neg hnone, List.count_append, List.count_append, count_slashes_self, List.count_cons]
    simp
  have hcount : text.count '\\' = (front ++ ['\\']).count '\\' + after.count '\\' := by
    rw [hsplit, List.count_append, List.count_cons]
    simp
  have hfront := count_slash_shownFrom_le 0 (front ++ ['\\'])
  have hafter := count_slash_shownFrom_le 0 after
  omega

/-- Where each bracket after a backslash starts a tag, no backslash is lost. -/
theorem shownFrom_of_bracket {before : Nat} {text : List Char}
    (h : ∀ after, '\\' :: '[' :: after <:+ slashes before ++ text → (tag? after).isSome = true) :
    shownFrom before text ++ slashes (slashesAtEnd before text) = slashes before ++ text := by
  induction text generalizing before with
  | nil => exact (List.append_nil _).symm
  | cons c rest ih =>
    have hrest (hplain : c ≠ '\\') :
        shownFrom 0 rest ++ slashes (slashesAtEnd 0 rest) = rest := by
      refine ih fun after hafter => h after (hafter.trans ?_)
      exact (List.suffix_cons c rest).trans (List.suffix_append (slashes before) (c :: rest))
    rw [shownFrom, slashesAtEnd, List.foldl_cons, ← slashesAtEnd]
    split
    · next hslash =>
      subst hslash
      have hmore : slashes before ++ '\\' :: rest = slashes (before + 1) ++ rest :=
        (slashes_succ_append before rest).symm
      rw [hmore] at h ⊢
      exact ih h
    · next hslash =>
      split
      · next hbracket =>
        subst hbracket
        have hkept : (if (tag? rest).isSome then before else before - 1) = before := by
          cases before with
          | zero => exact ite_self 0
          | succ n =>
            rw [slashes_succ_append] at h
            exact if_pos (h rest (List.suffix_append (slashes n) _))
        rw [hkept, List.append_assoc, List.cons_append, hrest hslash]
      · rw [List.append_assoc, List.cons_append, hrest hslash]

theorem suffix_concat_slash_iff (slashes start : List Char) (last : Char) :
    slashes ++ ['\\'] <:+ start ++ [last] ↔ last = '\\' ∧ slashes <:+ start := by
  rw [← List.reverse_prefix]
  simp [eq_comm]

theorem slashesAtEnd_eq_zero_iff (text : List Char) :
    slashesAtEnd 0 text = 0 ↔ ¬['\\'] <:+ text := by
  rcases List.eq_nil_or_concat text with rfl | ⟨start, last, rfl⟩
  · decide
  · rw [List.concat_eq_append, slashesAtEnd_last, ← List.nil_append ['\\'],
      suffix_concat_slash_iff]
    split <;> simp_all

theorem slashesAtEnd_le_one_iff (text : List Char) :
    slashesAtEnd 0 text ≤ 1 ↔ ¬['\\', '\\'] <:+ text := by
  rcases List.eq_nil_or_concat text with rfl | ⟨start, last, rfl⟩
  · decide
  · have hpair : ['\\', '\\'] = ['\\'] ++ ['\\'] := rfl
    rw [List.concat_eq_append, slashesAtEnd_last, hpair, suffix_concat_slash_iff]
    split
    · next hslash =>
      have hzero : slashesAtEnd 0 start + 1 ≤ 1 ↔ slashesAtEnd 0 start = 0 := by omega
      rw [hzero, slashesAtEnd_eq_zero_iff, hslash]
      simp
    · next hother => simp [hother]

/-! ### The end of a message -/

/-- What is shown of a text from outside at the end of a message. -/
def ended (text : List Char) : List Char := outside text ++ closingShown (endingSlashes text)

theorem mem_ended {c : Char} {text : List Char} (hc : c ∈ ended text) :
    c ∈ text ∨ c ∈ "\\[/]".toList := by
  have hslash (n : Nat) : c ∈ slashes n → c ∈ "\\[/]".toList := by
    intro hmem
    rw [(List.mem_replicate.mp hmem).2]
    decide
  rcases List.mem_append.mp hc with htext | hclosing
  · have hshown : c ∈ shownFrom 0 text := (List.mem_filter.mp htext).1
    by_cases hc : c = '\\'
    · exact .inr (hslash 1 (hc ▸ List.mem_singleton_self _))
    · rw [← List.count_pos_iff, count_shownFrom hc, List.count_pos_iff] at hshown
      exact .inl hshown
  · rw [closingShown] at hclosing
    rcases List.mem_append.mp hclosing with hmem | hmem
    · exact .inr (hslash _ hmem)
    · split at hmem
      · cases hmem
      · exact .inr (List.mem_cons_of_mem _ hmem)

theorem notMem_ended {c : Char} {text : List Char} (hc : c ∉ "\\[/]".toList) (h : c ∉ text) :
    c ∉ ended text := fun hmem => (mem_ended hmem).elim h hc

/-- Without characters that are never printed all of what is read is shown. -/
theorem outside_of_printed {text : List Char} (h : ∀ c ∈ text, isDropped c = false) :
    outside text = shownFrom 0 text := by
  refine List.filter_eq_self.mpr fun c hc => ?_
  by_cases hslash : c = '\\'
  · rw [hslash]
    decide
  · rw [← List.count_pos_iff, count_shownFrom hslash, List.count_pos_iff] at hc
    rw [h c hc]
    rfl

theorem count_slash_closingShown (before : Nat) :
    (closingShown before).count '\\' = before / 2 := by
  rw [closingShown, List.count_append, count_slashes_self]
  split <;> simp

theorem ended_of_verbatim {text : List Char} (h : Verbatim text) : ended text = text := by
  have hread : shownFrom 0 text ++ slashes (slashesAtEnd 0 text) = text :=
    shownFrom_of_bracket h.bracket
  have hclosing : closingShown (endingSlashes text) = slashes (slashesAtEnd 0 text) := by
    have hend := (slashesAtEnd_le_one_iff text).mpr h.ending
    rw [endingSlashes]
    rcases Nat.le_one_iff_eq_zero_or_eq_one.mp hend with hnone | hone
    · rw [hnone]
      rfl
    · rw [hone]
      rfl
  rw [ended, outside_of_printed h.printed, hclosing, hread]

theorem verbatim_of_ended {text : List Char} (htab : '\t' ∉ text) (h : ended text = text) :
    Verbatim text := by
  have hprinted : ∀ c ∈ text, isDropped c = false := by
    have hsanitize : sanitize text = text := by
      have hfiltered : sanitize (ended text) = ended text := by
        rw [ended, sanitize_append, sanitize_closingShown, outside]
        simp [sanitize]
      rwa [h] at hfiltered
    exact fun c hc => by simpa using List.filter_eq_self.mp hsanitize c hc
  have hcount : text.count '\\' = (shownFrom 0 text).count '\\' + endingSlashes text / 2 := by
    rw [← count_slash_closingShown, ← outside_of_printed hprinted, ← List.count_append, ← ended, h]
  -- Of the backslashes at the end half are shown, and a single one in full. So all are shown
  -- there only if there is at most one, and then none is lost before a bracket.
  have hkept := count_slash_shownFrom_le 0 text
  have hend : slashesAtEnd 0 text ≤ 1 ∧ endingSlashes text / 2 = slashesAtEnd 0 text := by
    revert hcount
    rw [endingSlashes]
    split <;> omega
  exact ⟨hprinted, htab, bracket_of_count (by omega), (slashesAtEnd_le_one_iff text).mp hend.1⟩

/-- The messages with nothing after the text from outside. -/
def Message.EndsInText : Message → Prop
  | .error | .failure _ => True
  | .header .. => False

theorem Message.EndsInText.shown_eq {message : Message} (h : message.EndsInText)
    (text : List Char) : message.slot.shown text = message.slot.lead ++ ended text := by
  rw [Slot.shown_eq]
  cases message with
  | error => rfl
  | failure index => rfl
  | header count delay => exact h.elim

/-- A text without a line feed at the end of a message, on a console where the line fits. The line
is what is shown of the text after the words of the message, with its tabs filled up, and it shows
the text as it is if and only if the text is `Verbatim`. -/
theorem shown_verbatim_iff (message : Message) (hmessage : message.EndsInText) (text : List Char)
    (hline : '\n' ∉ text) {width : Nat} (hwidth : 0 < width)
    (hfits : Fits width (message.slot.lead ++ ended text)) :
    printed width (message.template text) = .ok [withTabs (message.slot.lead ++ ended text)] ∧
    (printed width (message.template text) = .ok [message.slot.lead ++ text] ↔ Verbatim text) := by
  have hlead := message.slot.literal_lead
  have hprinted : printed width (message.template text) =
      .ok [withTabs (message.slot.lead ++ ended text)] := by
    have hone : '\n' ∉ message.slot.lead ++ ended text := by
      rw [List.mem_append, not_or]
      exact ⟨hlead.lineFeed, notMem_ended (by decide) hline⟩
    rw [← wholeLines_of_notMem hone]
    rw [← hmessage.shown_eq] at hfits ⊢
    exact printed_fits (message.settled text) (message.shows text) hwidth hfits
  have hplain (htab : '\t' ∉ text) :
      withTabs (message.slot.lead ++ ended text) = message.slot.lead ++ ended text := by
    refine withTabs_of_notMem ?_
    rw [List.mem_append, not_or]
    exact ⟨hlead.tab, notMem_ended (by decide) htab⟩
  refine ⟨hprinted, ?_⟩
  rw [hprinted]
  constructor
  case mp =>
    intro hshown
    have hsame : withTabs (message.slot.lead ++ ended text) = message.slot.lead ++ text := by
      simpa using hshown
    -- There is no tab in a line of the console, so none in the text if it is shown as it is.
    have htab : '\t' ∉ text := by
      have hnone := notMem_withTabs (message.slot.lead ++ ended text)
      rw [hsame, List.mem_append, not_or] at hnone
      exact hnone.2
    rw [hplain htab] at hsame
    exact verbatim_of_ended htab (List.append_cancel_left hsame)
  case mpr =>
    intro hverbatim
    rw [hplain hverbatim.tab, ended_of_verbatim hverbatim]

/-- A message of the operating system with the path of a file in it. -/
theorem path_shown_verbatim :
    printed 80 (failureTemplate 1 "[Errno 2] No such file: 'C:\\Temp\\new[1].txt'".toList) =
      .ok ["⚠️  Item 1 not copied: [Errno 2] No such file: 'C:\\Temp\\new[1].txt'".toList] := by
  let message := Message.failure 1
  let text := "[Errno 2] No such file: 'C:\\Temp\\new[1].txt'".toList
  have hlines : wholeLines (message.slot.lead ++ ended text) =
      ["⚠️  Item 1 not copied: [Errno 2] No such file: 'C:\\Temp\\new[1].txt'".toList] := by
    decide +kernel
  have hfits : Fits 80 (message.slot.lead ++ ended text) := by
    unfold Fits
    rw [hlines]
    decide +kernel
  have hlead : message.slot.lead ++ text =
      "⚠️  Item 1 not copied: [Errno 2] No such file: 'C:\\Temp\\new[1].txt'".toList := by
    decide +kernel
  rw [← hlead]
  exact (shown_verbatim_iff message trivial text (by decide) (by decide) hfits).2.mpr
    (by decide +kernel)

/-- Three backslashes at the end of an error: one is shown, and the closing tag after it. -/
theorem ending_slashes_lost :
    printed 80 (failureTemplate 1 "C:\\\\\\".toList) =
        .ok ["⚠️  Item 1 not copied: C:\\[/]".toList] ∧
      "⚠️  Item 1 not copied: C:\\[/]".toList ≠ failureFront 1 ++ "C:\\\\\\".toList := by
  have hlines : wholeLines (failureShown 1 "C:\\\\\\".toList) =
      ["⚠️  Item 1 not copied: C:\\[/]".toList] := by decide +kernel
  have hfits : Fits 80 (failureShown 1 "C:\\\\\\".toList) := by
    unfold Fits
    rw [hlines]
    decide +kernel
  have hsettled := Message.settled (.failure 1) "C:\\\\\\".toList
  have hprinted := printed_fits hsettled (shows_failure 1 _) (by decide) hfits
  rw [hlines] at hprinted
  exact ⟨hprinted, by decide⟩

end ClipCadence.Console
