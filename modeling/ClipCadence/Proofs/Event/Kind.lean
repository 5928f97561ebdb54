import ClipCadence.Proofs.Event.Decoding
import ClipCadence.Proofs.Number.Characters

/-!
The kind of content of an event. A clipboard history looks at the whole payload for it, but what
stands behind the label in a payload does not count: it opens with a space, so no scheme reaches
into it, and it holds no letter, so a keyword that ends in a space can take that first space and
nothing more. Since there are spaces, a payload is never taken for a path or a password. So a run,
which has one label, puts one kind of content on the clipboard.

Main statement: `label_decides_kind`, for all labels and for the reports of all runs.
-/

namespace ClipCadence

open Number Text

/-- The kind of all events with a label. The payload goes on with a space, so a keyword may end
right behind the label. -/
def Event.kindOf (label : String) : ContentType :=
  if ∃ scheme ∈ ["http://", "https://"], scheme.toList <+: label.toList then .url
  else if ∃ word ∈ ["fn ", "impl ", "struct "], word.toList <:+: label.toList ++ [' '] then .code
  else .text

/-! ### Texts that go on with a space -/

section Spaced

variable {word label tail : List Char}

theorem prefix_spaced_iff (h : ' ' ∉ word) : word <+: label ++ ' ' :: tail ↔ word <+: label := by
  refine ⟨fun hword => ?_, fun hword => hword.trans (List.prefix_append _ _)⟩
  rcases List.prefix_or_prefix_of_prefix hword (List.prefix_append _ _) with hshort | ⟨rest, rfl⟩
  · exact hshort
  · rw [List.prefix_append_right_inj] at hword
    rcases List.prefix_cons_iff.mp hword with rfl | ⟨rest, rfl, -⟩
    · rw [List.append_nil]
    · exact absurd (by simp) h

/-- A word that ends in a letter and a space takes no more of what follows a text than the first
space, if that letter is not in there. -/
theorem infix_spaced_iff {last : Char} (hlast : last ≠ ' ') (htail : last ∉ tail) :
    word ++ [last, ' '] <:+: label ++ ' ' :: tail ↔ word ++ [last, ' '] <:+: label ++ [' '] := by
  constructor
  · rintro ⟨before, after, h⟩
    have hsplit : (before ++ word ++ [last]) ++ ' ' :: after = label ++ ' ' :: tail := by
      simpa using h
    rcases List.append_eq_append_iff.mp hsplit with ⟨rest, hlabel, hrest⟩ | ⟨rest, hword, hrest⟩
    · -- The word ends inside the label, or with the space behind it.
      cases rest with
      | nil => exact ⟨before, [], by simp [hlabel]⟩
      | cons c rest =>
        obtain ⟨rfl, -⟩ := List.cons.inj hrest
        exact ⟨before, rest ++ [' '], by simp [hlabel]⟩
    · -- The word ends behind that space, so its letter would have to be there as well.
      cases rest with
      | nil => exact ⟨before, [], by simpa using congrArg (· ++ [' ']) hword⟩
      | cons c rest =>
        obtain ⟨rfl, rfl⟩ := List.cons.inj hrest
        have hends : (' ' :: rest).getLast? = some last := by
          rw [← List.getLast?_append_of_ne_nil label (List.cons_ne_nil _ _), ← hword,
            List.getLast?_concat]
        rcases List.mem_cons.mp (List.mem_of_getLast? hends) with hspace | hrest
        · exact absurd hspace hlast
        · exact absurd (List.mem_append_left _ hrest) htail
  · rintro ⟨before, after, h⟩
    exact ⟨before, after ++ tail, by simpa using congrArg (· ++ tail) h⟩

end Spaced

theorem Number.numeric_padded (width n : Nat) : Numeric (Numeral.padded width n) :=
  numeric_append.mpr ⟨Layout.numeric_zeros _, numeric_toDigits n⟩

namespace ContentType

/-! ### The rules -/

theorem occurs_iff (word text : List Char) : occurs word text = true ↔ word <:+: text := by
  induction text with
  | nil => simp [occurs]
  | cons c rest ih => simp [occurs, ih, List.infix_cons_iff]

theorem isUrl_iff (text : List Char) :
    isUrl text = true ↔ ∃ scheme ∈ ["http://", "https://"], scheme.toList <+: text := by
  simp [isUrl, schemes]

theorem isCode_iff (text : List Char) :
    isCode text = true ↔ ∃ word ∈ ["fn ", "impl ", "struct "], word.toList <:+: text := by
  simp [isCode, keywords, occurs_iff]

/-- A text with a space in it is neither a path nor a password. -/
theorem classifyChars_spaced {text : List Char} (h : ' ' ∈ text) :
    classifyChars text = if isUrl text then .url else if isCode text then .code else .text := by
  simp [classifyChars, isPath, isPassword, h]

end ContentType

/-! ### Payloads -/

namespace Payload

/-- What stands behind a label and a space. -/
def stamp (index : Int) (moment : Moment) : List Char :=
  Numeral.write index ++ [' ', '-', ' '] ++ moment.clock

theorem write_eq_stamp (label : List Char) (index : Int) (moment : Moment) :
    write label index moment = label ++ ' ' :: stamp index moment := by
  simp [write, stamp]

theorem notMem_stamp {c : Char} (hnumeric : isNumeric c = false) (hspace : c ≠ ' ')
    (hcolon : c ≠ ':') (index : Int) (moment : Moment) : c ∉ stamp index moment := by
  have hwrite : c ∉ Numeral.write index := (numeric_write index).notMem hnumeric
  have hpadded (n : Nat) : c ∉ Numeral.padded 2 n := (numeric_padded 2 n).notMem hnumeric
  have hdash : c ≠ '-' := by
    rintro rfl
    cases hnumeric
  simp [stamp, Moment.clock, hwrite, hpadded, hspace, hcolon, hdash]

/-- No scheme has a space in it, so a scheme in front of a payload is one in front of its label. -/
theorem isUrl_write (label : List Char) (index : Int) (moment : Moment) :
    ContentType.isUrl (write label index moment) = true ↔
      ∃ scheme ∈ ["http://", "https://"], scheme.toList <+: label := by
  have hspace : ∀ scheme ∈ ["http://", "https://"], ' ' ∉ scheme.toList := by decide
  rw [ContentType.isUrl_iff, write_eq_stamp]
  exact exists_congr fun scheme => and_congr_right fun hscheme =>
    prefix_spaced_iff (hspace scheme hscheme)

/-- Every keyword ends in a letter and a space, and there are no letters behind the label. -/
theorem isCode_write (label : List Char) (index : Int) (moment : Moment) :
    ContentType.isCode (write label index moment) = true ↔
      ∃ word ∈ ["fn ", "impl ", "struct "], word.toList <:+: label ++ [' '] := by
  have hends : ∀ word ∈ ["fn ", "impl ", "struct "], ∃ front last,
      word.toList = front ++ [last, ' '] ∧ isNumeric last = false ∧ last ≠ ' ' ∧ last ≠ ':' := by
    simp only [List.forall_mem_cons]
    exact ⟨⟨['f'], 'n', by decide⟩, ⟨"imp".toList, 'l', by decide⟩,
      ⟨"struc".toList, 't', by decide⟩, fun _ h => absurd h List.not_mem_nil⟩
  rw [ContentType.isCode_iff, write_eq_stamp]
  refine exists_congr fun word => and_congr_right fun hword => ?_
  obtain ⟨front, last, hchars, hnumeric, hspace, hcolon⟩ := hends word hword
  rw [hchars, infix_spaced_iff hspace (notMem_stamp hnumeric hspace hcolon index moment)]

theorem classify_text (label : String) (index : Int) (moment : Moment) :
    ContentType.classify (text label index moment) = Event.kindOf label := by
  have hspace : ' ' ∈ write label.toList index moment := by simp [write]
  rw [ContentType.classify, text, String.toList_ofList, ContentType.classifyChars_spaced hspace,
    Event.kindOf]
  simp only [isUrl_write, isCode_write]

end Payload

/-! ### Reports -/

/-- A tally of one kind. -/
def Tally.only (kind : ContentType) (count : Nat) : Tally :=
  if count = 0 then [] else [(kind, count)]

theorem Tally.add_only (kind : ContentType) (count : Nat) :
    Tally.add kind (only kind count) = only kind (count + 1) := by
  cases count <;> simp [only, add]

theorem Run.tallyOf_written (s : Settings) (replies : List Reply) :
    tallyOf (written s replies) =
      Tally.only (Event.kindOf s.label) ((written s replies).countP Write.succeeds) := by
  induction replies using List.reverseRecOn with
  | nil => rfl
  | append_singleton past reply ih =>
    obtain ⟨moment, result⟩ := reply
    rw [written_append_singleton, tallyOf_append_singleton, ih, List.countP_append, Reply.write]
    cases result with
    | error error => rfl
    | ok done =>
      have hkind : ContentType.classify (wording s (past.length + 1) moment) =
          Event.kindOf s.label := by
        rw [wording_eq, Payload.classify_text]
      rw [tallyWrite, hkind, Tally.add_only]
      rfl

/-- **The label decides the kind of content.** An event that is counted from one can be made with
every label at every moment, and is a web address, code or plain text by its label alone. So a
report that counts some writes as successful has seen one kind of content, so many times, and any
other report none; whatever failed and wherever the run was told to stop. -/
theorem label_decides_kind :
    (∀ (label : String) (index : Int) (moment : Moment), 1 ≤ index →
      ∃ event, Event.create label index moment = .ok event ∧
        event.contentType = Event.kindOf label ∧
          event.contentType ∉ [.file, .password, .image, .other]) ∧
      ∀ (env : Run.Surroundings) (s : Settings),
        let succeeded := (env.report s).succeeded
        (env.report s).tally =
          if succeeded = 0 then [] else [(Event.kindOf s.label, succeeded)] := by
  refine ⟨fun label index moment h => ?event, fun env s => ?report⟩
  case event =>
    obtain ⟨n, rfl⟩ := Int.eq_ofNat_of_zero_le (Int.le_trans (by decide) h)
    have hmade : Event.create label n moment = .ok (Event.make label n moment) :=
      Event.create_of_pos label (Int.ofNat_le.mp h) moment
    have hkind : (Event.make label n moment).contentType = Event.kindOf label :=
      Payload.classify_text label n moment
    refine ⟨_, hmade, hkind, ?_⟩
    rw [hkind, Event.kindOf]
    split
    · decide
    · split <;> decide
  case report =>
    obtain ⟨replies, -, hreport, -, -⟩ := env.course s
    rw [hreport]
    exact Run.tallyOf_written s replies

/-- A label that ends in a keyword without its space. -/
theorem label_decides_kind_keyword :
    (1 : Int) ≤ 3 ∧ ∃ event, Event.create "run fn" 3 default = .ok event ∧
      event.contentType = .code := by
  obtain ⟨event, hmade, hkind, -⟩ := label_decides_kind.1 "run fn" 3 default (by decide)
  have hcode : Event.kindOf "run fn" = .code := by decide
  exact ⟨by decide, event, hmade, hkind.trans hcode⟩

end ClipCadence
