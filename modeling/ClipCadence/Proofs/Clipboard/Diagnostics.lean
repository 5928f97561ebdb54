import ClipCadence.Proofs.Run.Rehearsed
import ClipCadence.Proofs.Text.Replacement
import ClipCadence.Proofs.Text.Trimming

/-!
What a tool that fails wrote to its standard error. The bytes are any bytes: they may be no text,
end inside a character, or hold blanks only. The error of the write shows what can be read of them,
after the name of the tool and its status, and shows nothing there if nothing is left.

Main statement: `diagnostics_survive`.
-/

namespace ClipCadence

open Number Text

namespace ToolFailure

theorem trimmed_iff_eq_diagnosis (diagnostics : List UInt8) (detail : List Char) :
    Trimmed isBlank (Utf8.decodeLossy diagnostics) detail ↔ detail = diagnosis diagnostics :=
  trimmed_iff

/-- Diagnostics that are a text lose nothing but the blanks around it. -/
theorem trimmed_diagnosis_encode (text : List Char) :
    Trimmed isBlank text (diagnosis (Utf8.encode text)) := by
  have h := (trimmed_iff_eq_diagnosis (Utf8.encode text) _).mpr rfl
  rwa [Utf8.decodeLossy_encode] at h

end ToolFailure

namespace Tool

open ToolFailure (diagnosis)

/-- What is said of a tool that exited, before what it wrote. -/
def exitText (tool : Tool) (status : Int) : String :=
  tool.name.display ++ " exited with status " ++ String.ofList (Numeral.write status)

variable {tool : Tool} {status : Int} {diagnostics : List UInt8}

theorem message_exited :
    (tool.error (.exited status diagnostics)).message = tool.exitText status ++
      if (diagnosis diagnostics).isEmpty then ""
      else ": " ++ String.ofList (diagnosis diagnostics) := rfl

theorem message_of_nil (h : diagnosis diagnostics = []) :
    (tool.error (.exited status diagnostics)).message = tool.exitText status := by
  rw [message_exited, h, List.isEmpty_nil, if_pos rfl, String.append_empty]

theorem message_of_ne_nil (h : diagnosis diagnostics ≠ []) :
    (tool.error (.exited status diagnostics)).message =
      tool.exitText status ++ ": " ++ String.ofList (diagnosis diagnostics) := by
  rw [message_exited, if_neg (by rwa [List.isEmpty_iff]), String.append_assoc]

/-- A text is not the same text with a colon and more after it. -/
theorem ne_detailed (plain detail : String) : plain ≠ plain ++ ": " ++ detail := by
  intro h
  rw [String.append_assoc, eq_comm, String.append_eq_left_iff, String.append_eq_empty_iff] at h
  exact absurd h.1 (by decide)

theorem message_eq_exitText_iff :
    (tool.error (.exited status diagnostics)).message = tool.exitText status ↔
      diagnosis diagnostics = [] := by
  refine ⟨fun h => ?_, message_of_nil⟩
  by_contra hne
  exact ne_detailed _ _ (h.symm.trans (message_of_ne_nil hne))

theorem message_eq_detailed_iff :
    (tool.error (.exited status diagnostics)).message =
        tool.exitText status ++ ": " ++ String.ofList (diagnosis diagnostics) ↔
      diagnosis diagnostics ≠ [] :=
  ⟨fun h hnil => ne_detailed _ _ ((message_of_nil hnil).symm.trans h), message_of_ne_nil⟩

end Tool

/-- **Diagnostics survive decoding.** A write through a tool that exits with some status fails, for
whatever bytes the tool wrote to its standard error. The error names the tool and the status, and
goes on with a colon and the detail if and only if there is a detail. The detail is what the bytes
are decoded to, each maximal subpart of them that is no character as one U+FFFD, without the blanks
at the two ends. There is always such a text and only one. If the bytes encode a text, the detail is
this text but for the blanks around it, with as many U+FFFD as the text has. -/
theorem diagnostics_survive (tool : Tool) (status : Int) (diagnostics : List UInt8) (text : String)
    (w : World) (later : List Outcome) :
    let outcomes := Outcome.failed (.exited status diagnostics) :: later
    let started := { w with clipboard := .tool tool, outcomes := outcomes }
    let plain :=
      tool.name.display ++ " exited with status " ++ String.ofList (Numeral.write status)
    let decoded := Utf8.decodeLossy diagnostics
    let detail := ToolFailure.diagnosis diagnostics
    (∃ error, ((Rehearsal.copy text).run started).1 = .ok (.error error) ∧
        (error.message = plain ↔ detail = []) ∧
        (error.message = plain ++ ": " ++ String.ofList detail ↔ detail ≠ [])) ∧
      (∀ result, Utf8.Decodes diagnostics result ↔ result = decoded) ∧
      (∀ inner, Trimmed isBlank decoded inner ↔ inner = detail) ∧
      ∀ whole, diagnostics = Utf8.encode whole →
        Trimmed isBlank whole detail ∧ detail.count '\ufffd' = whole.count '\ufffd' := by
  intro outcomes started plain decoded detail
  refine ⟨⟨tool.error (.exited status diagnostics), ?fails, ?plain, ?detailed⟩,
    fun result => Utf8.decodes_iff, ToolFailure.trimmed_iff_eq_diagnosis diagnostics, ?encoded⟩
  case fails =>
    rw [Rehearsal.copy_run_tool (w := started) rfl]
    rfl
  case plain => exact Tool.message_eq_exitText_iff
  case detailed => exact Tool.message_eq_detailed_iff
  case encoded =>
    rintro whole rfl
    have htrimmed := ToolFailure.trimmed_diagnosis_encode whole
    exact ⟨htrimmed, htrimmed.count_eq (by decide)⟩

/-- Diagnostics that hold U+FFFD themselves, between a wide blank and a line feed. -/
theorem diagnostics_survive_xclip :
    let xclip : Tool := ⟨.ofString "xclip", [.ofString "xclip"], Settings.defaults.timeout⟩
    let whole := "\u3000No display \ufffd ✓\n".toList
    let detail := "No display \ufffd ✓".toList
    let diagnostics := Utf8.encode whole
    let w : World := ⟨default, 0, .tool xclip, [], [.failed (.exited (-6) diagnostics)], none,
      false, [], [], []⟩
    (∃ error, ((Rehearsal.copy "x").run w).1 = .ok (.error error) ∧
        error.message = "xclip exited with status -6: No display \ufffd ✓") ∧
      Utf8.Decodes diagnostics whole ∧ Trimmed isBlank whole detail ∧
        detail.count '\ufffd' = 1 := by
  intro xclip whole detail diagnostics w
  have hdecoded : Utf8.decodeLossy diagnostics = whole := by decide
  have hdetail : ToolFailure.diagnosis diagnostics = detail := by decide
  obtain ⟨⟨error, herror, -, hmessage⟩, hdecodes, -, hencoded⟩ :=
    diagnostics_survive xclip (-6) diagnostics "x" w []
  rw [hdetail] at hmessage
  obtain ⟨htrimmed, -⟩ := hencoded whole rfl
  rw [hdetail] at htrimmed
  refine ⟨⟨error, herror, (hmessage.mpr (by decide)).trans (by decide)⟩,
    (hdecodes whole).mpr hdecoded.symm, htrimmed, by decide⟩

end ClipCadence
