import ClipCadence.Console.Messages
import ClipCadence.Run.Ports

/-!
The progress of a run on the console: a header, a line for each event and for each write that
failed, a line at the end, and the summary, if it is wanted.
-/

namespace ClipCadence.Console

open Messages

def closing (width : Nat) (summary : Bool) (template : List Char) (report : Report) : Printed := do
  let lines ← printed width template
  return lines ++ if summary then (summaryTable report).lines else []

/-- The lines for a notice, if the name in it can be encoded. -/
def noticeLines (width : Nat) (summary : Bool) (notice : Notice) (report : Report) : Printed :=
  match notice with
  | .started count delay clipboard =>
    printed width (headerTemplate count delay clipboard.display.toList)
  | .copying index => printed width (copyingTemplate index)
  | .failed event error => printed width (failureTemplate event.index error.message.toList)
  | .finished => closing width summary doneTemplate report
  | .interrupted =>
    closing width summary (interruptedTemplate report.attempted report.requested) report

/-- The lines for a notice. -/
def progress (width : Nat) (summary : Bool) (notice : Notice) (report : Report) : Printed :=
  encoded width notice.named (noticeLines width summary notice report)

end ClipCadence.Console
