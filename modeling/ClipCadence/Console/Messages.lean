import ClipCadence.Clipboard.Backend
import ClipCadence.Console.Highlight
import ClipCadence.Console.Markup
import ClipCadence.Console.Numbered
import ClipCadence.Console.Panel
import ClipCadence.Console.Table
import ClipCadence.Number.Decimal
import ClipCadence.Report

/-!
What the program shows on the console. Messages are markup templates; texts that come from
outside are escaped before they are put into one, with the exceptions that the functions name.
-/

namespace ClipCadence.Console

open Number Text

/-- What is printed, unless the markup is wrong. -/
abbrev Printed := Except Markup.Error (List Line)

/-- The lines of a text on a console of some width; without a width there are none. -/
def printedText (width : Nat) (text : Styled) : Printed := do
  if width = 0 then return []
  let rows ← Markup.rows (wrapped none width (Highlight.highlight text))
  return rows.map (Row.print width)

/-- The lines of a markup template on a console of some width. -/
def printed (width : Nat) (template : List Char) : Printed := do
  printedText width (← Markup.render template)

/-- Whether a console can print what a text stands in: if it has any room, it has to encode the
text. -/
def canPrint (width : Nat) (text : RawText) : Bool := width = 0 || text.isEncodable

/-- What is printed with a text in it. -/
def encoded (width : Nat) (text : RawText) (lines : Printed) : Printed := do
  let lines ← lines
  if canPrint width text then return lines else .error .unencodable

namespace Messages

def number (n : Int) : List Char := Numeral.write n

/-! ### Messages of a run -/

def errorTemplate (message : List Char) : List Char :=
  "[bold red]❌ ".toList ++ Markup.escape message ++ "[/]".toList

def headerTemplate (count : Int) (delay : Binary64) (backend : List Char) : List Char :=
  "Testing event listener - will copy ".toList ++ number count ++ " items with ".toList ++
    delay.brief.toList ++ " second delay [dim](backend: ".toList ++ Markup.escape backend ++
    ")[/]".toList

def copyingTemplate (index : Int) : List Char := "Copying test item ".toList ++ number index

def failureTemplate (index : Int) (error : List Char) : List Char :=
  "[yellow]⚠️  Item ".toList ++ number index ++ " not copied: ".toList ++
    Markup.escape error ++ "[/]".toList

def doneTemplate : List Char := "[bold green]Done[/]".toList

def interruptedTemplate (attempted requested : Int) : List Char :=
  "[bold yellow]Interrupted after ".toList ++ number attempted ++ " of ".toList ++
    number requested ++ " items[/]".toList

/-! ### Panels and tables -/

/-- The title of a panel as far as it is shown, from markup; an empty one is none. -/
def panelTitle (width : Nat) (title : List Char) : Except Markup.Error (Option Styled) :=
  if title.isEmpty then .ok none
  else do
    let title ← Markup.render title
    return if Panel.inner width = 0 then none else some (Panel.shown width title)

def framed (width : Nat) (title : Option Styled) (content : List Row) : Printed :=
  if title.any Styled.isFlawed then .error .emptyNumber else .ok (Panel.frame width title content)

def defaultTitle : List Char := "clip-emitter".toList

/-- A message in a panel; both the message and the title are markup. -/
def successPanel (width : Nat) (message title : List Char) : Printed := do
  if width = 0 then return []
  let title ← panelTitle width title
  let inner := Panel.inner width
  let content ← if inner = 0 then pure [] else do
    Markup.rows (wrapped none inner (← Markup.render message))
  framed width title content

def documentTitle : List Char := "⚙️  Active configuration".toList

/-- A document in a panel with numbered lines; the title is markup. -/
def documentPanel (width : Nat) (document title : List Char) : Printed := do
  if width = 0 then return []
  let title ← panelTitle width title
  framed width title (Numbered.rows (Panel.inner width) document)

/-- The rows for the kinds of content that were written, in the order of their labels. -/
def tallyRows (tally : Tally) : List (List (List Char)) :=
  let sorted := tally.mergeSort fun a b => a.1.label ≤ b.1.label
  sorted.map fun (kind, n) => [(kind.icon ++ " " ++ kind.label).toList, number n]

def summaryRows (report : Report) : List (List (List Char)) := [
  ["Requested".toList, number report.requested],
  ["Attempted".toList, number report.attempted],
  ["Succeeded".toList, number report.succeeded],
  ["Failed".toList, number report.failed],
  ["Duration".toList, report.duration.tenths.toList ++ ['s']]] ++ tallyRows report.tally

def summaryTable (report : Report) : Table where
  title := "📋 Run summary".toList
  columns := [⟨"Metric".toList, .left⟩, ⟨"Value".toList, .right⟩]
  rows := (summaryRows report).map (·.map .plain)

/-- A row of the list of tools. -/
structure BackendRow where
  name : List Char
  command : List (List Char)
  fits : Bool
  usable : Bool

/-- The cells of a row; its name is markup. -/
def BackendRow.cells (row : BackendRow) : Except Markup.Error (List Styled) := do
  let name ← Markup.render row.name
  let _ ← Markup.rows (wrapped (some .left) (Table.cellWidth name) name)
  let command ← Markup.render (Markup.escape (List.intercalate [' '] row.command))
  return [name, command, .plain [if row.fits then '✅' else '—'],
    .plain [if row.usable then '✅' else '❌']]

def backendsTable (rows : List BackendRow) : Except Markup.Error Table := do
  return {
    title := "📋 Clipboard backends".toList
    columns := [⟨"Name".toList, .left⟩, ⟨"Command".toList, .left⟩, ⟨"Platform".toList, .center⟩,
      ⟨"Available".toList, .center⟩]
    rows := ← rows.mapM BackendRow.cells }

def BackendRow.ofBackend (machine : Machine) (backend : Backend) : BackendRow where
  name := backend.name.toList
  command := backend.command.map String.toList
  fits := backend.fits machine
  usable := backend.isUsable machine

end Messages

end ClipCadence.Console
