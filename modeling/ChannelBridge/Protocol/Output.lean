import ChannelBridge.Json.Reader
import ChannelBridge.Text.Blank

/-! # Reading the output streams of a process

A process writes log lines to its standard output and warnings to its standard error. What is
reported of them is what a line reader makes of the two streams:

* Both streams are cut into lines at line feeds. A carriage return right before a line feed
  belongs to the break; any other carriage return, and every other control character, stays in
  its line. A break at the very end opens no further line.
* Terminal control sequences are removed line by line: an escape, `[`, every character after it that
  is not a final character (`@` to `~`), and the first final character, if there is one. So a
  sequence that never ends runs to the end of its line.
* Every line of the error stream is kept, blank ones included.
* A blank line of the output stream is skipped. A line that reads as a JSON object is that object
  without its `timestamp` member. Any other line loses everything up to its first space, and the
  blanks after that space; a line with no space leaves the empty string.

The first line of a text event starts with its time stamp and a space, so what is seen of it is
the rest of the line. Its later lines are values that ran over a line feed, read like any line.
-/

namespace ChannelBridge

namespace Output

/-- A finished line, from its characters last first, without the carriage return that ended it. -/
def endLine (current : List Char) : List Char :=
  if current.head? == some '\r' then current.tail.reverse else current.reverse

/-- Cuts characters into lines at line feeds; `current` holds the line read so far, last
character first. -/
def splitLines : List Char → List Char → List (List Char)
  | [], current => if current.isEmpty then [] else [current.reverse]
  | c :: rest, current =>
    if c == '\n' then endLine current :: splitLines rest [] else splitLines rest (c :: current)

/-- The lines of a text. -/
def lines (text : String) : List String := (splitLines text.toList []).map String.ofList

/-- Whether a character ends a control sequence. -/
def isFinal (c : Char) : Bool := 0x40 ≤ c.toNat && c.toNat ≤ 0x7E

/-- Where the remover of control sequences stands. -/
inductive Scan where
  /-- In plain text. -/
  | text
  /-- Just after an escape character. -/
  | escape
  /-- Inside a control sequence, before its final character. -/
  | sequence

/-- Removes the control sequences from characters read from a given position. An escape not
followed by `[` stays, and so does what follows it. -/
def strip : Scan → List Char → List Char
  | .text, [] => []
  | .text, c :: rest => if c == '\x1b' then strip .escape rest else c :: strip .text rest
  | .escape, [] => ['\x1b']
  | .escape, c :: rest =>
    if c == '[' then strip .sequence rest
    else if c == '\x1b' then '\x1b' :: strip .escape rest
    else '\x1b' :: c :: strip .text rest
  | .sequence, [] => []
  | .sequence, c :: rest => if isFinal c then strip .text rest else strip .sequence rest

/-- A line without its control sequences. -/
def stripEscapes (line : String) : String := String.ofList (strip .text line.toList)

/-- What stands after the first space of a line, without the blanks that open it; the empty
string when the line has no space. -/
def afterFirstSpace (line : String) : String :=
  match line.toList.dropWhile (· != ' ') with
  | _ :: rest => String.ofList (rest.dropWhile Text.isBlank)
  | [] => ""

/-- The entry a line of the output stream leaves, if any. -/
def lineEntry (line : String) : Option Json :=
  if line.toList.all Text.isBlank then none
  else
    match Json.parse line with
    | .ok (.obj members) => some (.obj (members.filter (·.1 != "timestamp")))
    | _ => some (.str (afterFirstSpace (stripEscapes line)))

/-- The entries a text event leaves: the rest of its first line after the time stamp, then the
entries of its later lines. -/
def textEntries (text : String) : List Json :=
  match lines text with
  | first :: rest =>
    .str (String.ofList ((stripEscapes first).toList.dropWhile Text.isBlank)) :: rest.filterMap lineEntry
  | [] => []

/-- The entries a warning leaves on the error stream: each of its lines without control sequences. -/
def errorEntries (text : String) : List String := (lines text).map stripEscapes

/-! ## Small facts -/

/-- A character other than a line feed joins the line being read. -/
theorem splitLines_cons_of_ne {c : Char} (hc : c ≠ '\n') (cs current : List Char) :
    splitLines (c :: cs) current = splitLines cs (c :: current) := by
  have hcn : (c == '\n') = false := by simpa using hc
  simp only [splitLines, hcn, Bool.false_eq_true, if_false]

/-- A stretch without line feeds joins the line being read. -/
theorem splitLines_append_of_not_mem {xs : List Char} (h : '\n' ∉ xs) (rest current : List Char) :
    splitLines (xs ++ rest) current = splitLines rest (xs.reverse ++ current) := by
  induction xs generalizing current with
  | nil => rfl
  | cons x xs ih =>
    have hx : x ≠ '\n' := fun e => h (e ▸ List.mem_cons_self)
    rw [List.cons_append, splitLines_cons_of_ne hx, ih (fun m => h (List.mem_cons_of_mem _ m))]
    simp

/-- A text without line feeds is one line, unless it is empty. -/
theorem lines_of_not_mem {text : String} (h : '\n' ∉ text.toList) (hne : text ≠ "") :
    lines text = [text] := by
  have hl : text.toList ≠ [] := by simpa using hne
  have := splitLines_append_of_not_mem h [] []
  simp only [List.append_nil] at this
  simp [lines, this, splitLines, hl]

/-- Plain text without escapes passes the remover unchanged. -/
theorem strip_text_of_noEscape (cs : List Char) (h : ∀ c ∈ cs, c ≠ '\x1b') : strip .text cs = cs := by
  induction cs with
  | nil => rfl
  | cons c rest ih =>
    have hc : (c == '\x1b') = false := by simpa using h c (by simp)
    simp only [strip, hc, Bool.false_eq_true, if_false]
    rw [ih fun d hd => h d (by simp [hd])]

end Output

end ChannelBridge
