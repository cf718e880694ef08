import QueryAudit.Text.Quoted

/-!
# Report templates

A template says what is printed around the body of a report.  `%s` stands for
the body and may occur once, `%n` for a line feed and `%%` for a percent sign.

A template is read into segments of which no two neighbours are literal and
none is an empty literal, so different segments print differently.
-/

namespace QueryAudit

/-- A part of a template. -/
inductive Segment where
  | literal (text : List Char)
  | body
  deriving DecidableEq, Repr

/-- A template that has been read. -/
structure Template where
  segments : List Segment
  deriving DecidableEq, Repr

/-- What is wrong with a template. -/
inductive TemplateFault where
  /-- The body stands in it twice. -/
  | repeatedBody
  /-- A percent sign is followed by a character that has no meaning there. -/
  | unsupported (c : Char)
  /-- A percent sign ends it. -/
  | dangling
  deriving DecidableEq, Repr

/-- The reason that is given for a fault. -/
def TemplateFault.reason : TemplateFault → String
  | repeatedBody => "`%s` may appear only once"
  | unsupported c => "unsupported conversion `%" ++ c.toString ++ "`"
  | dangling => "dangling `%` at end of format"

/-- A template that cannot be read, and why. -/
structure TemplateError where
  template : String
  fault : TemplateFault
  deriving DecidableEq, Repr

/-- The message about a template. -/
def TemplateError.message (e : TemplateError) : String :=
  "invalid report format " ++ Text.quoted e.template ++ ": " ++ e.fault.reason

namespace Template

/-- Adds a character in front of segments, to a literal if one stands there. -/
def addChar (c : Char) : List Segment → List Segment
  | .literal text :: segments => .literal (c :: text) :: segments
  | segments => .literal [c] :: segments

/-- Reads the characters of a template; `used` says whether the body has been
placed already. -/
def readSegments (used : Bool) : List Char → Except TemplateFault (List Segment)
  | [] => .ok []
  | ['%'] => .error .dangling
  | '%' :: 's' :: s =>
    if used then .error .repeatedBody else (readSegments true s).map (.body :: ·)
  | '%' :: 'n' :: s => (readSegments used s).map (addChar '\n')
  | '%' :: '%' :: s => (readSegments used s).map (addChar '%')
  | '%' :: c :: _ => .error (.unsupported c)
  | c :: s => (readSegments used s).map (addChar c)

/-- Reads a template. -/
def parse (template : String) : Except TemplateError Template :=
  match readSegments false template.toList with
  | .ok segments => .ok ⟨segments⟩
  | .error fault => .error ⟨template, fault⟩

/-- The text that a segment stands for. -/
def segmentText (body : List Char) : Segment → List Char
  | .literal text => text
  | .body => body

/-- The template with a body put in its place. -/
def apply (template : Template) (body : String) : String :=
  String.ofList (template.segments.flatMap (segmentText body.toList))

/-- The template that is used when none is given. -/
def standard : Template :=
  ⟨[.literal "[QUICK PERF] SQL Analyzis:\n".toList, .body]⟩

/-- The text of the standard template. -/
def standardText : String := "[QUICK PERF] SQL Analyzis:\n%s"

/-- The standard template is what its text is read as. -/
theorem parse_standardText : parse standardText = .ok standard := rfl

end Template

end QueryAudit
