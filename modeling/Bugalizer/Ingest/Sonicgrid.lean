import Bugalizer.Json

/-!
# The poll endpoint's answers

The page envelope, and the row that is imported of one raw report. A report that lacks a
usable `id` maps to none; it is skipped alone.
-/

namespace Bugalizer.Ingest

set_option autoImplicit false

def titleMax : Nat := 80
def descriptionMax : Nat := 50000
def reporterMax : Nat := 200
def idMax : Nat := 200

def truncationMarker : String := "\n\n[truncated by bugalizer ingest]"

/-- The characters `str.splitlines` ends a line at. -/
def lineBreak (c : Char) : Bool := c.val ∈ [10, 11, 12, 13, 28, 29, 30, 133, 8232, 8233]

/-- `text.splitlines()`; the first list is the line so far, backwards. -/
def splitLines : List Char → List Char → List (List Char)
  | line, [] => if line = [] then [] else [line.reverse]
  | line, '\r' :: '\n' :: rest => line.reverse :: splitLines [] rest
  | line, c :: rest =>
      if lineBreak c then line.reverse :: splitLines [] rest else splitLines (c :: line) rest

/-- `text.split()`; the first list is the word so far, backwards. -/
def splitWords : List Char → List Char → List (List Char)
  | word, [] => if word = [] then [] else [word.reverse]
  | word, c :: rest =>
      if Py.isSpace c then
        if word = [] then splitWords [] rest else word.reverse :: splitWords [] rest
      else splitWords (c :: word) rest

/-- `" ".join(text.split())`. -/
def collapsed (text : List Char) : List Char := [' '].intercalate (splitWords [] text)

/-- `text.rstrip()`. -/
def rightStripped (text : List Char) : List Char := (text.reverse.dropWhile Py.isSpace).reverse

def beforeLastSpace (text : List Char) : Option (List Char) :=
  match text.reverse.dropWhile (· != ' ') with
  | [] => none
  | _ :: head => some head.reverse

def firstLine (description : List Char) : Option (List Char) :=
  (splitLines [] description).findSome? fun line =>
    if collapsed line = [] then none else some (collapsed line)

def cutTitle (text : List Char) : List Char :=
  if text.length ≤ titleMax then text
  else
    let cut := text.take titleMax
    let head := match beforeLastSpace cut with
      | some head => if head = [] then cut else head
      | none => cut
    rightStripped head ++ ['…']

def deriveTitle (description : String) : String :=
  match firstLine description.toList with
  | none => "(no description)"
  | some text => String.ofList (cutTitle text)

/-- `_description`. -/
def importedDescription (raw : Option String) : String :=
  let text := Py.stripped (raw.getD "").toList
  if text = [] then "(empty report)"
  else if descriptionMax < text.length then
    String.ofList (text.take (descriptionMax - truncationMarker.toList.length)) ++ truncationMarker
  else String.ofList text

/-- `_reporter`. -/
def importedReporter (raw : Option String) : String :=
  let name := (collapsed (raw.getD "").toList).take reporterMax
  if name = [] then "sonicgrid user" else String.ofList name

/-- An `Optional[str]` field: absent, `null` or a text. -/
def optionalText (field : Option Json) : Option (Option String) :=
  match field with
  | none => some none
  | some .null => some none
  | some (.str text) => some (some text)
  | some _ => none

structure PollPage where
  reports : List Json
  nextCursor : Option String

def parsePage (body : Json) : Option PollPage := do
  let reports ← (body.field? "reports").bind Json.list?
  let nextCursor ← optionalText (body.field? "next_cursor")
  pure { reports, nextCursor }

structure PollReport where
  id : String
  description : Option String
  reporterName : Option String
  attachments : List Json

/-- `PollReport.model_validate`. -/
def PollReport.validate (raw : Json) : Option PollReport := do
  let id ← (raw.field? "id").bind Json.string?
  let description ← optionalText (raw.field? "description")
  let reporterName ← optionalText (raw.field? "reporterName")
  let attachments ← match raw.field? "attachments" with
    | none => some []
    | some items => items.list?
  if id.toList = [] ∨ idMax < id.toList.length then none
  else pure { id, description, reporterName, attachments }

structure Attachment where
  url : String
  fileName : Option String
  contentType : Option String

section Mapping

-- Scheme and host of a url, or none where the parser refuses it.
variable (urlsplit : String → Option (String × Option String))

def keptAttachment (item : Json) : Option Attachment := do
  let url ← (item.field? "url").bind Json.string?
  let fileName ← optionalText (item.field? "fileName")
  let contentType ← optionalText (item.field? "contentType")
  let parts ← urlsplit url
  if parts.1 = "https" ∧ (parts.2.getD "") ≠ "" then pure { url, fileName, contentType } else none

/-- `_attachments`. -/
def importedAttachments (raw : List Json) : Option (List Attachment) :=
  let kept := raw.filterMap (keptAttachment urlsplit)
  if kept.isEmpty then none else some kept

/-- The row `ingest_commit` inserts. -/
structure ImportRow where
  externalId : String
  ingestSource : String
  title : String
  description : String
  reporter : String
  attachments : Option (List Attachment)
  labels : List String
  severity : String
  environment : String

def mapReport (raw : Json) (ingestSource : String) : Option ImportRow := do
  let report ← PollReport.validate raw
  pure
    { externalId := report.id
      ingestSource
      title := deriveTitle (report.description.getD "")
      description := importedDescription report.description
      reporter := importedReporter report.reporterName
      attachments := importedAttachments urlsplit report.attachments
      labels := ["sonicgrid"]
      severity := "medium"
      environment := "sonicgrid production" }

/-- `_map_page`, without the unmappable reports it counts. -/
def mapPage (page : PollPage) (source : String) : List ImportRow :=
  page.reports.filterMap fun raw => mapReport urlsplit raw source

end Mapping

end Bugalizer.Ingest
