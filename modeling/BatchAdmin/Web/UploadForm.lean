/-
Uploads: which part of a form is stored, and where.

The parts are looked at in order. The first part named `file` decides:
its content is uploaded into the folder, under its file name, and
published; nothing behind it is looked at. The folder is the one that
the request names, or else the text of the first part named `path` in
front of the file, or else the root.
-/
import BatchAdmin.Gateway
import BatchAdmin.Web.Message
import BatchAdmin.Web.MediaType
import BatchAdmin.Web.Multipart
import BatchAdmin.Text.Encoding

namespace BatchAdmin.Web.UploadForm

open Text

/-- The form is cut off or not well formed. -/
def malformed : Failure := .invalidRequest "malformed form"

/-- The file part has no file name. -/
def noFileName : Failure := .invalidRequest "file field has no filename"

/-- No part is the file. -/
def noFile : Failure :=
  .invalidRequest "multipart field 'file' is required"

/-- The encoding that a part says its text is in, UTF-8 where it names
none that there is. -/
def encodingOf (head : Multipart.PartHead) : Encoding :=
  let media := head.media.bind fun m => MediaType.read? m.toList
  let label := media.bind fun m => m.parameter? "charset"
  (label.bind Encoding.ofLabel?).getD .utf8

/-- The text of a part. -/
def partText (head : Multipart.PartHead) (content : List Octet) :
    String :=
  String.ofList ((encodingOf head).decodeMarked content)

/-- The content of a file part; where the form ends first, nothing of it
arrives. -/
def partContent (boundary rest : List Octet) : Content :=
  match Multipart.content? boundary rest with
  | some (content, _) => .whole content
  | none => ⟨[], true⟩

/-- Goes through the parts from one on; `fuel` bounds their number. -/
def receive (g : Gateway) (boundary : List Octet) :
    Nat → Option String → List Octet → Answer FileInfo × Gateway
  | 0, _, _ => (.error malformed, g)
  | fuel + 1, folder, s =>
      match Multipart.next? boundary s with
      | none => (.error malformed, g)
      | some .done => (.error noFile, g)
      | some (.part head rest) =>
          if head.name = some "file" then
            match head.fileName with
            | none => (.error noFileName, g)
            | some fileName =>
                g.uploadAndPublish (folder.getD "") fileName
                  (partContent boundary rest)
          else
            match Multipart.content? boundary rest with
            | none => (.error malformed, g)
            | some (content, next) =>
                let folder :=
                  if head.name = some "path" ∧ folder = none then
                    some (partText head content)
                  else folder
                receive g boundary fuel folder next

/-- The boundary that a request names. -/
def boundary? (r : Request) : Option (List Octet) :=
  (((r.header? "content-type").bind MediaType.read?).bind
    MediaType.boundary?).map octets

/-- What is told where the request names no boundary. -/
def noBoundary : Response :=
  { status := 400
    body := .plain ("Invalid \x60boundary\x60 for "
      ++ "\x60multipart/form-data\x60 request")
    allow := none }

/-- Receives the upload of a request. -/
def handle (g : Gateway) (r : Request) (folder : Option String) :
    Response × Gateway :=
  match boundary? r with
  | none => (noBoundary, g)
  | some boundary =>
      match Multipart.start? boundary r.body with
      | none => (.ofFailure malformed, g)
      | some s =>
          let (answer, g) :=
            receive g boundary (s.length + 1) folder s
          (.ofAnswer 200 (answer.map (·.toJson)), g)

end BatchAdmin.Web.UploadForm
