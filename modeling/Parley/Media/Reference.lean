import Parley.Table.Database
import Parley.Text.Case
import Parley.Text.Search

/-!
Stored pictures and files.

A stored medium has an address, its own or that of its place in the storage, and a kind that follows
from its content type. It is found only by the company it belongs to.
-/

namespace Parley

open Text

/-- What sort of medium something is. -/
inductive MediaKind where
  | image
  | video
  | audio
  | document
  deriving DecidableEq, Repr

namespace MediaKind

/-- The name of a kind. -/
def name : MediaKind → String
  | image => "image"
  | video => "video"
  | audio => "audio"
  | document => "document"

/-- The kind that a content type belongs to, whatever its case. -/
def ofContentType (type : String) : MediaKind :=
  let cs := (lower type).toList
  ([image, video, audio].find? fun kind => startsWith cs (kind.name ++ "/").toList).getD document

/-- The kind of the content type in a cell; without one it is a document. -/
def ofCell (v : Json) : Except Failure MediaKind :=
  match v with
  | .str s => .ok (ofContentType s)
  | v => if v.truthy then .error (.noLetters v.kindName) else .ok document

end MediaKind

/-- Where a medium is and what it is. -/
structure MediaReference where
  url : Json
  kind : String
  fileName : Json := .null
  deriving DecidableEq, Repr

namespace MediaReference

/-- A reference as it is handed to the contact's channel. -/
def toJson (r : MediaReference) : Json :=
  .obj [("url", r.url), ("kind", .str r.kind), ("file_name", r.fileName)]

/-- The bucket that media are stored in. -/
def defaultBucket : String := "media"

/-- The public address of a place in the storage. -/
def storageAddress (bucket : String) (path : Json) : String :=
  "https://storage.test/" ++ bucket ++ "/" ++ path.text

/-- The reference in a row: by its own address, otherwise by its place in the storage. -/
def ofRow? (bucket : String) (row : Row) : Except Failure (Option MediaReference) :=
  let path := row.cell "storage_path"
  let url := (row.cell "url").orElse
    (if path.truthy then .str (storageAddress bucket path) else .null)
  if url.truthy then do
    let kind ← MediaKind.ofCell (row.cell "mime_type")
    .ok (some { url, kind := kind.name
                fileName := (row.cell "original_name").orElse (row.cell "file_name") })
  else .ok none

/-- The medium of an id, where the company has it and it has an address. -/
def find? (bucket id tenant : String) : Program Database.Access (Option MediaReference) := do
  let rows ← Database.put (.select "media"
    [.equal "id" (.str id), .equal "company_id" (.str tenant)])
  match rows with
  | [] => pure none
  | row :: _ => Program.ofExcept (ofRow? bucket row)

end MediaReference

end Parley
