import Catalog.Calendar.Timestamp
import Catalog.Entry.Basic
import Catalog.Json.Record

namespace Catalog

namespace Entry

def instant? (v : Json) : Option Instant := v.text?.bind Timestamp.parse?

def uuid? (v : Json) : Option Uuid := v.text?.bind Uuid.parse?

def fieldNames : List String :=
  ["id", "code", "example", "created_at", "created_by", "updated_at", "updated_by", "deleted_at",
    "deleted_by", "uuid"]

def ofFields? : List (Option Json) → Option Entry
  | [id, code, text, createdAt, createdBy, updatedAt, updatedBy, deletedAt, deletedBy, uuid] => do
    return {
      id := ← Json.required? Json.int64? id
      code := ← Json.required? Json.text? code
      text := ← Json.required? Json.text? text
      createdAt := ← Json.required? instant? createdAt
      createdBy := ← Json.required? Json.text? createdBy
      updatedAt := ← Json.optional? instant? updatedAt
      updatedBy := ← Json.optional? Json.text? updatedBy
      deletedAt := ← Json.optional? instant? deletedAt
      deletedBy := ← Json.optional? Json.text? deletedBy
      uuid := ← Json.required? uuid? uuid }
  | _ => none

def ofJson? (v : Json) : Option Entry :=
  (v.fields? fieldNames false).bind ofFields?

def instantJson (t : Instant) : Json := .text (Timestamp.text t)

def orNull {α : Type} (write : α → Json) (x : Option α) : Json :=
  (x.map write).getD .null

def ifPresent {α : Type} (name : String) (write : α → Json) (x : Option α) :
    List (String × Json) :=
  (x.map fun a => (name, write a)).toList

/-- An entry with all its fields; those about its deletion are left out if it is active. -/
def toJson (e : Entry) : Json :=
  .ofMembers <|
    [("id", .int e.id.toInt), ("code", .text e.code), ("example", .text e.text),
      ("created_at", instantJson e.createdAt), ("created_by", .text e.createdBy),
      ("updated_at", orNull instantJson e.updatedAt), ("updated_by", orNull .text e.updatedBy)] ++
    ifPresent "deleted_at" instantJson e.deletedAt ++ ifPresent "deleted_by" .text e.deletedBy ++
    [("uuid", .text e.uuid.text)]

/-- What is shown of an entry: nothing about its deletion, and about its last change only if there
was one. -/
def toResponse (e : Entry) : Json :=
  .ofMembers <|
    [("id", .int e.id.toInt), ("uuid", .text e.uuid.text), ("code", .text e.code),
      ("example", .text e.text), ("created_at", instantJson e.createdAt),
      ("created_by", .text e.createdBy)] ++
    ifPresent "updated_at" instantJson e.updatedAt ++ ifPresent "updated_by" .text e.updatedBy

end Entry

def Draft.ofJson? (v : Json) : Option Draft := do
  let [code, text] ← v.fields? ["code", "example"] false | none
  return ⟨← Json.required? Json.text? code, ← Json.required? Json.text? text⟩

def Changes.ofJson? (v : Json) : Option Changes := do
  let [code, text] ← v.fields? ["code", "example"] false | none
  return ⟨← Json.optional? Json.text? code, ← Json.optional? Json.text? text⟩

end Catalog
