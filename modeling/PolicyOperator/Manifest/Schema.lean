import PolicyOperator.Json.Basic

/-!
# Schemas

The schemas by which the API server checks objects, as the JSON that states them.
-/

namespace PolicyOperator

/-- The schema of a value. -/
abbrev Schema := Json

namespace Schema

/-! ## Plain values -/

def ofType (type : String) : Schema := .object [("type", .str type)]

def text : Schema := ofType "string"

def bool : Schema := ofType "boolean"

def int32 : Schema := .object [("format", .str "int32"), ("type", .str "integer")]

def int64 : Schema := .object [("format", .str "int64"), ("type", .str "integer")]

/-- A number that is not negative. -/
def word32 : Schema := .object [
  ("format", .str "uint32"),
  ("minimum", .real (.zero false)),
  ("type", .str "integer")]

def time : Schema := .object [("format", .str "date-time"), ("type", .str "string")]

/-- One of a few words. -/
def choice (words : List String) : Schema := .object [
  ("enum", .arr (words.map .str)),
  ("type", .str "string")]

/-- An object that is kept as it is. -/
def free : Schema := .object [
  ("type", .str "object"),
  ("x-kubernetes-preserve-unknown-fields", .bool true)]

/-! ## Additions -/

def described (s : Schema) (description : String) : Schema :=
  s.setField "description" (.str description)

/-- The value may be null. -/
def nullable (s : Schema) : Schema := s.setField "nullable" (.bool true)

/-- The value that stands in for a missing one. -/
def withDefault (s : Schema) (value : Json) : Schema := s.setField "default" value

/-! ## Compound values -/

def list (item : Schema) : Schema := .object [("items", item), ("type", .str "array")]

/-- A map from texts to texts. -/
def textMap : Schema := .object [("additionalProperties", text), ("type", .str "object")]

/-- A field of a record. -/
structure Field where
  key : String
  schema : Schema
  isRequired : Bool := false

def Field.required (key : String) (schema : Schema) : Field := ⟨key, schema, true⟩

def Field.optional (key : String) (schema : Schema) : Field := ⟨key, schema, false⟩

/-- The keys of required fields, in increasing order. -/
def requiredKeys (fields : List Field) : List String :=
  (Entries.ofList ((fields.filter Field.isRequired).map fun f => (f.key, ()))).map Prod.fst

def record (fields : List Field) : Schema := Json.record [
  ("properties", some (.object (fields.map fun f => (f.key, f.schema)))),
  ("required", if fields.any Field.isRequired then
    some (.arr ((requiredKeys fields).map .str)) else none),
  ("type", some (.str "object"))]

end Schema

end PolicyOperator
