import Montage.Json.Basic

/-!
# The description of the worker

Programs learn from a description which requests the worker answers, what they hold and what comes
back.

* `Description.document` — the whole description.
* `Description.requests`, `Description.schemas` — its two main parts.
-/

namespace Montage.Description

/-! ## Schemas -/

/-- The schema of values of a type. -/
def ofType (name : String) : Json := .obj [("type", .str name)]

/-- A schema under a title. -/
def titled (title : String) : Json → Json
  | .obj members => .obj (members ++ [("title", .str title)])
  | j => j

/-- The type of lists of some type. -/
def listOf (item : Json) : Json := .obj [("items", item), ("type", .str "array")]

/-- The type of whatever has one of several types. -/
def oneOf (choices : List Json) : Json := .obj [("anyOf", .arr choices)]

/-- The type of an uploaded file. -/
def content : Json :=
  .obj [("type", .str "string"), ("contentMediaType", .str "application/octet-stream")]

/-- The schema of an object. -/
def objectOf (title : String) (properties : List (String × Json)) (required : List String) : Json :=
  .obj ([("properties", .obj properties), ("type", .str "object")]
    ++ (if required.isEmpty then [] else [("required", .arr (required.map .str))])
    ++ [("title", .str title)])

/-- The name of the type of the form. -/
def formName : String := "Body_process_export_process_post"

/-- The name of the type of the answer to a form that is not as it should be. -/
def refusalName : String := "HTTPValidationError"

/-- The name of the type of one thing that is wrong with a form. -/
def problemName : String := "ValidationError"

/-- A schema that stands elsewhere in the description. -/
def reference (name : String) : Json :=
  .obj [("$ref", .str ("#/components/schemas/" ++ name))]

/-- The form with which a rendering is asked for; all fields but the images have to be there. -/
def form : Json :=
  objectOf formName
    [("videos", titled "Videos" (listOf content)),
      ("metadata", titled "Metadata" (ofType "string")),
      ("canvas_width", titled "Canvas Width" (ofType "integer")),
      ("canvas_height", titled "Canvas Height" (ofType "integer")),
      ("images", titled "Images" (oneOf [listOf content, ofType "null"]))]
    ["videos", "metadata", "canvas_width", "canvas_height"]

/-- The answer to a form that is not as it should be: the list of what is wrong with it. -/
def refusal : Json :=
  objectOf refusalName [("detail", titled "Detail" (listOf (reference problemName)))] []

/-- One thing that is wrong with a form: where, what, and of which kind. -/
def problem : Json :=
  objectOf problemName
    [("loc", titled "Location" (listOf (oneOf [ofType "string", ofType "integer"]))),
      ("msg", titled "Message" (ofType "string")),
      ("type", titled "Error Type" (ofType "string")),
      ("input", titled "Input" (.obj [])),
      ("ctx", titled "Context" (ofType "object"))]
    ["loc", "msg", "type"]

/-- All types that are described, by their names. -/
def schemas : List (String × Json) :=
  [(formName, form), (refusalName, refusal), (problemName, problem)]

/-! ## Requests -/

/-- A body of one media type. -/
def body (mediaType : String) (schema : Json) : Json :=
  .obj [(mediaType, .obj [("schema", schema)])]

/-- A response with a body, and what it is for. -/
def response (words : String) (schema : Json) : Json :=
  .obj [("description", .str words), ("content", body "application/json" schema)]

/-- The response where all goes well. -/
def success (schema : Json) : Json := response "Successful Response" schema

/-- The request that renders a form. -/
def rendering : Json :=
  .obj [("tags", .arr [.str "export"]),
    ("summary", .str "Process Export"),
    ("operationId", .str "process_export_process_post"),
    ("requestBody", .obj [
      ("content", body "multipart/form-data" (reference formName)),
      ("required", .bool true)]),
    ("responses", .obj [
      ("200", success (.obj [])),
      ("422", response "Validation Error" (reference refusalName))])]

/-- The request that tells whether the worker is there. -/
def health : Json :=
  .obj [("summary", .str "Health Check"),
    ("description", .str "供导出客户端与部署探活使用。"),
    ("operationId", .str "health_check_health_get"),
    ("responses", .obj [("200", success (.obj [
      ("additionalProperties", ofType "string"),
      ("type", .str "object"),
      ("title", .str "Response Health Check Health Get")]))])]

/-- All requests that are described, by their paths. -/
def requests : List (String × Json) :=
  [("/process", .obj [("post", rendering)]), ("/health", .obj [("get", health)])]

/-! ## The whole -/

/-- The whole description that the worker gives of itself. -/
def document : Json :=
  .obj [("openapi", .str "3.1.0"),
    ("info", .obj [("title", .str "时间线导出 Worker API"), ("version", .str "0.1.0")]),
    ("paths", .obj requests),
    ("components", .obj [("schemas", .obj schemas)])]

end Montage.Description
