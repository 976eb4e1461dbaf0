-- The description of the interface, as an OpenAPI document.
import Workspaces.Json.Basic

namespace Workspaces.OpenApi

/-! ## Parts -/

def reference (schema : String) : Json :=
  .object [("$ref", .string ("#/components/schemas/" ++ schema))]

/-- A type with its format and further members. -/
def typed (kind : String) (more : List (String × Json)) : Json :=
  .object (("type", .string kind) :: more)

def nullable : String × Json := ("nullable", .bool true)

def format (name : String) : String × Json := ("format", .string name)

def text (more : List (String × Json)) : Json := typed "string" more

def exampleText (sample : String) : Json := text [("example", .string sample)]

/-- An object schema, with its description, the names of its required properties and all of
them. -/
def schema (description : Option String) (required : List String)
    (properties : List (String × Json)) : Json :=
  typed "object" <|
    (description.map fun d => ("description", .string d)).toList ++
      (if required = [] then [] else [("required", .array (required.map .string))]) ++
      [("properties", .object properties)]

/-- A body of JSON. -/
def content (schema : Json) : String × Json :=
  ("content", .object [("application/json", .object [("schema", schema)])])

/-- A response by its status, with the schema of its body, if it has one. -/
def response (status description : String) (body : Option Json) : String × Json :=
  (status, .object (("description", .string description) :: (body.map content).toList))

structure Operation where
  name : String
  tag : String
  summary : String
  parameters : List Json
  body : Option Json
  responses : List (String × Json)

def Operation.toJson (o : Operation) : Json :=
  .object <|
    [("tags", .array [.string o.tag]), ("summary", .string o.summary),
      ("operationId", .string o.name)] ++
    (if o.parameters = [] then [] else [("parameters", .array o.parameters)]) ++
    (o.body.map fun schema =>
      ("requestBody", .object [content schema, ("required", .bool true)])).toList ++
    [("responses", .object o.responses)]

def parameter (name place description : String) (required : Bool) (schema : Json) : Json :=
  .object [("name", .string name), ("in", .string place), ("description", .string description),
    ("required", .bool required), ("schema", schema)]

def tag (name description : String) : Json :=
  .object [("name", .string name), ("description", .string description)]

/-! ## Schemas -/

def draftSchema : Json :=
  schema none ["name"] [
    ("color", text [nullable]),
    ("description", text [nullable]),
    ("icon", text [nullable]),
    ("name", exampleText "payments-service"),
    ("state", typed "object" [nullable])]

def revisionSchema : Json :=
  schema (some ("更新工作空间请求\n" ++
      "`description`、`icon`、`color` 显式传 `null` 表示清空，缺省则保持不变")) [] [
    ("color", text [nullable]),
    ("description", text [nullable]),
    ("icon", text [nullable]),
    ("name", text [nullable]),
    ("state", typed "object" [nullable])]

def healthSchema : Json :=
  schema none ["status", "storage"] [
    ("status", exampleText "healthy"),
    ("storage", exampleText "memory")]

def workspaceSchema : Json :=
  schema none ["id", "name", "state", "created_at", "updated_at"] [
    ("color", text [nullable]),
    ("created_at", text [format "date-time"]),
    ("description", text [nullable]),
    ("icon", text [nullable]),
    ("id", text [format "uuid"]),
    ("name", exampleText "payments-service"),
    ("state", typed "object" [("description", .string "不透明的状态数据，始终是 JSON 对象")]),
    ("updated_at", text [format "date-time"])]

/-! ## Operations -/

def idParameter : Json :=
  parameter "workspace_id" "path" "Workspace id" true (text [format "uuid"])

def windowParameter (name description : String) : Json :=
  parameter name "query" description false (typed "integer" [format "int64", nullable])

def workspace : Option Json := some (reference "Workspace")

def notFound : String × Json := response "404" "Workspace not found" none

def invalid : String × Json := response "400" "Validation failed" none

def nameTaken : String × Json := response "409" "A workspace with this name already exists" none

def list : Operation where
  name := "list_workspaces"
  tag := "workspaces"
  summary := "获取工作空间列表（按创建时间倒序）"
  parameters := [
    windowParameter "skip" "跳过的记录数，默认 0",
    windowParameter "limit" "每页数量，默认 100，最大 100"]
  body := none
  responses := [
    response "200" "Workspaces retrieved"
      (some (typed "array" [("items", reference "Workspace")])),
    response "400" "Invalid paging parameters" none]

def create : Operation where
  name := "create_workspace"
  tag := "workspaces"
  summary := "创建工作空间"
  parameters := []
  body := some (reference "CreateWorkspaceRequest")
  responses := [response "201" "Workspace created" workspace, invalid, nameTaken]

def get : Operation where
  name := "get_workspace"
  tag := "workspaces"
  summary := "获取工作空间详情"
  parameters := [idParameter]
  body := none
  responses := [response "200" "Workspace retrieved" workspace, notFound]

def update : Operation where
  name := "update_workspace"
  tag := "workspaces"
  summary := "更新工作空间（部分更新）"
  parameters := [idParameter]
  body := some (reference "UpdateWorkspaceRequest")
  responses := [response "200" "Workspace updated" workspace, invalid, notFound, nameTaken]

def delete : Operation where
  name := "delete_workspace"
  tag := "workspaces"
  summary := "删除工作空间"
  parameters := [idParameter]
  body := none
  responses := [response "200" "Workspace deleted" none, notFound]

def health : Operation where
  name := "health_check"
  tag := "health"
  summary := "健康检查"
  parameters := []
  body := none
  responses := [
    response "200" "Service and store are reachable" (some (reference "HealthResponse")),
    response "503" "Store did not answer" (some (reference "HealthResponse"))]

/-! ## The document -/

def information : Json :=
  .object [
    ("title", .string "Trajan API"),
    ("description", .string "Lightweight developer workspace API"),
    ("license", .object [("name", .string "")]),
    ("version", .string "0.1.0")]

def paths : Json :=
  .object [
    ("/api/v1/workspaces", .object [("get", list.toJson), ("post", create.toJson)]),
    ("/api/v1/workspaces/\x7bworkspace_id\x7d", .object [("get", get.toJson),
      ("delete", delete.toJson), ("patch", update.toJson)]),
    ("/health", .object [("get", health.toJson)])]

def document : Json :=
  .object [
    ("openapi", .string "3.0.3"),
    ("info", information),
    ("paths", paths),
    ("components", .object [("schemas", .object [
      ("CreateWorkspaceRequest", draftSchema),
      ("HealthResponse", healthSchema),
      ("UpdateWorkspaceRequest", revisionSchema),
      ("Workspace", workspaceSchema)])]),
    ("tags", .array [tag "workspaces" "工作空间生命周期", tag "health" "健康检查"])]

end Workspaces.OpenApi
