/-
# Requests to the inference service

A request is a prompt, a flag and perhaps a schema for the answer.  An answer is
any JSON value.
-/

import Runbook.Json.Basic

namespace Runbook

/-- What the inference service is asked. -/
structure InferenceRequest where
  prompt : String
  internet : Bool := false
  schema : Option Json := none

/-- The body of a request. -/
def InferenceRequest.toJson (r : InferenceRequest) : Json :=
  .object
    ([("prompt", .string r.prompt), ("add_context_from_internet", .bool r.internet)]
      ++ (r.schema.map fun s => ("response_json_schema", s)).toList)

/-- The environment variable that holds the token. -/
def tokenVariable : String := "MDFLOW_TOKEN"

/-- Why there is no answer.  A detail is the text of the system or of the
reader that failed. -/
inductive InferenceError where
  | missingToken
  | transport (detail : String)
  | service (status : Nat) (message : String)
  | rateLimited
  | invalidResponse (message : String)
  | notJson (detail body : String)
  | json (detail : String)
  | io (detail : String)
deriving DecidableEq

/-- The wording of the error. -/
def InferenceError.message : InferenceError → String
  | .missingToken =>
    "APIトークンが設定されていません（設定ファイルの inference.token または環境変数 "
      ++ tokenVariable ++ "）"
  | .transport detail => "推論サービスとの通信に失敗しました: " ++ detail
  | .service status message =>
    "推論サービスがエラーを返しました: " ++ toString status ++ " - " ++ message
  | .rateLimited => "レート制限を超えました"
  | .invalidResponse message => "不正なレスポンス: " ++ message
  | .notJson detail body =>
    "不正なレスポンス: JSON として解釈できません: " ++ detail ++ ": " ++ body
  | .json detail => "JSONの変換に失敗しました: " ++ detail
  | .io detail => "ファイルの読み込みに失敗しました: " ++ detail

end Runbook
