/-
# Errors of execution
-/

import Runbook.Engine.Job
import Runbook.Worker.Basic

namespace Runbook

/-- Why a job, or an operation on jobs, failed. -/
inductive ExecutionError where
  | workflowNotFound (id : String)
  | jobNotFound (id : String)
  | workerNotFound (task : String) (kind : WorkerKind)
  | taskInvalid (task : String) (errors : List String)
  | taskFailed (task : String) (cause : WorkerError)
  | taskTimeout (task : String) (limitMs : Nat)
  | unresolvedReference (task reference : String)
  | unresolvedDependency (remaining : List String)
  | invalidJobState (id : String) (status : JobStatus)
  | taskPanicked (task message : String)
deriving DecidableEq

namespace ExecutionError

/-- The wording of the error. -/
def message : ExecutionError → String
  | .workflowNotFound id => "ワークフローが見つかりません: " ++ id
  | .jobNotFound id => "ジョブが見つかりません: " ++ id
  | .workerNotFound task kind =>
    "タスク '" ++ task ++ "' を担当するワーカー (" ++ kind.word ++ ") が登録されていません"
  | .taskInvalid task errors =>
    "タスク '" ++ task ++ "' のバリデーションに失敗しました: " ++ ", ".intercalate errors
  | .taskFailed task cause =>
    "タスク '" ++ task ++ "' の実行に失敗しました: " ++ cause.message
  | .taskTimeout task limitMs =>
    "タスク '" ++ task ++ "' がタイムアウトしました（" ++ toString limitMs ++ "ms）"
  | .unresolvedReference task reference =>
    "タスク '" ++ task ++ "' の参照 '$\x7b" ++ reference ++ "\x7d' を解決できません"
  | .unresolvedDependency remaining =>
    "依存関係を満たせるタスクがありません。残り: " ++ ", ".intercalate remaining
  | .invalidJobState id status =>
    "ジョブ " ++ id ++ " は " ++ status.word ++ " 状態のため操作できません"
  | .taskPanicked task message =>
    "タスク '" ++ task ++ "' が異常終了しました: " ++ message

/-- Whether a workflow can go on after such an error: the task itself failed or
took too long. -/
def isContinuable : ExecutionError → Bool
  | .taskFailed .. => true
  | .taskTimeout .. => true
  | _ => false

end ExecutionError
end Runbook
