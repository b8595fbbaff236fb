import Rulebook.Rule.Error
import Rulebook.Service.Message

/-!
# Errors of the service

Every error is answered with the same envelope: that there was no success, the code of the error,
a message and no data. What went wrong inside the service is not told.
-/

namespace Rulebook

/-- Why a request is not granted. -/
inductive ApiError where
  /-- The request is not what it has to be. -/
  | validation (reason : String)
  /-- The tree of a request is no rule tree. -/
  | invalidTree (reason : String)
  /-- A text is not a rule, or rules cannot be combined. -/
  | ruleText (reason : String)
  /-- No rule has this id. -/
  | ruleNotFound (id : String)
  /-- Something went wrong inside. -/
  | internal (reason : String)
  deriving DecidableEq, Repr

namespace ApiError

/-- The code of an error. -/
def code : ApiError → String
  | .validation _ => "VALIDATION_ERROR"
  | .invalidTree _ => "INVALID_AST"
  | .ruleText _ => "RULE_SYNTAX_ERROR"
  | .ruleNotFound _ => "RULE_NOT_FOUND"
  | .internal _ => "INTERNAL_ERROR"

/-- The status of the answer. -/
def status : ApiError → Nat
  | .validation _ | .invalidTree _ | .ruleText _ => 400
  | .ruleNotFound _ => 404
  | .internal _ => 500

/-- The full message of an error. -/
def message : ApiError → String
  | .validation reason => s!"参数验证失败: {reason}"
  | .invalidTree reason => s!"AST 格式无效: {reason}"
  | .ruleText reason => reason
  | .ruleNotFound id => s!"规则不存在: {id}"
  | .internal reason => s!"内部错误: {reason}"

/-- The message that a caller is told. -/
def publicMessage : ApiError → String
  | .internal _ => "服务内部错误，请稍后重试"
  | e => e.message

/-- The envelope of an error. -/
def toJson (e : ApiError) : Json :=
  .object [("code", .string e.code), ("data", .null), ("message", .string e.publicMessage),
    ("success", .bool false)]

/-- The answer to a request that is not granted. -/
def response (e : ApiError) : Response := .json e.status e.toJson

/-- The error for a rule error. -/
def ofRuleError : RuleError → ApiError
  | .notARule cause => .ruleText (RuleError.notARule cause).message
  | .combineFailed index cause => .ruleText (RuleError.combineFailed index cause).message
  | .emptyRule => .validation RuleError.emptyRule.message
  | .ruleNotFound id => .ruleNotFound id

/-- The error for an evaluation that ended without a result. -/
def ofFailedTask (reason : String) : ApiError := .internal s!"评估任务异常退出: {reason}"

end ApiError

end Rulebook
