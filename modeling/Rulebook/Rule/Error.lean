/-!
# Errors of rule texts and stored rules

Each error names its cause; positions count the characters in front of the place that is meant.
-/

namespace Rulebook

/-- Why a text is not a rule. -/
inductive SyntaxError where
  /-- There is no condition. -/
  | emptyExpression
  /-- There is something else than a token. -/
  | unexpectedInput (position : Nat) (fragment : String)
  /-- A parenthesis has no partner. -/
  | unbalancedParenthesis (position : Nat)
  /-- A connective lacks a condition on one side. -/
  | missingOperand (connective : String) (position : Nat)
  /-- Several conditions stand side by side. -/
  | missingConnective (count : Nat)
  /-- A comparison has no field, comparator or value. -/
  | malformedComparison (position : Nat) (clause : String)
  /-- The tree would have more levels than `limit`. -/
  | tooDeep (limit : Nat)
  deriving DecidableEq, Repr

/-- What a syntax error tells the writer of the rule. -/
def SyntaxError.message : SyntaxError → String
  | .emptyExpression => "规则为空: 未识别到任何条件"
  | .unexpectedInput position fragment => s!"无法识别的输入 '{fragment}' (位置 {position})"
  | .unbalancedParenthesis position => s!"括号不匹配 (位置 {position})"
  | .missingOperand connective position =>
    s!"逻辑操作符 {connective} 缺少操作数 (位置 {position})"
  | .missingConnective count => s!"条件之间缺少逻辑操作符: 解析后剩余 {count} 个独立子树"
  | .malformedComparison position clause =>
    s!"无法拆分比较条件 '{clause}' (位置 {position})"
  | .tooDeep limit => s!"规则嵌套过深: AST 深度超过上限 {limit}"

/-- Why rules cannot be compiled, combined, saved or found. -/
inductive RuleError where
  /-- The text is not a rule. -/
  | notARule (cause : SyntaxError)
  /-- The text with this index, counted from zero, cannot be joined to those in front of it. -/
  | combineFailed (index : Nat) (cause : SyntaxError)
  /-- The text is blank. -/
  | emptyRule
  /-- No rule has this id. -/
  | ruleNotFound (id : String)
  deriving DecidableEq, Repr

/-- What a rule error tells the caller. -/
def RuleError.message : RuleError → String
  | .notARule cause => s!"规则语法错误: {cause.message}"
  | .combineFailed index cause => s!"第 {index} 条规则合并失败: {cause.message}"
  | .emptyRule => "规则内容不能为空"
  | .ruleNotFound id => s!"规则未找到: {id}"

end Rulebook
