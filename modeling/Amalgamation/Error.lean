import Amalgamation.Feature.Parse
import Amalgamation.FileTree

/-!
# Errors

Everything that can stop a run is one of the causes listed here. A cause carries the facts about the
input that it reports; its wording is given once, by `Error.message`, and the texts of the causes
behind it, if it has any of its own, by `Error.causes`.
-/

set_option autoImplicit false

namespace Amalgamation

/-- The token that a parse error names, and what is wrong with it. -/
def ParseError.message : ParseError → Text
  | .empty => grammar [] "空表达式"
  | .endsEarly => grammar [] "表达式意外结束"
  | .unclosed => grammar ['('] "括号未闭合"
  | .surplus token => grammar token.text "多余的记号"
  | .mixed token => grammar token.text "&& 与 || 混用时必须加括号"
  | .notAName word => grammar word "不是合法的特性名"
  | .closingExpected token => grammar token.text "此处应为 ')'"
  | .operandExpected token => grammar token.text "此处应为特性名或 '('"
  | .unknownFeature name => "未知特性名称 '".toList ++ name ++ "'".toList
where
  /-- The text of an error of the grammar. -/
  grammar (token : Text) (reason : String) : Text :=
    "表达式语法错误：'".toList ++ token ++ "' ".toList ++ reason.toList

/-- What makes a configuration unusable. -/
inductive ConfigFault where
  | blankField (field : Text)
  | catalog (fault : CatalogFault)
  | noFeature
  | foreignFeature (name featurePrefix : Text)
  deriving DecidableEq, Repr

/-- The wording of a configuration fault. -/
def ConfigFault.message : ConfigFault → Text
  | .blankField field => field ++ " 不能为空".toList
  | .catalog .blankName => "特性名称不能为空".toList
  | .catalog (.duplicateName name) => "重复的特性名称：".toList ++ name
  | .catalog (.duplicateShortName shortName) => "重复的特性别名：".toList ++ shortName
  | .noFeature => "至少需要一个已知特性".toList
  | .foreignFeature name featurePrefix =>
    "特性 ".toList ++ name ++ " 不符合前缀 ".toList ++ featurePrefix

/-- Why a run stopped. Line numbers start at 1. -/
inductive Error where
  | expression (file : Text) (line : Nat) (cause : ParseError)
  | unknownFeature (text : Text)
  | nestedBlock (file : Text) (line openedAt : Nat)
  | blockMismatch (file : Text) (line openedAt : Nat) (expected found : Text)
  | orphanEndif (file : Text) (line : Nat)
  | unclosedBlock (file : Text) (openedAt : Nat) (condition : Text)
  | invalidToggle (file : Text) (line : Nat) (text : Text)
  | includeCycle (chain : List Text)
  | missingEntry (entry : Text)
  | invalidConfig (fault : ConfigFault)
  | badPattern
  | badJson
  | unreadable (path : Path) (fault : FileFault)
  | writing (fault : FileFault)
  deriving DecidableEq, Repr

namespace Error

/-- The file and line that an error points at. -/
def place (file : Text) (line : Nat) : Text := file ++ ':' :: Text.ofNat line ++ ": ".toList

/-- The wording of an error. -/
def message : Error → Text
  | .expression file line cause => place file line ++ cause.message
  | .unknownFeature text => "未知特性：".toList ++ text
  | .nestedBlock file line openedAt =>
    place file line ++ "特性块已在第".toList ++ Text.ofNat openedAt ++ "行打开，不允许嵌套".toList
  | .blockMismatch file line openedAt expected found =>
    place file line ++ "#endif 条件 '".toList ++ found ++ "' 与第".toList ++ Text.ofNat openedAt ++
      "行的 #if 条件 '".toList ++ expected ++ "' 不一致".toList
  | .orphanEndif file line => place file line ++ "特性块未打开，发现孤立的 #endif".toList
  | .unclosedBlock file openedAt condition =>
    place file openedAt ++ "特性块 '".toList ++ condition ++ "' 到文件末尾仍未关闭".toList
  | .invalidToggle file line text =>
    place file line ++ "无效的特性开关定义 '".toList ++ text ++
      "'，应为 '#define <FEATURE> 1'".toList
  | .includeCycle chain => "循环包含：".toList ++ Text.joinWith " -> ".toList chain
  | .missingEntry entry =>
    "入口文件 ".toList ++ entry ++ " 在 include/source 目录中均未找到".toList
  | .invalidConfig fault => "配置无效：".toList ++ fault.message
  | .badPattern => "正则编译失败".toList
  | .badJson => "JSON解析失败".toList
  | .unreadable path fault =>
    "读取文件 ".toList ++ path.text ++ " 失败：".toList ++ fault.message
  | .writing fault => "IO操作失败：".toList ++ fault.message

/-- The texts of the causes behind an error, the nearest first. -/
def causes : Error → List Text
  | .expression _ _ cause => [cause.message]
  | .unreadable _ fault => [fault.message]
  | .writing fault => [fault.message]
  | _ => []

end Error

end Amalgamation
