import ModalEditor.Command.Grammar
/-!
# Descriptions

A command in words: what it does, how often, on what, and with which register.
-/
namespace ModalEditor

inductive Language
  | english
  | chinese
deriving DecidableEq, Repr

namespace Language

def code : Language → Text
  | english => "en".toList
  | chinese => "zh-CN".toList

def ofCode (t : Text) : Except Fault Language :=
  Fault.unless (.unknownLanguage t) ([english, chinese].find? fun language => language.code = t)

end Language

namespace Command

def kindName (c : Command) : Text :=
  match c.operator with
  | none => "motion".toList
  | some .delete => "delete".toList
  | some .change => "change".toList
  | some .yank => "yank".toList
  | some .paste => "paste".toList
  | some .pasteBefore => "paste-before".toList
  | some .indent => "indent".toList
  | some .dedent => "dedent".toList
  | some .join => "join".toList

def label (language : Language) (operator : Option Operator) : Text :=
  match language, operator with
  | .english, none => "Motion".toList
  | .english, some .delete => "Delete".toList
  | .english, some .change => "Change".toList
  | .english, some .yank => "Yank".toList
  | .english, some .paste => "Paste".toList
  | .english, some .pasteBefore => "Paste Before".toList
  | .english, some .indent => "Indent".toList
  | .english, some .dedent => "Dedent".toList
  | .english, some .join => "Join".toList
  | .chinese, none => "移动".toList
  | .chinese, some .delete => "删除".toList
  | .chinese, some .change => "修改".toList
  | .chinese, some .yank => "复制".toList
  | .chinese, some .paste => "粘贴".toList
  | .chinese, some .pasteBefore => "粘贴到前面".toList
  | .chinese, some .indent => "缩进".toList
  | .chinese, some .dedent => "减少缩进".toList
  | .chinese, some .join => "合并".toList

def inParens (t : Text) : List Text := if t = [] then [] else ['(' :: t ++ [')']]

def countPart : Option Count → Except Fault (List Text)
  | some n => do return ['x' :: (← Text.writeNat n.val)]
  | none => return []

def targetPart : Option Target → List Text
  | some (.motion keys) => inParens keys
  | some (.object o) => inParens o.keys
  | none => []

def registerPart : Option Text → List Text
  | none | some [] => []
  | some name => ['[' :: '"' :: name ++ [']']]

/-- The command in words, its parts separated by spaces. An empty motion or register goes unsaid. -/
def describe (c : Command) (language : Language) : Except Fault Text := do
  let count ← countPart c.count
  return List.intercalate [' '] (label language c.operator :: count ++ targetPart c.target ++ registerPart c.register)

end Command
end ModalEditor
