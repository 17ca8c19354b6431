import ModalEditor.Command.Basic
import ModalEditor.Text.Numeral
import ModalEditor.Text.Quoted
/-!
# Written commands

The form in which a command stands in the log: its parts by name, texts quoted, absent parts as `None`.
-/
namespace ModalEditor

def writtenPart (part : Option Text) : Text := (part.map Text.quoted).getD "None".toList

def TextObject.written (o : TextObject) : Text :=
  "TextObject(type=".toList ++ Text.quoted o.kind.name ++
  ", inclusive=".toList ++ (if o.around then "True".toList else "False".toList) ++
  ", character=".toList ++ writtenPart o.mark ++ [')']

/-- The whole command; a count with too many digits cannot be written. -/
def Command.written (c : Command) : Except Fault Text := do
  let count ← match c.count with
    | some n => Text.writeNat n.val
    | none => pure "None".toList
  return "Command(operator=".toList ++ writtenPart (c.operator.map fun op => [op.key]) ++
    ", motion=".toList ++ writtenPart c.motion? ++
    ", count=".toList ++ count ++
    ", text_object=".toList ++ (c.object?.map TextObject.written).getD "None".toList ++
    ", register=".toList ++ writtenPart c.register ++ [')']

end ModalEditor
