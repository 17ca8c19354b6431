import ModalEditor.Fault
/-!
# Text objects

A text object is a word, a quoted piece or a bracketed piece around the cursor. The around variant
takes the delimiters with it, the inner one does not.
-/
namespace ModalEditor

/-- What kind of piece is meant; a big word is any run without spaces and tabs. -/
inductive ObjectKind
  | word
  | bigWord
  | quote
  | paren
  | bracket
  | brace
deriving DecidableEq, Repr

namespace ObjectKind

def name : ObjectKind → Text
  | word => "word".toList
  | bigWord => "WORD".toList
  | quote => "quote".toList
  | paren => "paren".toList
  | bracket => "bracket".toList
  | brace => "brace".toList

def all : List ObjectKind := [word, bigWord, quote, paren, bracket, brace]

def ofName (t : Text) : Except Fault ObjectKind :=
  Fault.unless (.unknownObject t) (all.find? fun kind => kind.name = t)

/-- The opening and the closing delimiter of the bracketed kinds. -/
def delimiters? : ObjectKind → Option (Char × Char)
  | paren => some ('(', ')')
  | bracket => some ('[', ']')
  | brace => some ('\x7b', '\x7d')
  | _ => none

end ObjectKind

/-- A kind with its variant and the character it was asked for by. A quoted piece needs its mark. -/
structure TextObject where
  kind : ObjectKind
  around : Bool
  mark : Option Text := none
  quote_marked : kind = .quote → mark.any (· ≠ []) = true := by decide
deriving DecidableEq, Repr

namespace TextObject

def make (kindName : Text) (around : Bool) (mark : Option Text) : Except Fault TextObject := do
  let kind ← ObjectKind.ofName kindName
  if h : kind = .quote → mark.any (· ≠ []) = true then
    return ⟨kind, around, mark, h⟩
  else
    throw .quoteWithoutMark

def ofKey? (around : Bool) (key : Char) : Option TextObject :=
  match key with
  | 'w' => some ⟨.word, around, none, by decide⟩
  | 'W' => some ⟨.bigWord, around, none, by decide⟩
  | '"' => some ⟨.quote, around, some ['"'], by decide⟩
  | '\'' => some ⟨.quote, around, some ['\''], by decide⟩
  | '(' | ')' => some ⟨.paren, around, some ['('], by decide⟩
  | '[' | ']' => some ⟨.bracket, around, some ['['], by decide⟩
  | '\x7b' | '\x7d' => some ⟨.brace, around, some ['\x7b'], by decide⟩
  | _ => none

def ofKeys? (scope key : Text) : Option TextObject :=
  match scope, key with
  | ['i'], [c] => ofKey? false c
  | ['a'], [c] => ofKey? true c
  | _, _ => none

def scopeKey (o : TextObject) : Char := if o.around then 'a' else 'i'

/-- The keys that ask for an object; brackets without a mark go by their opening delimiter. -/
def keys (o : TextObject) : Text :=
  o.scopeKey ::
    match o.kind with
    | .word => ['w']
    | .bigWord => ['W']
    | kind =>
      match o.mark.filter (· ≠ []), kind.delimiters? with
      | some mark, _ => mark
      | none, some (opening, _) => [opening]
      | none, none => []

end TextObject
end ModalEditor
