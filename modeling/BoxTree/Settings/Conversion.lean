import BoxTree.Markup.Json.Reader
import BoxTree.Number.Reading
import BoxTree.Settings.Setting
import BoxTree.Text.Blank
import BoxTree.Value.Show

/-! How texts, and the values that promises give, become values of a wanted kind. -/

namespace BoxTree

/-- The words that stand for truth; every other one stands for falsehood. -/
def truths : List String := ["t", "true", "enabled", "1", "on", "yes"]

def replacing (changes : List (String × String)) (content : String) : String :=
  changes.foldl (fun content (old, new) => content.replace old new) content

def asJson (content : String) : String :=
  replacing [("'", "\""), ("True", "true"), ("False", "false"), ("None", "null")] content

def onlyObject? (content : String) : Option Value :=
  match Json.objectsIn content with
  | [object] => some object
  | _ => none

/-- The JSON value of a text that may have single quotes and capitalized words, or hold an object among other
letters. -/
def looseJson? (content : String) : Option Value :=
  (Json.read content).toOption.or <| (Json.read (asJson content)).toOption.or <|
    (onlyObject? content).or (onlyObject? (asJson content))

namespace Conversion

def ofText (content : String) : Conversion → Except SettingError Value
  | text => .ok (.text content)
  | whole =>
    match Text.integer content.toList with
    | .ok amount => .ok (.int amount)
    | .error fault => .error (.noWhole content fault)
  | number =>
    match Double.read? content.toList with
    | some amount => .ok (.double amount)
    | none => .error (.noNumber content)
  | truth => .ok (.bool (truths.contains (Text.lower (Text.trimmed content))))
  | json =>
    match looseJson? content with
    | some value => .ok value
    | none => .error (.noJson content)

/-- A value of a wanted kind. Numbers are taken as they are, anything else by its text. -/
def ofValue (conversion : Conversion) (value : Value) : Except SettingError Value :=
  match conversion, value with
  | whole, .int amount => .ok (.int amount)
  | whole, .bool held => .ok (.int (if held then 1 else 0))
  | whole, .double amount => if amount.isFinite then .ok (.int amount.truncate) else ofText amount.text whole
  | number, .int amount => .ok (.double (.ofInt amount))
  | number, .bool held => .ok (.double (.ofInt (if held then 1 else 0)))
  | number, .double amount => .ok (.double amount)
  | conversion, value => ofText value.plain.displayed conversion

end Conversion
end BoxTree
