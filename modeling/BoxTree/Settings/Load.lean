import BoxTree.Settings.Document
import BoxTree.Settings.Promise
import BoxTree.Settings.Sources

/-! Settings from files and the environment. -/

namespace BoxTree

namespace Value

mutual
def lowerKeys : Value → Value
  | map entries => map (Entries.ofEntries (lowerEntries entries))
  | value => value

def lowerEntries : List (Value × Value) → List (Value × Value)
  | [] => []
  | (key, value) :: rest => (.text key.plain.lower, lowerKeys value) :: lowerEntries rest
end

end Value

namespace Settings

def document (means : Promise.Means) : Except SettingError Fields := do
  let kept := means.store.filter fun entry => !Store.reserved.contains entry.1.plain.displayed
  let entries ← kept.mapM fun (name, setting) => do return (name, ← means.settled setting)
  return Entries.ofEntries (Value.lowerEntries entries)

def missingMessage (path : Path) : String := s!"Config file not found: {path.text}"

end Settings

namespace Disk

def settings (disk : Disk) (environment : Environment) (path : Path) : Except SettingsLoadError Settings := do
  if !(← (disk.holds path).mapError fun error => .document (.place error)) then
    throw (.document (.missing (Settings.missingMessage path)))
  let store ← Store.gathered disk environment path
  let document ← (Settings.document ⟨store, environment, disk⟩).mapError .setting
  (SettingsDocument.read document).toExcept.mapError .schema

end Disk
end BoxTree
