import BoxTree.Command.Outcome

/-! Panels and tables as plain text. -/

namespace BoxTree.Command

def Panel.lines (panel : Panel) : List String :=
  let details := (panel.details.getD []).map fun detail => "  • " ++ detail
  let hint := match panel.hint with | some hint => ["Hint: " ++ hint] | none => []
  ["❌ " ++ panel.title, panel.message] ++ details ++ hint

namespace Table

def width (cells : List String) : Nat := cells.foldl (fun widest cell => max widest cell.length) 0

def lines (table : Table) : List String :=
  let rows := ("Index", "Node", "Children") :: table.rows
  let indexWidth := width (rows.map (·.1))
  let labelWidth := width (rows.map (·.2.1))
  table.title :: rows.map fun (index, label, children) =>
    Log.padRight indexWidth index ++ "  " ++ Log.padRight labelWidth label ++ "  " ++ children

end Table
end BoxTree.Command
