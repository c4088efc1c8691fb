/-! Lists of items with keys. -/

namespace BoxTree

/-- The items of a list, of several with one key only the last. -/
def latest {γ κ : Type} [DecidableEq κ] (key : γ → κ) : List γ → List γ
  | [] => []
  | item :: rest => if key item ∈ rest.map key then latest key rest else item :: latest key rest

end BoxTree
