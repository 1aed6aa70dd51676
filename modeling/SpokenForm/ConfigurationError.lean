import SpokenForm.Text

/-! What can be wrong with the limits that a user sets. -/
namespace SpokenForm

/-- A limit that cannot be worked with. -/
inductive ConfigurationError where
  | budgetExceeded (estimate budget : Nat) (token : Text)
  | invalidBudget
  | invalidBatchSize
deriving DecidableEq, Repr

def ConfigurationError.message : ConfigurationError → String
  | budgetExceeded estimate budget token =>
    let shown := String.ofList token
    s!"单个 token 的排列数 {estimate} 超过上限 {budget}，" ++
    s!"无法继续拆分，请调大 max_number_of_permutations_per_split（token: {shown}）"
  | invalidBudget => "max_number_of_permutations_per_split 必须大于 0"
  | invalidBatchSize => "batch_size 必须大于 0"

end SpokenForm
