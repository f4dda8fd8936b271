import GrammarLayout.Decimal.Shortest
import GrammarLayout.Text.Quoted

/-!
# Values without parts

Whole numbers of up to 64 bits are kept exactly; all other numbers are floating point.
-/

namespace GrammarLayout.Json

open Decimal

inductive Scalar
  | null
  | boolean (value : Bool)
  | integer (value : Int)
  | real (value : Binary64)
  | text (value : String)
  deriving DecidableEq

/-- Floating point numbers in messages are positional from `1e-5` up to below `1e16`. -/
def numberFormat : NumberFormat := ⟨-5, 15⟩

def Scalar.describe : Scalar → String
  | null => "null"
  | boolean b => s!"boolean `{b}`"
  | integer i => s!"integer `{i}`"
  | real x => s!"floating point `{numberFormat.write x}`"
  | text s => s!"string {Text.quoted s}"

end GrammarLayout.Json
