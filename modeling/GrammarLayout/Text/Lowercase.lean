import GrammarLayout.Text.CaseTable
import GrammarLayout.Text.Cased
import GrammarLayout.Text.CaseIgnorable

/-!
# Full lower case

Every character goes to its lower case letter by the case table; the dotted capital I goes to an
i with a separate dot above. A capital sigma at the end of a word becomes the final sigma, which
is the one mapping that looks at the characters around it.
-/

namespace GrammarLayout.Text

/-- The code point that the runs give for `n`, if one of them holds it. -/
def CaseRun.image? : List CaseRun → Nat → Option Nat
  | [], _ => none
  | r :: rest, n =>
    if n < r.first then none
    else if n ≤ r.last ∧ (n - r.first) % r.stride = 0 then some (r.target + (n - r.first))
    else image? rest n

/-- Lower case of one character on its own. -/
def lowerChar (c : Char) : List Char :=
  if c = 'İ' then ['i', '\u0307']
  else
    match CaseRun.image? caseRuns c.toNat with
    | some n => [Char.ofNat n]
    | none => [c]

def isCased (c : Char) : Bool := casedRanges.contains c.toNat

def isCaseIgnorable (c : Char) : Bool := caseIgnorableRanges.contains c.toNat

/-- Whether the first character that casing does not look through is a cased letter. -/
def nextIsCased : List Char → Bool
  | [] => false
  | c :: rest => if isCaseIgnorable c then nextIsCased rest else isCased c

/-- Lower case of what follows `before`, the characters already passed, last one first. -/
def lowerAfter (before : List Char) : List Char → List Char
  | [] => []
  | c :: rest =>
    (if c = 'Σ' then
        if nextIsCased before && !nextIsCased rest then ['ς'] else ['σ']
      else lowerChar c) ++ lowerAfter (c :: before) rest

def lowercase (text : List Char) : List Char := lowerAfter [] text

/-- Lower case of the ASCII letters only; all other characters stay. -/
def asciiLowercase (text : String) : String := text.map Char.toLower

end GrammarLayout.Text
