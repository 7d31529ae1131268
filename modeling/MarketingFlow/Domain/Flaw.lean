import MarketingFlow.Text.Quoted

/-!
# Flaws of domains

Why a text is not the name of a domain, or one of its labels is not a label. Places in a label are
counted from one.
-/

namespace MarketingFlow.Domain

inductive Flaw where
  | noName
  | nameTooLong
  | noLabel
  | labelTooLong
  | notComposed
  | reservedHyphens
  | outerHyphen
  | markAtStart
  | badJoiner (code place : Nat) (label : String)
  | outOfContext (code place : Nat) (label : String)
  | notAllowed (code place : Nat) (label : String)
  /-- There is nothing after the sign of a coded label. -/
  | emptyCode
  | hyphenAfterCode
  | badCode
  | unknownDirection (place : Nat) (label : String)
  | undirectedStart (label : String)
  | leftwardInRightward (place : Nat)
  | rightwardInLeftward (place : Nat)
  | mixedNumbers
  | undirectedEnd
  deriving DecidableEq, Repr

namespace Flaw

/-- The name of a code point. -/
def codeName (code : Nat) : String :=
  "U+" ++ (String.ofList (Text.hexDigits 4 code)).map Char.toUpper

def message : Flaw → String
  | noName => "Empty domain"
  | nameTooLong => "Domain too long"
  | noLabel => "Empty Label"
  | labelTooLong => "Label too long"
  | notComposed => "Label must be in Normalization Form C"
  | reservedHyphens => "Label has disallowed hyphens in 3rd and 4th position"
  | outerHyphen => "Label must not start or end with a hyphen"
  | markAtStart => "Label begins with an illegal combining character"
  | badJoiner code place label =>
    "Unknown codepoint adjacent to joiner " ++ codeName code ++ " at position " ++ toString place ++
      " in " ++ Text.quote label
  | outOfContext code place label =>
    "Codepoint " ++ codeName code ++ " not allowed at position " ++ toString place ++ " in " ++
      Text.quote label
  | notAllowed code place label =>
    "Codepoint " ++ codeName code ++ " at position " ++ toString place ++ " of " ++
      Text.quote label ++ " not allowed"
  | emptyCode => "Malformed A-label, no Punycode eligible content found"
  | hyphenAfterCode => "A-label must not end with a hyphen"
  | badCode => "Invalid A-label"
  | unknownDirection place label =>
    "Unknown directionality in label " ++ Text.quote label ++ " at position " ++ toString place
  | undirectedStart label =>
    "First codepoint in label " ++ Text.quote label ++ " must be directionality L, R or AL"
  | leftwardInRightward place =>
    "Invalid direction for codepoint at position " ++ toString place ++ " in a left-to-right label"
  | rightwardInLeftward place =>
    "Invalid direction for codepoint at position " ++ toString place ++ " in a right-to-left label"
  | mixedNumbers => "Can not mix numeral types in a right-to-left label"
  | undirectedEnd => "Label ends with illegal codepoint directionality"

def className : Flaw → String
  | outOfContext _ _ _ => "InvalidCodepointContext"
  | notAllowed _ _ _ => "InvalidCodepoint"
  | unknownDirection _ _ => "IDNABidiError"
  | undirectedStart _ => "IDNABidiError"
  | leftwardInRightward _ => "IDNABidiError"
  | rightwardInLeftward _ => "IDNABidiError"
  | mixedNumbers => "IDNABidiError"
  | undirectedEnd => "IDNABidiError"
  | _ => "IDNAError"

end Flaw

end MarketingFlow.Domain
