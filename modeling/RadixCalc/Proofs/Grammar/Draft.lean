import RadixCalc.Proofs.Grammar

/-!
Drafts: text that is written by the rules for expressions, except that every
operand may have a minus before it, as often as one likes.
-/

namespace RadixCalc

open Scan in
/-- A way to write text of a tier if operands may be negated, with the number of negations at all
depths and the depth of the calls. A literal is negated only from a distance: directly before it the
minus would be its sign. -/
inductive Drafted : Tier → Nat → Nat → List Char → Prop where
  | literal {digits : List Char} (spelled : IsLiteral digits) : Drafted .atom 0 0 digits
  | signedLiteral {digits : List Char} (spelled : IsLiteral digits) :
      Drafted .atom 0 0 ('-' :: digits)
  | name {name : List Char} (spelled : IsName name) : Drafted .atom 0 0 name
  | emptyCall {name blank : List Char} (spelled : IsName name) (spacing : IsBlank blank) :
      Drafted .atom 0 1 (name ++ '(' :: (blank ++ [')']))
  | call {negations calls : Nat} {name before text after : List Char} (spelled : IsName name)
      (spacingBefore : IsBlank before) (drafted : Drafted .assignment negations calls text)
      (spacingAfter : IsBlank after) :
      Drafted .atom negations (calls + 1) (name ++ '(' :: (before ++ text ++ after ++ [')']))
  | group {negations calls : Nat} {before text after : List Char} (spacingBefore : IsBlank before)
      (drafted : Drafted .sum negations calls text) (spacingAfter : IsBlank after) :
      Drafted .atom negations calls ('(' :: (before ++ text ++ after ++ [')']))
  | negated {negations calls : Nat} {before text : List Char} (spacing : IsBlank before)
      (apart : before = [] → startsDecimal text = false)
      (drafted : Drafted .atom negations calls text) :
      Drafted .atom (negations + 1) calls ('-' :: (before ++ text))
  | single {tier : Tier} {negations calls : Nat} {text : List Char}
      (drafted : Drafted tier.tighter negations calls text) : Drafted tier negations calls text
  | chain {operation : Arithmetic} {leftNegations leftCalls rightNegations rightCalls : Nat}
      {leftText before after rightText : List Char}
      (leftDrafted : Drafted operation.tier leftNegations leftCalls leftText)
      (spacingBefore : IsBlank before) (spacingAfter : IsBlank after)
      (rightDrafted : Drafted operation.tier.tighter rightNegations rightCalls rightText) :
      Drafted operation.tier (leftNegations + rightNegations) (max leftCalls rightCalls)
        (leftText ++ before ++ operation.symbol.toList ++ after ++ rightText)
  | assign {targetNegations targetCalls sourceNegations sourceCalls : Nat}
      {targetText before after sourceText : List Char}
      (targetDrafted : Drafted .assignment targetNegations targetCalls targetText)
      (spacingBefore : IsBlank before) (spacingAfter : IsBlank after)
      (sourceDrafted : Drafted .sum sourceNegations sourceCalls sourceText) :
      Drafted .assignment (targetNegations + sourceNegations) (max targetCalls sourceCalls)
        (targetText ++ before ++ '=' :: (after ++ sourceText))

end RadixCalc
