import RadixCalc.Proofs.Expression
import RadixCalc.Proofs.Lexeme

/-!
The grammar of expressions. A tier is a chain of operands joined by the
operators of that tier, and groups to the left; its operands are of the next
tighter tier, down to atoms. Spacing may stand between any two items, but not
inside a literal or a name, not between a sign and its literal, and not between
the name of a call and its bracket.
-/

namespace RadixCalc

/-- Atoms bind tightest; assignments are joined last. -/
inductive Tier where
  | atom
  | power
  | product
  | sum
  | assignment
deriving DecidableEq, Repr

namespace Tier

/-- What the operands of a tier are; an atom is no chain. -/
def tighter : Tier → Tier
  | atom => atom
  | power => atom
  | product => power
  | sum => product
  | assignment => sum

end Tier

/-- The tier whose chains an operator joins. -/
def Arithmetic.tier : Arithmetic → Tier
  | power => .power
  | times | divide => .product
  | remainder | plus | minus => .sum

open Scan in
/-- A tree of a tier and one way to write it. -/
inductive Written : Tier → Expression → List Char → Prop where
  | literal {digits : List Char} (spelled : IsLiteral digits) :
      Written .atom (.operand (.literal (String.ofList digits) false)) digits
  | signedLiteral {digits : List Char} (spelled : IsLiteral digits) :
      Written .atom (.operand (.literal (String.ofList digits) true)) ('-' :: digits)
  | name {name : List Char} (spelled : IsName name) :
      Written .atom (.operand (.symbol (String.ofList name))) name
  | emptyCall {name blank : List Char} (spelled : IsName name) (spacing : IsBlank blank) :
      Written .atom (.call (String.ofList name) []) (name ++ '(' :: (blank ++ [')']))
  | call {name before text after : List Char} {argument : Expression} (spelled : IsName name)
      (spacingBefore : IsBlank before) (written : Written .assignment argument text)
      (spacingAfter : IsBlank after) :
      Written .atom (.call (String.ofList name) [some argument])
        (name ++ '(' :: (before ++ text ++ after ++ [')']))
  | group {before text after : List Char} {inner : Expression} (spacingBefore : IsBlank before)
      (written : Written .sum inner text) (spacingAfter : IsBlank after) :
      Written .atom inner ('(' :: (before ++ text ++ after ++ [')']))
  | single {tier : Tier} {tree : Expression} {text : List Char}
      (written : Written tier.tighter tree text) : Written tier tree text
  | chain {operation : Arithmetic} {left right : Expression}
      {leftText before after rightText : List Char}
      (leftWritten : Written operation.tier left leftText) (spacingBefore : IsBlank before)
      (spacingAfter : IsBlank after)
      (rightWritten : Written operation.tier.tighter right rightText) :
      Written operation.tier (.arithmetic operation left right)
        (leftText ++ before ++ operation.symbol.toList ++ after ++ rightText)
  | assign {target source : Expression} {targetText before after sourceText : List Char}
      (targetWritten : Written .assignment target targetText) (spacingBefore : IsBlank before)
      (spacingAfter : IsBlank after) (sourceWritten : Written .sum source sourceText) :
      Written .assignment (.assign target source)
        (targetText ++ before ++ '=' :: (after ++ sourceText))

theorem Arithmetic.symbol_balanced (operation : Arithmetic) :
    Bracket.Balanced operation.symbol.toList := by
  apply Bracket.balanced_of_plain
  cases operation <;> simp [Arithmetic.symbol]

/-- Brackets are only written in pairs, around calls and groups. -/
theorem Written.balanced {tier : Tier} {tree : Expression} {text : List Char}
    (written : Written tier tree text) : Bracket.Balanced text := by
  induction written with
  | literal spelled => exact spelled.balanced
  | signedLiteral spelled =>
      exact Bracket.balanced_append (Bracket.balanced_plain (by decide) (by decide))
        spelled.balanced
  | name spelled => exact spelled.balanced
  | emptyCall spelled spacing =>
      exact Bracket.balanced_append spelled.balanced (Bracket.balanced_enclosed spacing.balanced)
  | call spelled spacingBefore written spacingAfter induction =>
      have inner := Bracket.balanced_append
        (Bracket.balanced_append spacingBefore.balanced induction) spacingAfter.balanced
      exact Bracket.balanced_append spelled.balanced (Bracket.balanced_enclosed inner)
  | group spacingBefore written spacingAfter induction =>
      have inner := Bracket.balanced_append
        (Bracket.balanced_append spacingBefore.balanced induction) spacingAfter.balanced
      exact Bracket.balanced_enclosed inner
  | single written induction => exact induction
  | @chain operation left right leftText before after rightText leftWritten spacingBefore
      spacingAfter rightWritten leftInduction rightInduction =>
      have first := Bracket.balanced_append leftInduction spacingBefore.balanced
      have second := Bracket.balanced_append first operation.symbol_balanced
      exact Bracket.balanced_append (Bracket.balanced_append second spacingAfter.balanced)
        rightInduction
  | assign targetWritten spacingBefore spacingAfter sourceWritten targetInduction sourceInduction =>
      have first := Bracket.balanced_append targetInduction spacingBefore.balanced
      have second := Bracket.balanced_append spacingAfter.balanced sourceInduction
      have sign : Bracket.Balanced ['='] := Bracket.balanced_plain (by decide) (by decide)
      exact Bracket.balanced_append first (Bracket.balanced_append sign second)

end RadixCalc
