import FullTextQuery.Query.Token

/-!
Prefixed tokens: a query in which every word, phrase and group has exactly one operator symbol in
front of it. Operators without something to work on go first; then each connective is handed out
to both its sides, operators that meet are reduced to the strongest, and what has none gets AND.
-/

namespace FullTextQuery.Prefixed

open Token

/-! ## Operators without a side -/

/-- Whether nothing that a connective could have on its left stands there. -/
def lacksLeft : Option Token → Bool
  | none => true
  | some token => token.isConnective || token = .opening

/-- Whether nothing that an operator could have on its right stands there. -/
def lacksRight : Option Token → Bool
  | none => true
  | some token => token.isConnective || token = .closing

/-- Drops operators that lack a side from the rest of a list. `held` is the token before the rest
if it is still there: a NOT that goes takes a connective before it along, and a neighbour that has
gone counts as missing. -/
def dropDanglingFrom (held : Option Token) : List Token → List Token
  | [] => held.toList
  | token :: rest =>
    match token.operator? with
    | none => held.toList ++ dropDanglingFrom (some token) rest
    | some operator =>
      if (operator.isConnective && lacksLeft held) || lacksRight rest.head? then
        if operator = .not ∧ held.any Token.isConnective then dropDanglingFrom none rest
        else held.toList ++ dropDanglingFrom none rest
      else held.toList ++ dropDanglingFrom (some token) rest

/-- Drops every operator that lacks a side: AND and OR need both, NOT its right one. -/
def dropDangling (tokens : List Token) : List Token :=
  dropDanglingFrom none tokens

/-! ## Connectives -/

/-- Splits a list that is read backwards after the item it begins with: a token alone, or after a
closing bracket everything back to the bracket that opens its group. `depth` counts the groups
that are open. A group that is never opened takes the whole list. -/
def splitItem (depth : Nat) : List Token → List Token × List Token
  | [] => ([], [])
  | token :: rest =>
    let inside :=
      match token with
      | .closing => depth + 1
      | .opening => depth - 1
      | _ => depth
    if inside = 0 then ([token], rest)
    else
      let (item, before) := splitItem inside rest
      (token :: item, before)

/-- Takes one more token to a list that is written backwards. A keyword of the operator becomes
its symbol, and the item before it gets the symbol too. -/
def handOut (operator : Operator) (written : List Token) (token : Token) : List Token :=
  if token = .keyword operator then
    let (item, before) := splitItem 0 written
    .symbol operator :: (item ++ .symbol operator :: before)
  else token :: written

/-- Hands a connective out to both its sides: `a or b` becomes `§ a § b`, and a group on the left
gets its symbol before the opening bracket. -/
def distribute (operator : Operator) (tokens : List Token) : List Token :=
  (tokens.foldl (handOut operator) []).reverse

/-! ## Symbols -/

/-- Spells every NOT by its symbol. -/
def spellNot (tokens : List Token) : List Token :=
  tokens.map fun token => if token.isNot then .symbol .not else token

/-- Reduces operators that follow each other to one symbol, the strongest of them. -/
def reduce : List Token → List Token
  | [] => []
  | token :: rest =>
    match token.operator?, reduce rest with
    | none, collapsed => token :: collapsed
    | some operator, .symbol next :: collapsed => .symbol (operator.stronger next) :: collapsed
    | some operator, collapsed => .symbol operator :: collapsed

/-- Puts AND before every word, phrase and group without an operator. `afterOperator` says that
one stands right before the rest. -/
def supplyAndFrom (afterOperator : Bool) : List Token → List Token
  | [] => []
  | token :: rest =>
    if token.isOperator || token = .closing || afterOperator then
      token :: supplyAndFrom token.isOperator rest
    else .symbol .and :: token :: supplyAndFrom false rest

/-- Puts AND before every word, phrase and group without an operator. -/
def supplyAnd (tokens : List Token) : List Token :=
  supplyAndFrom false tokens

end FullTextQuery.Prefixed
