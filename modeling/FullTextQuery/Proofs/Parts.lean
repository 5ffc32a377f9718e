import FullTextQuery.Proofs.Acceptance

/-!
# Parts of a query

A part of a clean text is read by itself if its quotes and brackets are closed and it does not begin
with a wildcard. `Part text tokens` says so, with the tokens that it is read as. Parts are put
together with spaces (`Part.space`) and brackets (`Part.group`), a whole text that is a part is
converted as its tokens are (`Part.convert_eq`), and every accepted query that is clean and does not
begin with a wildcard is a part (`part_of_convert`).
-/

namespace FullTextQuery.Query

open Term

/-- A part of a clean text that is read as tokens, whatever stands around it. -/
structure Part (text : Text) (tokens : List Token) : Prop where
  /-- Its phrases are closed. -/
  even : text.count '\"' % 2 = 0
  /-- Its groups are closed. -/
  closed : ∀ depth rest, balancedFrom false depth (text ++ rest) = balancedFrom false depth rest
  /-- It does not begin with a wildcard. -/
  noWildcard : text.head? ≠ some '*'
  /-- Its tokens. -/
  tokens_eq : tokensOfClean text = tokens

/-- After a text in which all is closed, more groups may be open than it closes. -/
theorem balancedFrom_append {inPhrase : Bool} {depth : Nat} {text : Text}
    (even : (text.count '\"' + inPhrase.toNat) % 2 = 0)
    (balanced : balancedFrom inPhrase depth text) (outer : Nat) (rest : Text) :
    balancedFrom inPhrase (depth + outer) (text ++ rest) = balancedFrom false outer rest := by
  induction text generalizing inPhrase depth with
  | nil =>
    cases inPhrase with
    | true => simp at even
    | false =>
      obtain rfl : depth = 0 := beq_iff_eq.mp balanced
      rw [Nat.zero_add, List.nil_append]
  | cons c text ih =>
    rw [balancedFrom] at balanced
    rw [List.cons_append, balancedFrom]
    by_cases isQuote : c = '\"'
    · subst isQuote
      rw [List.count_cons_self] at even
      rw [if_pos rfl] at balanced ⊢
      refine ih ?_ balanced
      cases inPhrase <;> simp at even ⊢ <;> omega
    · rw [List.count_cons_of_ne isQuote] at even
      rw [if_neg isQuote] at balanced ⊢
      cases inPhrase with
      | true =>
        rw [if_pos rfl] at balanced ⊢
        exact ih even balanced
      | false =>
        rw [if_neg Bool.false_ne_true] at balanced ⊢
        split at balanced
        case isTrue opens =>
          rw [if_pos opens, Nat.add_right_comm]
          exact ih even balanced
        case isFalse noOpening =>
          rw [if_neg noOpening]
          split at balanced
          case isTrue closes =>
            rw [Bool.and_eq_true, bne_iff_ne] at balanced
            obtain ⟨opened, later⟩ := balanced
            have inner : depth + outer - 1 = depth - 1 + outer := by omega
            have stillOpened : (depth + outer != 0) = true := by
              rw [bne_iff_ne]
              omega
            rw [if_pos closes, stillOpened, Bool.true_and, inner]
            exact ih even later
          case isFalse noClosing =>
            rw [if_neg noClosing]
            exact ih even balanced

namespace Part

variable {text front back : Text} {tokens frontTokens backTokens : List Token}

/-- Parts on both sides of a space are read by themselves. -/
theorem space (left : Part front frontTokens) (right : Part back backTokens) :
    Part (front ++ ' ' :: back) (frontTokens ++ backTokens) where
  even := by
    have leftEven := left.even
    have rightEven := right.even
    rw [List.count_append, List.count_cons_of_ne (by decide)]
    omega
  closed depth rest := by
    have skip : balancedFrom false depth (' ' :: (back ++ rest)) =
        balancedFrom false depth (back ++ rest) :=
      @balancedFrom_skip [' '] false (by decide) (by decide) depth (back ++ rest)
    rw [List.append_assoc, left.closed, List.cons_append, skip, right.closed]
  noWildcard := by
    cases front with
    | nil => simp
    | cons first front => exact left.noWildcard
  tokens_eq := by
    have none : tokensOfClean [' '] = [] := by decide
    rw [tokensOfClean_append_separator (by decide) (by decide) (by decide) left.even
      right.noWildcard, left.tokens_eq, none, right.tokens_eq, List.append_nil]

/-- A part in brackets is read as a group. -/
theorem group (inner : Part front frontTokens) :
    Part ('(' :: (front ++ [')'])) (.opening :: (frontTokens ++ [.closing])) where
  even := by
    have even := inner.even
    rw [List.count_cons_of_ne (by decide), List.count_append]
    simpa using even
  closed depth rest := by
    have shape : '(' :: (front ++ [')']) ++ rest = '(' :: (front ++ ')' :: rest) := by simp
    have opens : balancedFrom false depth ('(' :: (front ++ ')' :: rest)) =
        balancedFrom false (depth + 1) (front ++ ')' :: rest) := rfl
    have closes : balancedFrom false (depth + 1) (')' :: rest) =
        balancedFrom false depth rest := rfl
    rw [shape, opens, inner.closed, closes]
  noWildcard := by simp
  tokens_eq := by
    have opens : tokensOfClean ['('] = [.opening] := by decide
    have closes : tokensOfClean [')'] = [.closing] := by decide
    have none : tokensOfClean [] = [] := by decide
    have starts : (front ++ [')']).head? ≠ some '*' := by
      cases front with
      | nil => simp
      | cons first front => exact inner.noWildcard
    have outer := @tokensOfClean_append_separator '(' (by decide) (by decide) (by decide) []
      (front ++ [')']) (by decide) starts
    have last := @tokensOfClean_append_separator ')' (by decide) (by decide) (by decide) front []
      inner.even (by simp)
    rw [List.nil_append] at outer
    rw [outer, last, opens, closes, none, inner.tokens_eq]
    simp

theorem bracketsBalance (part : Part text tokens) : bracketsBalance (ofClean text) := by
  have closed := part.closed 0 []
  rw [List.append_nil] at closed
  rw [bracketsBalance_ofClean part.even, closed]
  rfl

/-- A query that cleaning makes a part of is accepted, and its output is that of the tokens. -/
theorem convert_eq {query : Text} (part : Part text tokens)
    (clean : CleanText.ofRaw query = text) :
    convert query = .ok (FullText.ofTokens (Pass.runAll structuralPasses tokens)) := by
  subst clean
  refine convert_eq_ok.mpr ⟨part.even, part.bracketsBalance, ?_⟩
  have read : tokensOf (ofClean (CleanText.ofRaw query)) = tokens := part.tokens_eq
  rw [ofBalancedTerms, read]

end Part

/-- An accepted query that is clean and does not begin with a wildcard is a part. -/
theorem part_of_convert {query output : Text} (clean : CleanText.ofRaw query = query)
    (noWildcard : query.head? ≠ some '*') (accepted : convert query = .ok output) :
    Part query (tokensOfClean query) := by
  obtain ⟨even, balance, -⟩ := convert_eq_ok.mp accepted
  rw [clean] at even balance
  have evenQuotes : query.count '\"' % 2 = 0 := even
  rw [bracketsBalance_ofClean evenQuotes] at balance
  refine ⟨evenQuotes, fun depth rest => ?_, noWildcard, rfl⟩
  have after := balancedFrom_append (by simpa using evenQuotes) balance depth rest
  rwa [Nat.zero_add] at after

end FullTextQuery.Query
