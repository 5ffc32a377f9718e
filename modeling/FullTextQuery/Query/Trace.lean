import FullTextQuery.Query.CleanText
import FullTextQuery.Query.FullText
import FullTextQuery.Query.Lexeme
import FullTextQuery.Query.Prefixed
import FullTextQuery.Query.Rejection
import FullTextQuery.Query.Stage
import FullTextQuery.Query.Term

/-!
The conversion of a query, with the trace of what each stage left. A query is cleaned, cut into
lexemes and merged into terms; terms become tokens, tokens get their prefixes, and the prefixed
tokens are the full-text query. Quotes are counted before the lexemes are read and brackets after
the phrases are merged; these two checks are all that can reject a query.

`convert` is the conversion and `trace` the conversion with its record. Both run the same stages,
so a trace ends with the answer of `convert`.
-/

namespace FullTextQuery

/-- The record of one conversion. -/
structure Trace where
  /-- The query as it was given. -/
  input : Text
  /-- What each stage left, in order, up to the one after which the query was rejected. -/
  stages : List Snapshot
  /-- The full-text query, or why there is none. -/
  result : Except Rejection Text

namespace Trace

/-- What a stage left, if the conversion came so far. -/
def snapshot? (trace : Trace) (stage : Stage) : Option Snapshot :=
  trace.stages.find? (fun snapshot => snapshot.stage = stage)

end Trace

namespace Query

/-- The number of quotes in a text. -/
def countQuotes (text : Text) : Nat :=
  text.count '\"'

/-- The passes on terms, from balanced terms to visible ones. -/
def lexicalPasses : List (Pass (List Text)) :=
  [⟨.allowed, List.map Term.keepAllowed⟩, ⟨.compounds, Term.mergeCompounds⟩,
    ⟨.wildcards, Term.attachWildcards⟩, ⟨.visible, Term.visible⟩]

/-- The passes on tokens, from the tokens of terms to prefixed tokens. -/
def structuralPasses : List (Pass (List Token)) :=
  [⟨.supported, Prefixed.dropDangling⟩, ⟨.distributedOr, Prefixed.distribute .or⟩,
    ⟨.distributedAnd, Prefixed.distribute .and⟩, ⟨.spelledNot, Prefixed.spellNot⟩,
    ⟨.reduced, Prefixed.reduce⟩, ⟨.prefixed, Prefixed.supplyAnd⟩]

/-- The tokens of the visible terms that balanced terms become. -/
def tokensOf (terms : List Text) : List Token :=
  (Pass.runAll lexicalPasses terms).map Token.ofTerm

/-- The full-text query that balanced terms spell. -/
def ofBalancedTerms (terms : List Text) : Text :=
  FullText.ofTokens (Pass.runAll structuralPasses (tokensOf terms))

/-- Converts a query into a full-text query. -/
def convert (query : Text) : Except Rejection Text :=
  let clean := CleanText.ofRaw query
  if countQuotes clean % 2 = 1 then .error (.oddQuotes (countQuotes clean))
  else
    let terms := Term.mergePhrases (Lexeme.ofText clean)
    if Term.bracketsBalance terms then .ok (ofBalancedTerms terms) else .error .unbalancedBrackets

/-- The stages of the conversion of a query, up to the one after which it is rejected. -/
def snapshots (query : Text) : List Snapshot :=
  let clean := CleanText.ofRaw query
  ⟨.cleanText, [clean]⟩ ::
    if countQuotes clean % 2 = 1 then []
    else
      let lexemes := Lexeme.ofText clean
      let terms := Term.mergePhrases lexemes
      ⟨.lexemes, lexemes⟩ :: ⟨.phrases, terms⟩ ::
        if Term.bracketsBalance terms then
          Pass.record id lexicalPasses terms ++
            Pass.record (List.map Token.text) structuralPasses (tokensOf terms) ++
            [⟨.fullText, [ofBalancedTerms terms]⟩]
        else []

/-- Converts a query and records what each stage left. -/
def trace (query : Text) : Trace :=
  ⟨query, snapshots query, convert query⟩

end Query

end FullTextQuery
