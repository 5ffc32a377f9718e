import FullTextQuery.Text

/-!
The stages of a conversion, in order. Each leaves a list of texts: one clean text, the lexemes or
terms, the tokens, and at last the one full-text query. A pass is a stage with what it does to a
list; passes in a row either run or leave a record of every list in between.
-/

namespace FullTextQuery

/-- A stage of a conversion. -/
inductive Stage where
  /-- The query as clean text. -/
  | cleanText
  /-- The lexemes of the clean text. -/
  | lexemes
  /-- Quoted phrases are single terms. -/
  | phrases
  /-- Characters that mean nothing are gone. -/
  | allowed
  /-- Compounds are phrases. -/
  | compounds
  /-- Wildcards belong to the term before them. -/
  | wildcards
  /-- Blank terms are gone. -/
  | visible
  /-- Operators without something to work on are gone. -/
  | supported
  /-- OR stands on both its sides. -/
  | distributedOr
  /-- AND stands on both its sides. -/
  | distributedAnd
  /-- NOT is spelled by its symbol. -/
  | spelledNot
  /-- No two operators follow each other. -/
  | reduced
  /-- Every word, phrase and group has an operator. -/
  | prefixed
  /-- The full-text query. -/
  | fullText
deriving DecidableEq, Repr

namespace Stage

/-- All stages, in the order they run in. -/
def all : List Stage :=
  [.cleanText, .lexemes, .phrases, .allowed, .compounds, .wildcards, .visible,
    .supported, .distributedOr, .distributedAnd, .spelledNot, .reduced, .prefixed,
    .fullText]

/-- The name that a stage is reported by. -/
def name : Stage → Text
  | .cleanText => "preclean".toList
  | .lexemes => "tokenize".toList
  | .phrases => "merge_quotes".toList
  | .allowed => "whitelist".toList
  | .compounds => "merge_hyphens".toList
  | .wildcards => "merge_wildcards".toList
  | .visible => "drop_blanks".toList
  | .supported => "strip_operators".toList
  | .distributedOr => "rewrite_or".toList
  | .distributedAnd => "rewrite_and".toList
  | .spelledNot => "rewrite_not".toList
  | .reduced => "collapse_operators".toList
  | .prefixed => "insert_and".toList
  | .fullText => "postclean".toList

/-- The stage of a name. -/
def ofName? (name : Text) : Option Stage :=
  all.find? (fun stage => stage.name = name)

end Stage

/-- What a stage left. -/
structure Snapshot where
  /-- The stage. -/
  stage : Stage
  /-- The texts that it left; a stage on the whole text leaves one. -/
  tokens : List Text
deriving DecidableEq, Repr

/-- A stage that turns one value into another of its kind. -/
structure Pass (α : Type) where
  /-- The stage. -/
  stage : Stage
  /-- What it does. -/
  run : α → α

namespace Pass

/-- Runs passes one after the other. -/
def runAll {α : Type} (passes : List (Pass α)) (start : α) : α :=
  passes.foldl (fun value pass => pass.run value) start

/-- What passes leave one after the other, given how a value shows as texts. -/
def record {α : Type} (texts : α → List Text) : List (Pass α) → α → List Snapshot
  | [], _ => []
  | pass :: passes, value =>
    ⟨pass.stage, texts (pass.run value)⟩ :: record texts passes (pass.run value)

end Pass

end FullTextQuery
