import FullTextQuery.Character.Blank
import FullTextQuery.Character.WordPart
import FullTextQuery.Text

/-!
Patterns that select log messages: regular expressions with sets, groups, alternatives, counted
repetition and the two anchors. A pattern is matched one character at a time, by the patterns that
are left after the character, and a message is selected if a part of it matches.
-/

namespace FullTextQuery.Log

/-- The characters in a set of ranges, or those outside it. -/
structure CharSet where
  /-- Whether the characters outside the ranges are meant. -/
  negated : Bool
  /-- The ranges, both ends included. -/
  ranges : List (Char × Char)
  /-- The named classes that belong to the set as well. -/
  classes : List Char
deriving DecidableEq, Repr

namespace CharSet

/-- Whether a character is in the class of a letter: digits, word characters or blanks, and with a
capital letter all others. -/
def inClass (c : Char) (letter : Char) : Bool :=
  if letter = 'd' then c.isDigit
  else if letter = 'w' then Character.isWordPart c
  else if letter = 's' then Character.isBlank c
  else if letter = 'D' then !c.isDigit
  else if letter = 'W' then !Character.isWordPart c
  else if letter = 'S' then !Character.isBlank c
  else false

/-- Whether a character is in a set. -/
def contains (set : CharSet) (c : Char) : Bool :=
  set.negated !=
    (set.ranges.any (fun range => range.1 ≤ c && c ≤ range.2) || set.classes.any (inClass c))

/-- The set of one character. -/
def single (c : Char) : CharSet := ⟨false, [(c, c)], []⟩

/-- The set of a class. -/
def ofClass (letter : Char) : CharSet := ⟨false, [], [letter]⟩

/-- Every character but the line feed. -/
def all : CharSet := ⟨true, [('\n', '\n')], []⟩

end CharSet

/-- A pattern. -/
inductive Pattern where
  /-- Nothing matches. -/
  | never
  /-- The empty text matches. -/
  | empty
  /-- One character of a set. -/
  | one (set : CharSet)
  /-- The start of the message. -/
  | start
  /-- The end of the message. -/
  | finish
  /-- One pattern after another. -/
  | next (first second : Pattern)
  /-- Either of two patterns. -/
  | either (first second : Pattern)
  /-- A pattern any number of times. -/
  | many (pattern : Pattern)
deriving DecidableEq, Repr

namespace Pattern

/-! ## Matching -/

/-- Whether a pattern matches the empty text here. -/
def acceptsEmpty (atStart atEnd : Bool) : Pattern → Bool
  | never | one _ => false
  | empty | many _ => true
  | start => atStart
  | finish => atEnd
  | next first second => first.acceptsEmpty atStart atEnd && second.acceptsEmpty atStart atEnd
  | either first second => first.acceptsEmpty atStart atEnd || second.acceptsEmpty atStart atEnd

/-- The patterns of which one must match the rest after a character. -/
def after (atStart : Bool) (c : Char) : Pattern → List Pattern
  | never | empty | start | finish => []
  | one set => if set.contains c then [empty] else []
  | next first second =>
    (first.after atStart c).map (follow · second) ++
      if first.acceptsEmpty atStart false then second.after atStart c else []
  | either first second => first.after atStart c ++ second.after atStart c
  | many pattern => (pattern.after atStart c).map (follow · (many pattern))
where
  /-- One pattern after another, without an empty one in front. -/
  follow (first second : Pattern) : Pattern :=
    if first = empty then second else next first second

/-- Whether a part of a text matches, given the patterns of the parts that have begun. -/
def selectsFrom (pattern : Pattern) (atStart : Bool) (begun : List Pattern) : Text → Bool
  | [] => (pattern :: begun).any (acceptsEmpty atStart true)
  | c :: rest =>
    let tried := pattern :: begun
    tried.any (acceptsEmpty atStart false) ||
      selectsFrom pattern false (tried.flatMap (after atStart c)).eraseDups rest

/-- Whether a part of a text matches. -/
def selects (pattern : Pattern) (text : Text) : Bool :=
  selectsFrom pattern true [] text

/-! ## Reading -/

/-- A pattern between a least and a most number of times; without a most number, at least so
often. -/
def times (pattern : Pattern) (least : Nat) (most : Option Nat) : Pattern :=
  let needed := (List.replicate least pattern).foldr next empty
  match most with
  | none => next needed (many pattern)
  | some most =>
    next needed ((List.replicate (most - least) pattern).foldr
      (fun pattern rest => either empty (next pattern rest)) empty)

/-- What an escaped character stands for. -/
def escaped? (c : Char) : Option CharSet :=
  if ['d', 'w', 's', 'D', 'W', 'S'].contains c then some (.ofClass c)
  else if c = 'n' then some (.single '\n')
  else if c = 't' then some (.single '\t')
  else if c = 'r' then some (.single '\r')
  else if c.isAlphanum || c = '<' || c = '>' then none
  else some (.single c)

/-- The members of a set up to its closing bracket. -/
def members? (set : CharSet) : Text → Option (CharSet × Text)
  | ']' :: rest => some (set, rest)
  | '\\' :: c :: rest =>
    match escaped? c with
    | none => none
    | some more =>
      members? { set with ranges := set.ranges ++ more.ranges,
                          classes := set.classes ++ more.classes } rest
  | first :: '-' :: last :: rest =>
    if last = ']' then
      some ({ set with ranges := set.ranges ++ [(first, first), ('-', '-')] }, rest)
    else if first ≤ last ∧ last ≠ '[' ∧ last ≠ '\\' then
      members? { set with ranges := set.ranges ++ [(first, last)] } rest
    else none
  | c :: rest =>
    if c = '[' then none else members? { set with ranges := set.ranges ++ [(c, c)] } rest
  | [] => none

/-- A set after its opening bracket. A closing bracket that comes first is a member. -/
def set? (text : Text) : Option (CharSet × Text) :=
  let (negated, text) : Bool × Text :=
    match text with
    | '^' :: rest => (true, rest)
    | text => (false, text)
  match text with
  | ']' :: rest => members? ⟨negated, [(']', ']')], []⟩ rest
  | text => members? ⟨negated, [], []⟩ text

/-- The number at the start of a text. -/
def number? (text : Text) : Option (Nat × Text) :=
  let digits := text.takeWhile Char.isDigit
  if digits.isEmpty ∨ 3 < digits.length then none
  else
    some (digits.foldl (fun n c => 10 * n + (c.toNat - 48)) 0, text.drop digits.length)

/-- The bounds of a counted repetition after its opening brace. -/
def bounds? (text : Text) : Option ((Nat × Option Nat) × Text) := do
  let (least, rest) ← number? text
  match rest with
  | '\x7d' :: rest => some ((least, some least), rest)
  | ',' :: '\x7d' :: rest => some ((least, none), rest)
  | ',' :: rest => do
    let (most, rest) ← number? rest
    match rest with
    | '\x7d' :: rest => if least ≤ most then some ((least, some most), rest) else none
    | _ => none
  | _ => none

/-- Drops the question mark after a repetition. It asks for the shortest match, which does not
change what is selected. -/
def dropLazy : Text → Text
  | '?' :: rest => rest
  | text => text

/-- Repeats a pattern as the mark that begins a text says; without one there is no repetition. -/
def repetition? (pattern : Pattern) (text : Text) : Option (Option (Pattern × Text)) :=
  match text with
  | '*' :: rest => some (some (many pattern, dropLazy rest))
  | '+' :: rest => some (some (next pattern (many pattern), dropLazy rest))
  | '?' :: rest => some (some (either empty pattern, dropLazy rest))
  | '\x7b' :: rest =>
    (bounds? rest).map fun ((least, most), rest) => some (times pattern least most, dropLazy rest)
  | _ => some none

/-- Repeats a pattern as all the marks after it say. -/
def repeated? (pattern : Pattern) (text : Text) : Option (Pattern × Text) :=
  match repetition? pattern text with
  | none => none
  | some none => some (pattern, text)
  | some (some (pattern, rest)) =>
    if rest.length < text.length then repeated? pattern rest else none
termination_by text.length

/-- A pattern of one character: a set, an escape, any character or the character itself. -/
def atom? (text : Text) : Option (Pattern × Text) :=
  match text with
  | [] => none
  | '[' :: rest => (set? rest).map fun (set, rest) => (one set, rest)
  | '\\' :: c :: rest => (escaped? c).map fun set => (one set, rest)
  | '.' :: rest => some (one .all, rest)
  | c :: rest =>
    if ['*', '+', '?', '\x7b', '\\'].contains c then none else some (one (.single c), rest)

/-- Drops the mark by which a group is only a bracket. -/
def plainGroup : Text → Text
  | '?' :: ':' :: rest => rest
  | text => text

/-- Reads alternatives up to a closing bracket or the end. `closed` holds the alternatives before
this one and `current` what has been read of it. The reading goes on only where text has been used
up. -/
def alternatives? (closed : Option Pattern) (current : Pattern) (text : Text) :
    Option (Pattern × Text) :=
  match text with
  | [] => some (closed.elim current (either · current), [])
  | ')' :: rest => some (closed.elim current (either · current), ')' :: rest)
  | '|' :: rest => alternatives? (some (closed.elim current (either · current))) empty rest
  | '^' :: rest => alternatives? closed (next current start) rest
  | '$' :: rest => alternatives? closed (next current finish) rest
  | '(' :: rest =>
    if (plainGroup rest).length ≤ rest.length then
      match alternatives? none empty (plainGroup rest) with
      | some (group, ')' :: afterGroup) =>
        match repeated? group afterGroup with
        | some (group, final) =>
          if final.length ≤ rest.length then alternatives? closed (next current group) final
          else none
        | none => none
      | _ => none
    else none
  | piece =>
    match atom? piece with
    | none => none
    | some (atom, rest) =>
      match repeated? atom rest with
      | none => none
      | some (repeated, rest) =>
        if rest.length < piece.length then alternatives? closed (next current repeated) rest
        else none
termination_by text.length

/-- The pattern that a text spells. -/
def ofText? (text : Text) : Option Pattern :=
  match alternatives? none empty text with
  | some (pattern, []) => some pattern
  | _ => none

end Pattern

end FullTextQuery.Log
