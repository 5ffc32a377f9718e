import FullTextQuery.Proofs.Dangling
import FullTextQuery.Proofs.PrefixRule
import FullTextQuery.Proofs.Printing
import FullTextQuery.Proofs.Reading

/-!
# Expressions are translated as they are meant

The conversion of the spelling of an expression, from its tokens to the full-text query. The tokens
of an expression nest and have their operators well placed, so no operator is dropped and the passes
are the rule of prefixes. The rule gives each item one symbol (`Expression.prefixed`), and with the
symbols the expression is printed as its full-text query.
-/

namespace FullTextQuery

open Query Prefixed FullText

/-! ## Tokens of expressions -/

/-- The tokens of what stands in front of an item. -/
def negationTokens (negated : Bool) : List Token :=
  if negated then [.keyword .not] else []

/-- The tokens between two items. -/
def Connector.tokens : Connector → List Token
  | .juxtaposition => []
  | .and => [.keyword .and]
  | .or => [.keyword .or]

mutual

/-- The tokens of an atom. -/
def Atom.tokens : Atom → List Token
  | .word word => [.operand word.text]
  | .wildcard word => [.operand (word.text ++ ['*'])]
  | .compound first second => [.phrase ('\"' :: (first.text ++ '-' :: second.text ++ ['\"']))]
  | .phrase first more => [.phrase (spellPhrase first more)]
  | .group inner => .opening :: (inner.tokens ++ [.closing])

/-- The tokens of an expression. -/
def Expression.tokens : Expression → List Token
  | .last negated atom => negationTokens negated ++ atom.tokens
  | .joined negated atom connector rest =>
    negationTokens negated ++ atom.tokens ++ connector.tokens ++ rest.tokens

end

theorem Reads.negation {text : Text} {tokens : List Token} (reads : Reads text tokens)
    (negated : Bool) :
    Reads (spellNegation negated ++ text) (negationTokens negated ++ tokens) := by
  cases negated with
  | false => exact reads
  | true =>
    have whole := (Reads.keyword .not).space reads
    have shape : spellNegation true ++ text = Operator.not.keyword ++ ' ' :: text := rfl
    rw [shape]
    exact whole

theorem Reads.connected {front back : Text} {frontTokens backTokens : List Token}
    (left : Reads front frontTokens) (connector : Connector) (right : Reads back backTokens) :
    Reads (front ++ connector.spelling ++ ' ' :: back)
      (frontTokens ++ connector.tokens ++ backTokens) := by
  cases connector with
  | juxtaposition => simpa [Connector.spelling, Connector.tokens] using left.space right
  | and => exact (left.space (Reads.keyword .and)).space right
  | or => exact (left.space (Reads.keyword .or)).space right

mutual

theorem Atom.reads (atom : Atom) : Reads atom.spelling atom.tokens := by
  cases atom with
  | word word => exact .word word
  | wildcard word => exact .wildcard word
  | compound first second => exact .compound first second
  | phrase first more => exact .phrase first more
  | group inner => exact (Expression.reads inner).group

/-- The spelling of an expression is read as its tokens. -/
theorem Expression.reads (expression : Expression) :
    Reads expression.spelling expression.tokens := by
  cases expression with
  | last negated atom => exact (Atom.reads atom).negation negated
  | joined negated atom connector rest =>
    exact ((Atom.reads atom).negation negated).connected connector (Expression.reads rest)

end

/-! ## Nesting -/

theorem nested_single {token : Token} (notOpening : token ≠ .opening)
    (notClosing : token ≠ .closing) : Brackets.Nested Token.opening Token.closing [token] :=
  .item notOpening notClosing .nil

theorem nested_negation (negated : Bool) :
    Brackets.Nested Token.opening Token.closing (negationTokens negated) := by
  cases negated with
  | false => exact .nil
  | true => exact nested_single (by simp) (by simp)

theorem Connector.nested (connector : Connector) :
    Brackets.Nested Token.opening Token.closing connector.tokens := by
  cases connector with
  | juxtaposition => exact .nil
  | and | or => exact nested_single (by simp) (by simp)

mutual

theorem Atom.nested (atom : Atom) :
    Brackets.Nested Token.opening Token.closing atom.tokens := by
  cases atom with
  | word word => exact nested_single (by simp) (by simp)
  | wildcard word => exact nested_single (by simp) (by simp)
  | compound first second => exact nested_single (by simp) (by simp)
  | phrase first more => exact nested_single (by simp) (by simp)
  | group inner => exact .group (Expression.nested inner) .nil

/-- The brackets of an expression nest. -/
theorem Expression.nested (expression : Expression) :
    Brackets.Nested Token.opening Token.closing expression.tokens := by
  cases expression with
  | last negated atom => exact (nested_negation negated).append (Atom.nested atom)
  | joined negated atom connector rest =>
    exact (((nested_negation negated).append (Atom.nested atom)).append connector.nested).append
      (Expression.nested rest)

end

/-! ## Neighbours -/

/-- Tokens that may come after the end of an item. -/
def FollowItem (tokens : List Token) : Prop :=
  ∀ before : Token, before.endsItem → (before :: tokens).IsChain Fits

/-- Tokens that may come after any token that is not theirs. -/
def StartItem (tokens : List Token) : Prop :=
  ∀ before : Token, (before :: tokens).IsChain Fits

theorem fits_of_takesOperator {right : Token} (takes : right.takesOperator) (left : Token) :
    Fits left right := by
  refine ⟨fun connective => ?_, fun _ => takes⟩
  cases right with
  | keyword operator | symbol operator =>
    cases operator with
    | and | or => cases takes
    | not => cases connective
  | operand text | phrase text => cases connective
  | opening | closing => cases connective

theorem fits_of_endsItem {left right : Token} (ends : left.endsItem) : Fits left right := by
  refine ⟨fun _ => ends, fun spells => ?_⟩
  rw [Token.endsItem_of_isOperator spells] at ends
  cases ends

theorem FollowItem.closing {tokens : List Token} (follow : FollowItem tokens) :
    FollowItem (.closing :: tokens) :=
  fun _ ends => .cons_cons (fits_of_endsItem ends) (follow .closing rfl)

theorem StartItem.connector {tokens : List Token} (start : StartItem tokens)
    (connector : Connector) : FollowItem (connector.tokens ++ tokens) := by
  intro before ends
  cases connector with
  | juxtaposition => exact start before
  | and => exact .cons_cons (fits_of_endsItem ends) (start (.keyword .and))
  | or => exact .cons_cons (fits_of_endsItem ends) (start (.keyword .or))

theorem StartItem.negation {tokens : List Token} (start : StartItem tokens) (negated : Bool) :
    StartItem (negationTokens negated ++ tokens) := by
  intro before
  cases negated with
  | false => exact start before
  | true => exact .cons_cons (fits_of_takesOperator rfl before) (start (.keyword .not))

theorem FollowItem.single {tokens : List Token} (follow : FollowItem tokens) {token : Token}
    (starts : token.startsItem) (ends : token.endsItem) : StartItem (token :: tokens) := by
  intro before
  have takes : token.takesOperator := by rw [Token.takesOperator, starts]; rfl
  exact .cons_cons (fits_of_takesOperator takes before) (follow token ends)

mutual

theorem Atom.startItem (atom : Atom) {after : List Token} (follow : FollowItem after) :
    StartItem (atom.tokens ++ after) := by
  cases atom with
  | word word => exact follow.single rfl rfl
  | wildcard word => exact follow.single rfl rfl
  | compound first second => exact follow.single rfl rfl
  | phrase first more => exact follow.single rfl rfl
  | group inner =>
    intro before
    have chain := Expression.startItem inner follow.closing .opening
    have shape : (Atom.group inner).tokens ++ after =
        .opening :: (inner.tokens ++ .closing :: after) := by simp [Atom.tokens]
    rw [shape]
    exact .cons_cons (fits_of_takesOperator rfl before) chain

/-- The operators of an expression are well placed, whatever comes before it. -/
theorem Expression.startItem (expression : Expression) {after : List Token}
    (follow : FollowItem after) : StartItem (expression.tokens ++ after) := by
  cases expression with
  | last negated atom =>
    rw [Expression.tokens, List.append_assoc]
    exact (Atom.startItem atom follow).negation negated
  | joined negated atom connector rest =>
    have restStarts := Expression.startItem rest follow
    rw [Expression.tokens, List.append_assoc, List.append_assoc, List.append_assoc]
    exact (Atom.startItem atom (restStarts.connector connector)).negation negated

end

theorem Expression.wellPlaced (expression : Expression) : WellPlaced expression.tokens := by
  have ending : FollowItem [.closing] := FollowItem.closing fun before _ => .singleton before
  exact .of_isChain (expression.startItem ending .opening)

/-! ## Prefixed expressions -/

/-- The operator of an item. -/
def itemRule (negated touchesOr : Bool) : Operator :=
  if negated then .not else if touchesOr then .or else .and

theorem shownMark_itemRule (negated touchesOr : Bool) :
    shownMark (itemRule negated touchesOr) = itemPrefix negated touchesOr := by
  cases negated <;> cases touchesOr <;> rfl

mutual

/-- The tokens of an atom behind the symbol of its operator. -/
def Atom.prefixed (rule : Operator) : Atom → List Token
  | .group inner => prefixedGroup rule (inner.prefixedFrom false)
  | atom => .symbol rule :: atom.tokens

/-- The tokens of an expression with one symbol for each item. `orBefore` says that an OR stands
right before it. -/
def Expression.prefixedFrom (orBefore : Bool) : Expression → List Token
  | .last negated atom => atom.prefixed (itemRule negated orBefore)
  | .joined negated atom connector rest =>
    atom.prefixed (itemRule negated (orBefore || connector = .or)) ++
      rest.prefixedFrom (connector = .or)

end

/-! ## The rule on expressions -/

theorem Atom.exists_cons (atom : Atom) :
    ∃ token rest, atom.tokens = token :: rest ∧ token ≠ .keyword .or := by
  cases atom with
  | word word => exact ⟨_, _, rfl, by simp⟩
  | wildcard word => exact ⟨_, _, rfl, by simp⟩
  | compound first second => exact ⟨_, _, rfl, by simp⟩
  | phrase first more => exact ⟨_, _, rfl, by simp⟩
  | group inner => exact ⟨_, _, rfl, by simp⟩

theorem Expression.head?_tokens (expression : Expression) (tail : List Token) :
    (expression.tokens ++ tail).head? ≠ some (.keyword .or) := by
  have starts (negated : Bool) (atom : Atom) (tail : List Token) :
      (negationTokens negated ++ atom.tokens ++ tail).head? ≠ some (.keyword .or) := by
    obtain ⟨token, rest, shape, other⟩ := atom.exists_cons
    cases negated with
    | false => simpa [negationTokens, shape] using other
    | true => simp [negationTokens]
  cases expression with
  | last negated atom => exact starts negated atom tail
  | joined negated atom connector rest =>
    rw [Expression.tokens, List.append_assoc, List.append_assoc]
    exact starts negated atom _

/-- The token after a group is the one after its closing bracket. -/
theorem Expression.afterItem_group (inner : Expression) (tail : List Token) :
    afterItem .opening (inner.tokens ++ .closing :: tail) = tail.head? := by
  obtain ⟨forest, shape⟩ := Forest.exists_flatten inner.nested
  rw [afterItem, if_pos rfl, ← shape, afterGroup_forest]
  rfl

/-- The operators of a run after a negation. -/
def negationRun (run : List Operator) (negated : Bool) : List Operator :=
  if negated then run ++ [.not] else run

theorem prefixItemsFrom_negation (run : List Operator) (negated : Bool) (rest : List Token) :
    prefixItemsFrom run (negationTokens negated ++ rest) =
      prefixItemsFrom (negationRun run negated) rest := by
  cases negated with
  | false => rfl
  | true => exact prefixItemsFrom_operator rfl run rest

theorem ruling_negation {run : List Operator} (noNot : .not ∉ run) (negated : Bool)
    (after : Option Token) :
    ruling (negationRun run negated) after =
      itemRule negated (decide (.or ∈ run) || after = some (.keyword .or)) := by
  cases negated with
  | true => simp [ruling, negationRun, itemRule]
  | false => simp [ruling, negationRun, itemRule, noNot]

/-- The operators between two items. -/
def Connector.run : Connector → List Operator
  | .juxtaposition => []
  | .and => [.and]
  | .or => [.or]

theorem Connector.or_mem_run (connector : Connector) : .or ∈ connector.run ↔ connector = .or := by
  cases connector <;> simp [run]

theorem Connector.not_not_mem_run (connector : Connector) : .not ∉ connector.run := by
  cases connector <;> simp [run]

theorem prefixItems_connector (connector : Connector) (rest : List Token) :
    prefixItems (connector.tokens ++ rest) = prefixItemsFrom connector.run rest := by
  cases connector <;> rfl

theorem head?_connector {rest : List Token} (noOr : rest.head? ≠ some (.keyword .or))
    (connector : Connector) :
    (connector.tokens ++ rest).head? = some (.keyword .or) ↔ connector = .or := by
  cases connector with
  | juxtaposition => simpa [Connector.tokens] using noOr
  | and | or => simp [Connector.tokens]

mutual

theorem Atom.prefixItemsFrom_tokens (atom : Atom) (run : List Operator) (tail : List Token) :
    prefixItemsFrom run (atom.tokens ++ tail) =
      atom.prefixed (ruling run tail.head?) ++ prefixItems tail := by
  cases atom with
  | word word => rfl
  | wildcard word => rfl
  | compound first second => rfl
  | phrase first more => rfl
  | group inner =>
    have shape : (Atom.group inner).tokens ++ tail =
        .opening :: (inner.tokens ++ .closing :: tail) := by simp [Atom.tokens]
    have inside := Expression.prefixItemsFrom_tokens inner [] (.closing :: tail) (by simp) (by simp)
    rw [shape, prefixItemsFrom_item rfl, inner.afterItem_group, prefixItems, inside]
    simp [Atom.prefixed, prefixedGroup, prefixItems, prefixItemsFrom_closing]

/-- The rule gives the items of an expression their symbols. The operators before the expression are
those of one connector, and no OR comes right after it. -/
theorem Expression.prefixItemsFrom_tokens (expression : Expression) (run : List Operator)
    (tail : List Token) (noNot : .not ∉ run) (noOr : tail.head? ≠ some (.keyword .or)) :
    prefixItemsFrom run (expression.tokens ++ tail) =
      expression.prefixedFrom (.or ∈ run) ++ prefixItems tail := by
  cases expression with
  | last negated atom =>
    rw [Expression.tokens, List.append_assoc, prefixItemsFrom_negation,
      Atom.prefixItemsFrom_tokens atom, ruling_negation noNot]
    simp [Expression.prefixedFrom, noOr]
  | joined negated atom connector rest =>
    have inRest := Expression.prefixItemsFrom_tokens rest connector.run tail
      connector.not_not_mem_run noOr
    simp only [connector.or_mem_run] at inRest
    rw [Expression.tokens, List.append_assoc, List.append_assoc, List.append_assoc,
      prefixItemsFrom_negation, Atom.prefixItemsFrom_tokens atom, ruling_negation noNot,
      prefixItems_connector, inRest, Expression.prefixedFrom, List.append_assoc]
    simp only [head?_connector (rest.head?_tokens tail)]

end

/-! ## Printing -/

theorem isBlank_of_isTyped {c : Char} (typed : isTyped c) (visible : c ≠ ' ') :
    Character.isBlank c = false := by
  have codes : ∀ code < 128, isTyped (Char.ofNat code) → Char.ofNat code ≠ ' ' →
      Character.isBlank (Char.ofNat code) = false := by decide +kernel
  exact CleanText.ascii_induction
    (motive := fun c => isTyped c → c ≠ ' ' → Character.isBlank c = false) codes c
    (ascii_of_isTyped typed) typed visible

/-- Typed text without brackets is compact if it begins with no hyphen. -/
theorem TypedText.compact {text : Text} (typed : TypedText text)
    (noBracket : '(' ∉ text ∧ ')' ∉ text) (noHyphen : text.head? ≠ some '-') : Compact text := by
  have untyped {c : Char} (other : isTyped c = false) : c ∉ text := by
    intro member
    have known := typed.typed c member
    rw [other] at known
    cases known
  have space {c : Char} (member : c ∈ text) (blank : Character.isBlank c) : c = ' ' := by
    by_contra visible
    rw [isBlank_of_isTyped (typed.typed c member) visible] at blank
    cases blank
  have inert {c : Char} (member : c ∈ text) (visible : c ≠ ' ') (other : c ≠ '-') : Inert c := by
    refine ⟨isBlank_of_isTyped (typed.typed c member) visible, fun listed => ?_⟩
    simp only [List.mem_cons, List.not_mem_nil, or_false] at listed
    rcases listed with rfl | rfl | rfl | rfl | rfl
    · exact untyped (by decide) member
    · exact other rfl
    · exact untyped (by decide) member
    · exact noBracket.1 member
    · exact noBracket.2 member
  refine ⟨⟨?_, ?_⟩, ?_, untyped (by decide)⟩
  · cases text with
    | nil => exact absurd rfl typed.notEmpty
    | cons c rest =>
      refine ⟨c, rest, rfl, inert List.mem_cons_self (typed.first c rfl) ?_⟩
      rintro rfl
      exact noHyphen rfl
  · rcases List.eq_nil_or_concat' text with empty | ⟨front, c, shape⟩
    · exact absurd empty typed.notEmpty
    · obtain ⟨visible, other⟩ := typed.last c (by rw [shape, List.getLast?_concat]; rfl)
      exact ⟨front, c, shape, inert (by simp [shape]) visible other⟩
  · rw [List.isChain_iff_forall_rel_of_append_cons_cons]
    intro left right before after parts loose
    have fine : CleanText.Apart left right :=
      List.isChain_iff_forall_rel_of_append_cons_cons.mp typed.apart parts
    have inLeft : left ∈ text := by rw [parts]; simp
    have inRight : right ∈ text := by rw [parts]; simp
    rcases loose with ⟨blankLeft, blankRight⟩ | ⟨isMark, isSpace⟩ | ⟨-, rfl⟩
    · exact fine ⟨.inl (space inLeft blankLeft), space inRight blankRight⟩
    · simp only [List.mem_cons, List.not_mem_nil, or_false] at isMark
      rcases isMark with rfl | rfl | rfl | rfl
      · exact untyped (by decide) inLeft
      · exact fine ⟨.inr rfl, isSpace⟩
      · exact untyped (by decide) inLeft
      · exact noBracket.1 inLeft
    · exact noBracket.2 inRight

theorem Word.compact (word : Word) : Compact word.text := by
  refine word.typedText.compact ⟨word.not_mem (by decide), word.not_mem (by decide)⟩ ?_
  simpa using word.head?_ne (c := '-') (by decide) []

theorem Word.compact_wildcard (word : Word) : Compact (word.text ++ ['*']) := by
  have free {c : Char} (other : isWordChar c = false) (noMark : c ≠ '*') :
      c ∉ word.text ++ ['*'] := by simp [word.not_mem other, noMark]
  exact (Reads.wildcard word).typed.compact
    ⟨free (by decide) (by decide), free (by decide) (by decide)⟩ (word.head?_ne (by decide) _)

theorem compact_compound (first second : Word) :
    Compact ('\"' :: (first.text ++ '-' :: second.text ++ ['\"'])) := by
  have mark : TypedText ['\"'] := .single (by decide) (by decide)
  have free {c : Char} (other : isWordChar c = false) (noMark : c ≠ '\"' ∧ c ≠ '-') :
      c ∉ '\"' :: (first.text ++ '-' :: second.text ++ ['\"']) := by
    simp [first.not_mem other, second.not_mem other, noMark]
  exact (mark.append ((first.typedText.hyphen second.typedText).append mark)).compact
    ⟨free (by decide) (by decide), free (by decide) (by decide)⟩ (by simp)

theorem compact_phrase (first : Word) (more : List Word) : Compact (spellPhrase first more) := by
  have free {c : Char} (other : isWordChar c = false) (noMark : c ≠ '\"' ∧ c ≠ ' ') :
      c ∉ spellPhrase first more := by
    simp [spellPhrase_eq, not_mem_phraseBody other noMark.2, noMark.1]
  exact (Reads.phrase first more).typed.compact
    ⟨free (by decide) (by decide), free (by decide) (by decide)⟩ (by simp [spellPhrase_eq])

theorem isSolid_of_mem_negation {negated : Bool} {token : Token}
    (member : token ∈ negationTokens negated) : IsSolid token := by
  cases negated with
  | false => cases member
  | true =>
    rw [List.mem_singleton.mp member]
    exact isSolid_of_isOperator rfl

theorem Connector.isSolid_of_mem {connector : Connector} {token : Token}
    (member : token ∈ connector.tokens) : IsSolid token := by
  cases connector with
  | juxtaposition => cases member
  | and | or =>
    rw [List.mem_singleton.mp member]
    exact isSolid_of_isOperator rfl

mutual

theorem Atom.isSolid_tokens (atom : Atom) : ∀ token ∈ atom.tokens, IsSolid token := by
  cases atom with
  | word word => exact List.forall_mem_singleton.mpr word.compact.toSolid
  | wildcard word => exact List.forall_mem_singleton.mpr word.compact_wildcard.toSolid
  | compound first second =>
    exact List.forall_mem_singleton.mpr (compact_compound first second).toSolid
  | phrase first more => exact List.forall_mem_singleton.mpr (compact_phrase first more).toSolid
  | group inner =>
    intro token member
    rw [Atom.tokens, List.mem_cons, List.mem_append, List.mem_singleton] at member
    rcases member with rfl | inInner | rfl
    · trivial
    · exact Expression.isSolid_tokens inner token inInner
    · trivial

theorem Expression.isSolid_tokens (expression : Expression) :
    ∀ token ∈ expression.tokens, IsSolid token := by
  cases expression with
  | last negated atom =>
    intro token member
    rcases List.mem_append.mp member with inNegation | inAtom
    · exact isSolid_of_mem_negation inNegation
    · exact Atom.isSolid_tokens atom token inAtom
  | joined negated atom connector rest =>
    intro token member
    simp only [Expression.tokens, List.mem_append] at member
    rcases member with ((inNegation | inAtom) | inConnector) | inRest
    · exact isSolid_of_mem_negation inNegation
    · exact Atom.isSolid_tokens atom token inAtom
    · exact Connector.isSolid_of_mem inConnector
    · exact Expression.isSolid_tokens rest token inRest

end

mutual

theorem Atom.printFrom_prefixed (atom : Atom) (rule : Operator) (begins : Bool)
    (rest : List Token) :
    printFrom begins (atom.prefixed rule ++ rest) =
      gap begins ++ shownMark rule ++ atom.fullText ++ printFrom false rest := by
  cases atom with
  | word word => exact printFrom_item (.inl rfl) word.compact begins rule rest
  | wildcard word => exact printFrom_item (.inl rfl) word.compact_wildcard begins rule rest
  | compound first second =>
    exact printFrom_item (.inr rfl) (compact_compound first second) begins rule rest
  | phrase first more =>
    exact printFrom_item (.inr rfl) (compact_phrase first more) begins rule rest
  | group inner =>
    have inside := Expression.printFrom_prefixed inner false true []
    have nothing : printFrom false [] = [] := rfl
    rw [List.append_nil, nothing, List.append_nil] at inside
    rw [Atom.prefixed, printFrom_group, inside]
    rfl

/-- A prefixed expression is printed as its full-text query. -/
theorem Expression.printFrom_prefixed (expression : Expression) (orBefore begins : Bool)
    (tokens : List Token) :
    printFrom begins (expression.prefixedFrom orBefore ++ tokens) =
      gap begins ++ expression.fullTextFrom orBefore ++ printFrom false tokens := by
  cases expression with
  | last negated atom =>
    rw [Expression.prefixedFrom, Atom.printFrom_prefixed atom, shownMark_itemRule]
    simp [Expression.fullTextFrom]
  | joined negated atom connector rest =>
    rw [Expression.prefixedFrom, List.append_assoc, Atom.printFrom_prefixed atom,
      shownMark_itemRule, Expression.printFrom_prefixed rest]
    simp [Expression.fullTextFrom, gap]

end

/-! ## The translation -/

/-- The full-text query of the tokens of an expression. -/
theorem Expression.ofTokens_passes (expression : Expression) :
    ofTokens (Pass.runAll structuralPasses expression.tokens) = expression.fullText := by
  have runs : Pass.runAll structuralPasses expression.tokens =
      supplyAnd (reduce (spellNot
        (distribute .and (distribute .or (dropDangling expression.tokens))))) := rfl
  obtain ⟨forest, shape⟩ := Forest.exists_flatten expression.nested
  have chain := expression.wellPlaced.isChain
  rw [← shape] at chain
  have ruled := expression.prefixItemsFrom_tokens [] [] (by simp) (by simp)
  have printed := expression.printFrom_prefixed false true []
  have nothing : printFrom false [] = [] := rfl
  rw [List.append_nil] at ruled
  rw [List.append_nil, nothing, List.append_nil] at printed
  have passes : Pass.runAll structuralPasses expression.tokens = expression.prefixedFrom false := by
    rw [runs, dropDangling_eq_self expression.wellPlaced, ← shape, passes_forest chain, shape]
    simpa [prefixItems, prefixItemsFrom] using ruled
  rw [FullText.ofTokens_passes expression.isSolid_tokens, passes, printed]
  rfl

/-- Every expression, typed in any letter case, is accepted and translated to the full-text query
that it means. -/
theorem convert_spelling (expression : Expression) (query : Text)
    (spelled : query.map Char.toLower = expression.spelling) :
    convert query = .ok expression.fullText := by
  have reads := expression.reads
  have clean : CleanText.ofRaw query = expression.spelling := reads.typed.ofRaw_eq spelled
  have balanced : balancedFrom false 0 expression.spelling := by
    have closed := reads.closed 0 []
    rw [List.append_nil] at closed
    rw [closed]
    rfl
  refine convert_eq_ok.mpr ⟨?_, ?_, ?_⟩
  · rw [clean]
    exact reads.even
  · rw [clean, bracketsBalance_ofClean reads.even]
    exact balanced
  · have tokens : tokensOf (Term.ofClean expression.spelling) = expression.tokens :=
      reads.tokens_eq
    rw [clean, ofBalancedTerms, tokens, expression.ofTokens_passes]

/-- A word, an excluded group with a phrase in it, a compound and a wildcard. -/
theorem convert_spelling_group :
    convert "Ict AND not (a OR \"B c\") x-Y z*".toList =
      .ok "+ict -(a \"b c\") +\"x-y\" +z*".toList := by
  exact convert_spelling
    (.joined false (.word ⟨['i', 'c', 't'], by decide, by decide, by decide⟩) .and
      (.joined true
        (.group
          (.joined false (.word ⟨['a'], by decide, by decide, by decide⟩) .or
            (.last false
              (.phrase ⟨['b'], by decide, by decide, by decide⟩
                [⟨['c'], by decide, by decide, by decide⟩]))))
        .juxtaposition
        (.joined false
          (.compound ⟨['x'], by decide, by decide, by decide⟩
            ⟨['y'], by decide, by decide, by decide⟩)
          .juxtaposition
          (.last false (.wildcard ⟨['z'], by decide, by decide, by decide⟩)))))
    _ (by decide)

end FullTextQuery
