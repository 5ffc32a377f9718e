import FullTextQuery.Proofs.Lexing

/-!
# Maximal munch

The lexemes of a text are the one way to cut it into delimiters and words such that each delimiter
is the longest one that begins where it stands, no delimiter begins inside a word, and no two words
are neighbours (`ofText_eq_iff`). The scan counts bytes and holds back the word it is in, so its
invariant is about that word: no delimiter begins in it before what is still to be read.
-/

namespace FullTextQuery.Lexeme

/-- A text in front of another, with no delimiter that begins at one of its characters. -/
def NoneBegins (word rest : Text) : Prop :=
  ∀ front back, word = front ++ back → back ≠ [] →
    ∀ delimiter ∈ delimiters, ¬ delimiter <+: back ++ rest

/-- A text cut into its lexemes. -/
structure MaximalMunch (text : Text) (lexemes : List Text) : Prop where
  /-- Joined again, they are the text. -/
  whole : lexemes.flatten = text
  /-- None is empty. -/
  notEmpty : ∀ lexeme ∈ lexemes, lexeme ≠ []
  /-- Each is the longest delimiter that the text from there begins with, or a word. -/
  munched : ∀ before lexeme after, lexemes = before ++ lexeme :: after →
    IsLongest lexeme (lexeme ++ after.flatten) ∨ NoneBegins lexeme after.flatten
  /-- Of two neighbours at least one is a delimiter. -/
  apart : ∀ before left right after, lexemes = before ++ left :: right :: after →
    left ∈ delimiters ∨ right ∈ delimiters

/-! ## Words -/

theorem NoneBegins.nil (rest : Text) : NoneBegins [] rest := fun _ _ parts notEmpty =>
  absurd (List.append_eq_nil_iff.mp parts.symm).2 notEmpty

/-- A word is no delimiter. -/
theorem NoneBegins.not_mem {word rest : Text} (free : NoneBegins word rest) (notEmpty : word ≠ []) :
    word ∉ delimiters := fun isOne =>
  free [] word rfl notEmpty word isOne (List.prefix_append word rest)

theorem NoneBegins.tail {c : Char} {word rest : Text} (free : NoneBegins (c :: word) rest) :
    NoneBegins word rest := fun front back parts =>
  free (c :: front) back (congrArg _ parts)

/-- A character at which no delimiter begins joins the word before it. -/
theorem NoneBegins.concat {word rest : Text} {c : Char} (free : NoneBegins word (c :: rest))
    (none : delimiterAt? (c :: rest) = none) : NoneBegins (word ++ [c]) rest := by
  intro front back parts notEmpty
  rcases List.eq_nil_or_concat' back with rfl | ⟨back, last, rfl⟩
  · exact absurd rfl notEmpty
  · rw [← List.append_assoc] at parts
    obtain ⟨same, isLast⟩ := List.append_inj' parts rfl
    obtain rfl := List.singleton_inj.mp isLast
    rw [List.append_assoc, List.singleton_append]
    cases back with
    | nil => exact delimiterAt?_eq_none.mp none
    | cons first back => exact free front (first :: back) same (List.cons_ne_nil _ _)

/-- The scan holds back a word as a whole. -/
theorem ofTextFrom_append {word rest : Text} (free : NoneBegins word rest) (held : Text) :
    ofTextFrom held 0 (word ++ rest) = ofTextFrom (held ++ word) 0 rest := by
  induction word generalizing held with
  | nil => rw [List.append_nil, List.nil_append]
  | cons c word ih =>
    have none : delimiterAt? (c :: (word ++ rest)) = none :=
      delimiterAt?_eq_none.mpr (free [] (c :: word) rfl (List.cons_ne_nil _ _))
    rw [List.cons_append, ofTextFrom_of_none none, ih free.tail, List.append_assoc,
      List.singleton_append]

/-! ## One lexeme more -/

namespace MaximalMunch

variable {text lexeme rest : Text} {lexemes : List Text}

theorem nil : MaximalMunch [] [] where
  whole := rfl
  notEmpty := nofun
  munched before lexeme after parts := by simp at parts
  apart before left right after parts := by simp at parts

/-- A lexeme in front of a text that is cut: what is asked of it, and of its neighbour. -/
theorem cons (munch : MaximalMunch rest lexemes) (notEmpty : lexeme ≠ [])
    (fits : IsLongest lexeme (lexeme ++ rest) ∨ NoneBegins lexeme rest)
    (apart : ∀ next ∈ lexemes.head?, lexeme ∈ delimiters ∨ next ∈ delimiters) :
    MaximalMunch (lexeme ++ rest) (lexeme :: lexemes) where
  whole := by rw [List.flatten_cons, munch.whole]
  notEmpty := List.forall_mem_cons.mpr ⟨notEmpty, munch.notEmpty⟩
  munched before other after parts := by
    cases before with
    | nil =>
      obtain ⟨rfl, rfl⟩ := List.cons.inj parts
      rwa [munch.whole]
    | cons first before => exact munch.munched before other after (List.cons.inj parts).2
  apart before left right after parts := by
    cases before with
    | nil =>
      obtain ⟨rfl, rfl⟩ := List.cons.inj parts
      exact apart right rfl
    | cons first before => exact munch.apart before left right after (List.cons.inj parts).2

/-- A delimiter in front of a text that is cut. -/
theorem delimiter (munch : MaximalMunch rest lexemes)
    (isLongest : IsLongest lexeme (lexeme ++ rest)) :
    MaximalMunch (lexeme ++ rest) (lexeme :: lexemes) :=
  munch.cons (delimiter_ne_nil isLongest.isOne) (.inl isLongest) fun _ _ => .inl isLongest.isOne

/-- A word that is held back goes in front of a text that is cut and begins with a delimiter. -/
theorem flushed (munch : MaximalMunch rest lexemes) (free : NoneBegins lexeme rest)
    (begins : ∀ next ∈ lexemes.head?, next ∈ delimiters) :
    MaximalMunch (lexeme ++ rest) (flush lexeme lexemes) := by
  cases lexeme with
  | nil => exact munch
  | cons c word =>
    exact munch.cons (List.cons_ne_nil c word) (.inr free) fun next isNext =>
      .inr (begins next isNext)

/-- Without the first lexeme, the rest of the text is cut. -/
theorem tail (munch : MaximalMunch text (lexeme :: lexemes)) :
    MaximalMunch lexemes.flatten lexemes where
  whole := rfl
  notEmpty := (List.forall_mem_cons.mp munch.notEmpty).2
  munched before other after parts :=
    munch.munched (lexeme :: before) other after (congrArg _ parts)
  apart before left right after parts :=
    munch.apart (lexeme :: before) left right after (congrArg _ parts)

end MaximalMunch

/-! ## The scan -/

/-- After a word in which no delimiter begins, the scan cuts the word and the text after it. -/
theorem maximalMunch_ofTextFrom {word text : Text} (free : NoneBegins word text) :
    MaximalMunch (word ++ text) (ofTextFrom word 0 text) := by
  induction text using scan_induction generalizing word with
  | nil => exact MaximalMunch.nil.flushed free nofun
  | delimiter delimiter rest found ih =>
    have isLongest := delimiterAt?_eq_some.mp found
    have later : MaximalMunch rest (ofText rest) := ih (NoneBegins.nil rest)
    rw [ofTextFrom_of_delimiter found]
    refine (later.delimiter isLongest).flushed free fun next isNext => ?_
    obtain rfl := Option.some.inj isNext
    exact isLongest.isOne
  | character c rest none ih =>
    have longer := ih (free.concat none)
    rwa [List.append_assoc, List.singleton_append, ← ofTextFrom_of_none none] at longer

/-- There is only one way to cut a text. The induction is on the lexemes: a word is held back until
the delimiter after it, or until the end. -/
theorem MaximalMunch.ofText_eq {text : Text} {lexemes : List Text}
    (munch : MaximalMunch text lexemes) : ofText text = lexemes := by
  induction lexemes generalizing text with
  | nil =>
    rw [← munch.whole]
    rfl
  | cons lexeme lexemes ih =>
    have later := ih munch.tail
    have notEmpty := munch.notEmpty lexeme List.mem_cons_self
    rw [← munch.whole, List.flatten_cons]
    rcases munch.munched [] lexeme lexemes rfl with isLongest | free
    · rw [ofText_of_delimiter (delimiterAt?_eq_some.mpr isLongest), later]
    · have given (rest : List Text) : flush lexeme rest = lexeme :: rest :=
        if_neg (by simpa using notEmpty)
      have held : ofText (lexeme ++ lexemes.flatten) = prependWord lexeme lexemes := by
        rw [ofText, ofTextFrom_append free, ofTextFrom_eq_prependWord, later, List.nil_append]
      rw [held]
      cases lexemes with
      | nil => exact given []
      | cons next more =>
        have isOne : next ∈ delimiters :=
          (munch.apart [] lexeme next more rfl).resolve_left (free.not_mem notEmpty)
        rw [prependWord, if_pos (isDelimiter_iff.mpr isOne), given]

/-- The lexemes of a text are its only cut with nothing lost, no lexeme empty, each lexeme either
the longest delimiter that begins where it begins or a word at none of whose characters a delimiter
begins, and no two words side by side. -/
theorem ofText_eq_iff (text : Text) (lexemes : List Text) :
    ofText text = lexemes ↔ MaximalMunch text lexemes := by
  constructor
  · rintro rfl
    exact maximalMunch_ofTextFrom (NoneBegins.nil text)
  · exact MaximalMunch.ofText_eq

/-- Delimiters that overlap, next to characters of more than one byte. -/
example : ofText "é!<=>ß:==".toList =
    ["é!".toList, "<=".toList, ">".toList, "ß".toList, ":=".toList, "=".toList] := by
  decide

end FullTextQuery.Lexeme
