import FullTextQuery.Proofs.BlankRuns
import FullTextQuery.Proofs.ChangedPhrases
import FullTextQuery.Proofs.LoneBlanks

/-!
# White space in queries

Whether a blank of a query can be replaced by a space is decided by the run of blanks it is in and
by what stands on the sides of that run (`RunAround`). `convert_blank` lists where it can. In most
places the texts are the same before the letters are lowered (`BlankRuns`). Elsewhere the blank
stays as it is between the clean texts on its sides. Outside phrases it then adds no term to those
of the two sides if it is a lexeme, since terms without a visible character are dropped, or if a
delimiter or what the terms are keeps them apart (`LoneBlanks`). In a phrase it is dropped, and a
space can be lost there, too (`ChangedPhrases`). `convert_blank_dropped` has an input for each
other place.

Replaced or not, the query is rejected for the same cause, since that is decided by its quotes and
brackets.
-/

namespace FullTextQuery

namespace CleanText

open Text

/-! ## Lower case on both sides of a blank -/

theorem leadsToCased_append {c : Char} (stops : Character.isCaseIgnorable c = false)
    (noCase : Character.isCased c = false) (front back : Text) :
    leadsToCased (front ++ c :: back) = leadsToCased front := by
  induction front with
  | nil => simp [leadsToCased, stops, noCase]
  | cons a front ih =>
    unfold leadsToCased at ih ⊢
    rw [List.cons_append, List.dropWhile_cons, List.dropWhile_cons]
    cases Character.isCaseIgnorable a with
    | true => exact ih
    | false => rfl

/-- No word reaches over a blank, so the texts on its sides are lowered by themselves. -/
theorem lowercaseFrom_append {c : Char} (blank : Character.isBlank c) (afterCased : Bool)
    (front back : Text) : lowercaseFrom afterCased (front ++ c :: back) =
      lowercaseFrom afterCased front ++ c :: lowercaseFrom false back := by
  obtain ⟨stops, noCase, lowered, noSigma⟩ := Character.forall_blank (motive := fun c =>
    Character.isCaseIgnorable c = false ∧ Character.isCased c = false ∧
      Character.lower c = [c] ∧ c ≠ 'Σ') (by decide +kernel) blank
  induction front generalizing afterCased with
  | nil =>
    have start : lowercaseFrom afterCased (c :: back) = c :: lowercaseFrom false back := by
      rw [lowercaseFrom, if_neg noSigma, lowered, stops, noCase]
      rfl
    exact start
  | cons a front ih =>
    rw [List.cons_append, lowercaseFrom, lowercaseFrom, ih, leadsToCased_append stops noCase,
      List.append_assoc]

section Fixed

variable {mark : Char} (fixed : Character.lower mark = [mark]) (noSigma : mark ≠ 'Σ')

include fixed noSigma

theorem head?_lowercaseFrom {text : Text} (first : text.head? = some mark) (afterCased : Bool) :
    (lowercaseFrom afterCased text).head? = some mark := by
  obtain ⟨rest, rfl⟩ := List.head?_eq_some_iff.mp first
  rw [lowercaseFrom, if_neg noSigma, fixed]
  rfl

theorem getLast?_lowercaseFrom {text : Text} (last : text.getLast? = some mark)
    (afterCased : Bool) : (lowercaseFrom afterCased text).getLast? = some mark := by
  obtain ⟨front, rfl⟩ := List.getLast?_eq_some_iff.mp last
  clear last
  induction front generalizing afterCased with
  | nil =>
    rw [List.nil_append, lowercaseFrom, if_neg noSigma, fixed]
    rfl
  | cons a front ih =>
    obtain ⟨lowered, next, -, -, shape⟩ := exists_lowercaseFrom_cons afterCased a (front ++ [mark])
    rw [List.cons_append, shape,
      List.getLast?_append_of_ne_nil _ (lowercaseFrom_ne_nil (by simp) next), ih]

end Fixed

/-- The characters that lexemes are cut at have no case. -/
theorem lower_of_isDelimiter {c : Char} (single : Lexeme.isDelimiter [c]) :
    Character.lower c = [c] ∧ c ≠ 'Σ' := by
  have known : ∀ delimiter ∈ Lexeme.delimiters,
      delimiter.map Char.toLower = delimiter ∧ delimiter.all (·.toNat < 128) := by decide
  obtain ⟨small, ascii⟩ := known [c] (Lexeme.isDelimiter_iff.mp single)
  obtain ⟨noSigma, lowered⟩ := lower_ascii c (by simpa using ascii)
  exact ⟨lowered.trans small, noSigma⟩

/-! ## The ends of clean text -/

theorem head?_smoothed {text : Text} (begins : ∀ c ∈ text.head?, Character.isBlank c = false) :
    (smoothed text).head? = text.head? := by
  cases text with
  | nil => rfl
  | cons c rest =>
    have visible := begins c rfl
    obtain ⟨next, kept⟩ := exists_dropStrayHyphens_cons visible rest
    have first : ∀ d ∈ (c :: squeezeBlanks next).head?, Character.isBlank d = false := by
      rintro d ⟨⟩
      exact visible
    rw [smoothed, kept, squeezeBlanks_cons visible, trim, trimStart_eq_self first,
      head?_trimEnd first]
    rfl

theorem getLast?_smoothed {text : Text}
    (ends : ∀ c ∈ text.getLast?, Character.isBlank c = false) :
    (smoothed text).getLast? = text.getLast? := by
  rcases List.eq_nil_or_concat' text with rfl | ⟨front, c, rfl⟩
  · rfl
  · have visible := ends c (by simp)
    have isLast : (dropStrayHyphens (front ++ [c])).getLast? = some c := by
      rw [dropStrayHyphens, getLast?_dropStrayHyphensFrom (by simp) ends, List.getLast?_concat]
    obtain ⟨kept, shape⟩ := List.getLast?_eq_some_iff.mp isLast
    obtain ⟨rest, trimmed⟩ := trimStart_concat visible (squeezeBlanks kept)
    have last : trimEnd (rest ++ [c]) = rest ++ [c] := trimEnd_eq_self (by simpa using visible)
    rw [smoothed, shape, squeezeBlanks_concat visible, trim, trimmed, last, List.getLast?_concat,
      List.getLast?_concat]

/-- Only a carriage return and a line feed make one lexeme, and clean text ends with neither. -/
theorem cuts_ofRaw (query : Text) {c : Char} (separates : Lexeme.isSeparator c) :
    Lexeme.Cuts (ofRaw query) c := by
  refine Lexeme.separator_cases (motive := Lexeme.Cuts (ofRaw query)) ⟨?_, ?_, ?_⟩ separates
  · have solo : Lexeme.Solo '\t' := by decide
    exact solo.cuts _
  · refine ⟨by decide, by decide, fun last isLast => Bool.eq_false_iff.mpr fun isOne => ?_⟩
    have listed : ∀ delimiter ∈ Lexeme.delimiters, delimiter.getLast? = some '\n' →
        delimiter = ['\n'] ∨ delimiter = ['\r', '\n'] := by decide
    rcases listed _ (Lexeme.isDelimiter_iff.mp isOne) rfl with alone | pair
    · cases alone
    · obtain rfl := (List.cons.inj pair).1
      exact absurd ((ends_ofRaw query).2 _ isLast) (by decide)
  · have solo : Lexeme.Solo ' ' := by decide
    exact solo.cuts _

namespace RunAround

variable {before after front left right back : Text}
  (run : RunAround before after front left right back)

include run

/-- What stands before a run of blanks ends the clean text of it. -/
theorem getLast?_pared (free : '&' ∉ before) (notEmpty : front ≠ []) :
    (pared before).getLast? = (front.map plainMark).getLast? := by
  have visible := run.visible_last
  have ends : ∀ c ∈ (lined (front.map plainMark)).getLast?, Character.isBlank c = false := by
    rwa [getLast?_lined visible]
  rw [pared_eq_smoothed free, run.lined_before notEmpty, getLast?_smoothed ends,
    getLast?_lined visible]

/-- What stands after it begins the clean text of that. -/
theorem head?_pared (free : '&' ∉ after) : (pared after).head? = (back.map plainMark).head? := by
  rw [pared_eq_smoothed free, run.lined_after, head?_smoothed (head?_lined _)]
  have visible := run.visible_first
  cases plain : back.map plainMark with
  | nil => rfl
  | cons c rest =>
    rw [plain] at visible
    rw [cutsAtVisible_lined.cons (visible c rfl), List.head?_cons, List.head?_cons]

theorem getLast?_ofRaw (free : '&' ∉ before) {mark : Char}
    (isLast : (front.map plainMark).getLast? = some mark) (single : Lexeme.isDelimiter [mark]) :
    (ofRaw before).getLast? = some mark := by
  have notEmpty : front ≠ [] := by
    rintro rfl
    cases isLast
  obtain ⟨fixed, noSigma⟩ := lower_of_isDelimiter single
  rw [ofRaw_eq_lowercase]
  exact getLast?_lowercaseFrom fixed noSigma ((run.getLast?_pared free notEmpty).trans isLast) false

theorem head?_ofRaw (free : '&' ∉ after) {mark : Char}
    (isFirst : (back.map plainMark).head? = some mark) (single : Lexeme.isDelimiter [mark]) :
    (ofRaw after).head? = some mark := by
  obtain ⟨fixed, noSigma⟩ := lower_of_isDelimiter single
  rw [ofRaw_eq_lowercase]
  exact head?_lowercaseFrom fixed noSigma ((run.head?_pared free).trans isFirst) false

/-- No ampersand begins the clean text of what follows a run, if there is none. -/
theorem head?_ofRaw_ne (free : '&' ∉ after) : (ofRaw after).head? ≠ some '&' := by
  rw [ofRaw_eq_lowercase, lowercase]
  intro first
  have isFirst : (pared after).head? = some '&' := head?_of_lowercaseFrom (by decide +kernel) first
  rw [run.head?_pared free] at isFirst
  refine not_mem_map_plainMark free ?_
  rw [run.tail, List.map_append]
  exact List.mem_append_right _ (List.mem_of_mem_head? isFirst)

/-- The delimiters next to a run stand next to it in clean text, too. -/
theorem besideDelimiter_ofRaw (freeBefore : '&' ∉ before) (freeAfter : '&' ∉ after)
    (beside : Query.BesideDelimiter (front.map plainMark) (back.map plainMark)) :
    Query.BesideDelimiter (ofRaw before) (ofRaw after) := by
  rcases beside with ⟨last, isLast, parting⟩ | ⟨first, isFirst, parting⟩ | ⟨isLast, isFirst⟩
  · exact .inl ⟨last, run.getLast?_ofRaw freeBefore isLast parting.1, parting⟩
  · exact .inr (.inl ⟨first, run.head?_ofRaw freeAfter isFirst parting.1, parting⟩)
  · exact .inr (.inr ⟨run.getLast?_ofRaw freeBefore isLast rfl,
      run.head?_ofRaw freeAfter isFirst rfl⟩)

end RunAround

end CleanText

namespace Query

open CleanText Lexeme Term Text

/-! ## Rejections -/

/-- Queries with the same quotes and brackets are rejected alike, or both are accepted. -/
theorem convert_of_sameMarks {left right : Text}
    (same : (ofRaw left).filter isMark = (ofRaw right).filter isMark) :
    (∃ rejection, convert left = .error rejection ∧ convert right = .error rejection) ∨
      (convert left = .ok (ofBalancedTerms (ofClean (ofRaw left))) ∧
        convert right = .ok (ofBalancedTerms (ofClean (ofRaw right)))) := by
  have quotes : (ofRaw left).count '\"' = (ofRaw right).count '\"' := by
    have quoteIsMark : isMark '\"' := by decide
    have counts := congrArg (List.count '\"') same
    rwa [List.count_filter quoteIsMark, List.count_filter quoteIsMark] at counts
  have number : countQuotes (ofRaw left) = countQuotes (ofRaw right) := quotes
  rcases Nat.mod_two_eq_zero_or_one (countQuotes (ofRaw right)) with even | odd
  · have evenRight : (ofRaw right).count '\"' % 2 = 0 := even
    have balance : bracketsBalance (ofClean (ofRaw left)) =
        bracketsBalance (ofClean (ofRaw right)) := by
      rw [bracketsBalance_ofClean (quotes ▸ evenRight), bracketsBalance_ofClean evenRight,
        (SameShape.of_filter same).balance]
    have noOdd : ¬ countQuotes (ofRaw right) % 2 = 1 := by omega
    rw [convert_eq, convert_eq, number, if_neg noOdd, if_neg noOdd, balance]
    cases bracketsBalance (ofClean (ofRaw right)) with
    | true => exact .inr ⟨if_pos rfl, if_pos rfl⟩
    | false => exact .inl ⟨_, if_neg Bool.false_ne_true, if_neg Bool.false_ne_true⟩
  · rw [convert_eq, convert_eq, number, if_pos odd, if_pos odd]
    exact .inl ⟨_, rfl, rfl⟩

theorem convert_congr {left right : Text}
    (sameMarks : (ofRaw left).filter isMark = (ofRaw right).filter isMark)
    (sameTokens : tokensOfClean (ofRaw left) = tokensOfClean (ofRaw right)) :
    convert left = convert right := by
  have texts : ofBalancedTerms (ofClean (ofRaw left)) = ofBalancedTerms (ofClean (ofRaw right)) :=
    congrArg (fun tokens => FullText.ofTokens (Pass.runAll structuralPasses tokens)) sameTokens
  rcases convert_of_sameMarks sameMarks with ⟨rejection, isLeft, isRight⟩ | ⟨isLeft, isRight⟩
  · rw [isLeft, isRight]
  · rw [isLeft, isRight, texts]

/-- Which blank stands at a place makes no difference to the quotes and brackets. -/
theorem filter_isMark_ofRaw_insert {c : Char} (blank : Character.isBlank c) (before after : Text) :
    (ofRaw (before ++ c :: after)).filter isMark = (ofRaw (before ++ after)).filter isMark := by
  have noMark : isMark (plainMark c) = false := by
    rw [plainMark_of_blank blank, isMark_of_blank c blank]
  rw [filter_isMark_ofRaw, filter_isMark_ofRaw, List.map_append, List.map_cons, List.map_append,
    List.filter_append, List.filter_cons_of_neg (by simp [noMark]), List.filter_append]

theorem filter_isMark_ofRaw_space {c : Char} (blank : Character.isBlank c) (before after : Text) :
    (ofRaw (before ++ c :: after)).filter isMark =
      (ofRaw (before ++ ' ' :: after)).filter isMark := by
  have space : Character.isBlank ' ' := by decide
  rw [filter_isMark_ofRaw_insert blank, filter_isMark_ofRaw_insert space]

/-! ## Replacing a blank -/

section Replaced

variable {before after front left right back : Text} {c : Char}

theorem convert_of_pared (same : pared (before ++ c :: after) = pared (before ++ ' ' :: after)) :
    convert (before ++ c :: after) = convert (before ++ ' ' :: after) := by
  rw [convert_eq, convert_eq, ofRaw_eq_lowercase, ofRaw_eq_lowercase, same]

/-- A blank that stays as it is stands in clean text between the clean texts of its sides. -/
theorem ofRaw_of_kept (blank : Character.isBlank c)
    (kept : pared (before ++ c :: after) = pared before ++ c :: pared after) :
    ofRaw (before ++ c :: after) = ofRaw before ++ c :: ofRaw after := by
  simp only [ofRaw_eq_lowercase, kept, lowercase, lowercaseFrom_append blank]

variable (blank : Character.isBlank c)
  (kept : pared (before ++ c :: after) = pared before ++ c :: pared after)

include blank kept

/-- A blank that stays in the clean text, outside phrases, parts it if it is a lexeme, if a
delimiter stands next to it or if the terms there are apart without it. -/
theorem tokensOfClean_ofRaw (run : RunAround before after front left right back)
    (free : '&' ∉ before ++ after)
    (parts : isSeparator c ∨ BesideDelimiter (front.map plainMark) (back.map plainMark) ∨
      TermsApart (ofRaw before) (ofRaw after))
    (outside : quoteMarks before % 2 = 0) (noWildcard : ¬ LeadsWildcard (ofRaw after)) :
    tokensOfClean (ofRaw (before ++ c :: after)) =
      tokensOfClean (ofRaw before) ++ tokensOfClean (ofRaw after) := by
  obtain ⟨freeBefore, freeAfter⟩ := not_or.mp (List.mem_append.not.mp free)
  have closed : (ofRaw before).count '\"' % 2 = 0 := by
    rw [← outside, ← countQuotes_ofRaw]
    rfl
  rw [ofRaw_of_kept blank kept]
  cases separates : isSeparator c with
  | true => exact tokensOfClean_append_blank (cuts_ofRaw before separates) blank closed noWildcard
  | false =>
    have parted := parts.resolve_left (by simp [separates])
    have noBreak : (ofRaw after).head? ≠ some '\n' := fun first =>
      absurd ((ends_ofRaw after).1 _ first) (by decide)
    have apart := parted.imp_left (run.besideDelimiter_ofRaw freeBefore freeAfter)
    exact tokensOfClean_append_dropped blank separates closed noBreak noWildcard
      (run.head?_ofRaw_ne freeAfter) apart

variable (kept' : pared (before ++ ' ' :: after) = pared before ++ ' ' :: pared after)

include kept'

theorem convert_of_outside (run : RunAround before after front left right back)
    (free : '&' ∉ before ++ after)
    (parts : isSeparator c ∨ BesideDelimiter (front.map plainMark) (back.map plainMark) ∨
      TermsApart (ofRaw before) (ofRaw after))
    (outside : quoteMarks before % 2 = 0) (noWildcard : ¬ LeadsWildcard (ofRaw after)) :
    convert (before ++ c :: after) = convert (before ++ ' ' :: after) := by
  refine convert_congr (filter_isMark_ofRaw_space blank before after) ?_
  rw [tokensOfClean_ofRaw blank kept run free parts outside noWildcard,
    tokensOfClean_ofRaw (by decide) kept' run free (.inl rfl) outside noWildcard]

/-- In a phrase it makes no difference if a space is lost there. -/
theorem convert_of_inside (inside : quoteMarks before % 2 = 1)
    (lost : SpaceLost (ofRaw before) (ofRaw after)) :
    convert (before ++ c :: after) = convert (before ++ ' ' :: after) := by
  rcases convert_of_sameMarks (filter_isMark_ofRaw_space blank before after) with
    ⟨cause, isLeft, isRight⟩ | ⟨isLeft, isRight⟩
  · rw [isLeft, isRight]
  have opened : (ofRaw before).count '\"' % 2 = 1 := by
    rw [← inside, ← countQuotes_ofRaw]
    rfl
  have noQuote := ne_quote_of_isBlank blank
  have paired := (convert_eq_ok.mp isLeft).1
  rw [ofRaw_of_kept blank kept, countQuotes, List.count_append,
    List.count_cons_of_ne noQuote] at paired
  rw [isLeft, isRight, ofRaw_of_kept blank kept, ofRaw_of_kept (by decide) kept',
    ofBalancedTerms_insert_lost blank opened (by omega) lost]

end Replaced

/-- Where a blank of a run can stand for a space. Except at an end of the query and beside a line
feed, the hyphens next to the run have to stay as they do. -/
inductive ReadsAsSpace (before : Text) (c : Char) (after front left right back : Text) : Prop
  /-- At an end of the query. -/
  | edge (outer : front = [] ∨ back = [])
  /-- Beside a line feed, which the run becomes. -/
  | lineFeed (breaks : '\n' ∈ left ++ right)
  /-- Beside other blanks, with which it becomes a space. -/
  | long (other : c ≠ '\n') (long : left ++ right ≠ [])
      (alike : HyphensAlike front left c right back)
  /-- Beside a stray hyphen, with which the run goes. -/
  | hyphen (stray : StrayBefore front ∨ StrayAfter back)
      (alike : HyphensAlike front left c right back)
  /-- Outside phrases, where the terms on both sides are apart with it. -/
  | between (parts : isSeparator c ∨ BesideDelimiter (front.map plainMark) (back.map plainMark) ∨
        TermsApart (ofRaw before) (ofRaw after))
      (outside : quoteMarks before % 2 = 0) (noWildcard : ¬ LeadsWildcard (ofRaw after))
      (alike : HyphensAlike front left c right back)
  /-- In a phrase, where a space is lost. -/
  | phrase (inside : quoteMarks before % 2 = 1) (lost : SpaceLost (ofRaw before) (ofRaw after))
      (alike : HyphensAlike front left c right back)

/-- Any blank of a query can be replaced by a space. The query is then rejected as it was, if it
was. Every blank has a run around it; if there the blank can stand for a space, and the query has
no ampersand, it is converted as it was. -/
theorem convert_blank (before after : Text) (c : Char) (blank : Character.isBlank c) :
    (∀ rejection, convert (before ++ c :: after) = .error rejection ↔
      convert (before ++ ' ' :: after) = .error rejection) ∧
    (∃ front left right back, RunAround before after front left right back) ∧
    ∀ front left right back, RunAround before after front left right back →
      '&' ∉ before ++ after → ReadsAsSpace before c after front left right back →
      convert (before ++ c :: after) = convert (before ++ ' ' :: after) := by
  have space : Character.isBlank ' ' := by decide
  refine ⟨fun rejection => ?_, exists_runAround before after,
    fun front left right back run free reads => ?_⟩
  · rcases convert_of_sameMarks (filter_isMark_ofRaw_space blank before after) with
      ⟨cause, isLeft, isRight⟩ | ⟨isLeft, isRight⟩
    · rw [isLeft, isRight]
    · simp [isLeft, isRight]
  · by_cases breaks : '\n' ∈ left ++ right
    · exact convert_of_pared (run.pared_of_lineFeed free breaks blank space)
    cases reads with
    | edge outer => exact convert_of_pared (run.pared_of_edge free outer blank space)
    | lineFeed isBreak => exact absurd isBreak breaks
    | long other long alike =>
      exact convert_of_pared (run.pared_of_long free breaks long alike blank other)
    | hyphen stray alike => exact convert_of_pared (run.pared_of_stray free stray alike blank)
    | between parts outside noWildcard alike =>
      rcases run.pared_eq_or_kept free breaks alike blank with same | ⟨kept, kept'⟩
      · exact convert_of_pared same
      · exact convert_of_outside blank kept kept' run free parts outside noWildcard
    | phrase inside lost alike =>
      rcases run.pared_eq_or_kept free breaks alike blank with same | ⟨kept, kept'⟩
      · exact convert_of_pared same
      · exact convert_of_inside blank kept kept' inside lost

/-- One input for each reason but the ends of a query and line feeds. In the last three the terms
are apart beside a delimiter, beside a hyphen that is not stray and before a compound that begins
with a wildcard. -/
theorem convert_blank_phrase :
    (let before := "\"a".toList
     let after := "\u2003b\" Title:\t(c)".toList
     RunAround before after "\"a".toList [] ['\u2003'] "b\"  \t(c)".toList ∧
       convert (before ++ '\u00a0' :: after) = convert (before ++ ' ' :: after) ∧
       convert (before ++ ' ' :: after) = .ok "+\"a b\" +(+c)".toList) ∧
    (let before := "(- ".toList
     let after := "- b)".toList
     RunAround before after "(-".toList [' '] [] "- b)".toList ∧
       convert (before ++ '\t' :: after) = convert (before ++ ' ' :: after) ∧
       convert (before ++ ' ' :: after) = .ok "+(-b)".toList) ∧
    (let before := "a-".toList
     let after := "b (c)".toList
     RunAround before after before [] [] after ∧
       convert (before ++ '\u00a0' :: after) = convert (before ++ ' ' :: after) ∧
       convert (before ++ ' ' :: after) = .ok "+a +b +(+c)".toList) ∧
    (let before := "\"(".toList
     let after := "a)\" b".toList
     RunAround before after before [] [] after ∧
       convert (before ++ '\t' :: after) = convert (before ++ ' ' :: after) ∧
       convert (before ++ ' ' :: after) = .ok "+\"(a)\" +b".toList) ∧
    (let before := "\"a b\"".toList
     let after := "[c]".toList
     RunAround before after before [] [] after ∧
       convert (before ++ '\u00a0' :: after) = convert (before ++ ' ' :: after) ∧
       convert (before ++ ' ' :: after) = .ok "+\"a b\" +(+c)".toList) ∧
    (let before := "(-".toList
     let after := "b)".toList
     RunAround before after before [] [] after ∧
       convert (before ++ '\u00a0' :: after) = convert (before ++ ' ' :: after) ∧
       convert (before ++ ' ' :: after) = .ok "+(-b)".toList) ∧
    (let before := "a".toList
     let after := "*-b".toList
     RunAround before after before [] [] after ∧
       convert (before ++ '\t' :: after) = convert (before ++ ' ' :: after) ∧
       convert (before ++ ' ' :: after) = .ok "+a +\"*-b\"".toList) := by
  refine ⟨?long, ?notStray, ?hyphen, ?phrase, ?bracket, ?apart, ?wildcard⟩
  case long =>
    have run : RunAround "\"a".toList "\u2003b\" Title:\t(c)".toList "\"a".toList [] ['\u2003']
        "b\"  \t(c)".toList := by decide +kernel
    refine ⟨run, ?_, by decide +kernel⟩
    refine (convert_blank _ _ '\u00a0' (by decide)).2.2 _ _ _ _ run (by decide) ?_
    exact .long (by decide) (by decide) fun stray => absurd stray (by decide +kernel)
  case notStray =>
    have run : RunAround "(- ".toList "- b)".toList "(-".toList [' '] [] "- b)".toList := by
      decide +kernel
    refine ⟨run, ?_, by decide +kernel⟩
    refine (convert_blank _ _ '\t' (by decide)).2.2 _ _ _ _ run (by decide) ?_
    exact .long (by decide) (by decide) fun stray => absurd stray (by decide +kernel)
  case hyphen =>
    have run : RunAround "a-".toList "b (c)".toList "a-".toList [] [] "b (c)".toList := by
      decide +kernel
    refine ⟨run, ?_, by decide +kernel⟩
    refine (convert_blank _ _ '\u00a0' (by decide)).2.2 _ _ _ _ run (by decide) ?_
    exact .hyphen (.inl (strayBefore_of_isWordPart (by decide +kernel) [])) fun _ _ => Iff.rfl
  case phrase =>
    have run : RunAround "\"(".toList "a)\" b".toList "\"(".toList [] [] "a)\" b".toList := by
      decide +kernel
    refine ⟨run, ?_, by decide +kernel⟩
    refine (convert_blank _ _ '\t' (by decide)).2.2 _ _ _ _ run (by decide) ?_
    exact .phrase (by decide) (by decide +kernel) fun stray => absurd stray (by decide +kernel)
  case bracket =>
    have run : RunAround "\"a b\"".toList "[c]".toList "\"a b\"".toList [] [] "[c]".toList := by
      decide +kernel
    refine ⟨run, ?_, by decide +kernel⟩
    refine (convert_blank _ _ '\u00a0' (by decide)).2.2 _ _ _ _ run (by decide) ?_
    have beside : BesideDelimiter ("\"a b\"".toList.map plainMark) ("[c]".toList.map plainMark) :=
      .inr (.inl ⟨'(', rfl, by decide⟩)
    exact .between (.inr (.inl beside)) (by decide) (by decide +kernel)
      fun stray => absurd stray (by decide +kernel)
  case apart =>
    have run : RunAround "(-".toList "b)".toList "(-".toList [] [] "b)".toList := by decide +kernel
    refine ⟨run, ?_, by decide +kernel⟩
    refine (convert_blank _ _ '\u00a0' (by decide)).2.2 _ _ _ _ run (by decide) ?_
    exact .between (.inr (.inr (by decide +kernel))) (by decide) (by decide +kernel)
      fun stray => absurd stray (by decide +kernel)
  case wildcard =>
    have run : RunAround "a".toList "*-b".toList "a".toList [] [] "*-b".toList := by decide +kernel
    refine ⟨run, ?_, by decide +kernel⟩
    refine (convert_blank _ _ '\t' (by decide)).2.2 _ _ _ _ run (by decide) ?_
    exact .between (.inl rfl) (by decide) (by decide +kernel)
      fun stray => absurd stray (by decide +kernel)

/-- Elsewhere the blank matters. One that is no lexeme is dropped between words, and so is one in a
phrase; a hyphen joins words with it dropped; a wildcard is attached to it if it is a lexeme; and
with spaces only the run between two hyphens is a single blank, so that one of them stays. -/
theorem convert_blank_dropped :
    (convert "a\u00a0b".toList = .ok "+ab".toList ∧ convert "a b".toList = .ok "+a +b".toList) ∧
    (convert "\"a\tb\"".toList = .ok "+\"ab\"".toList ∧
      convert "\"a b\"".toList = .ok "+\"a b\"".toList) ∧
    (convert "a\u00a0-b".toList = .ok "+\"a-b\"".toList ∧
      convert "a -b".toList = .ok "+a -b".toList) ∧
    (convert "a\t*".toList = .ok "+a +*".toList ∧
      convert "a *".toList = .ok "+a + *".toList) ∧
    (convert "a - \t- b".toList = .ok "+a +b".toList ∧
      convert "a -  - b".toList = .ok "+a -b".toList) := by
  decide +kernel

end Query

end FullTextQuery
