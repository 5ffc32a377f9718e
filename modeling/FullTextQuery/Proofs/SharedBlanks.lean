import FullTextQuery.Proofs.LooseHyphens

/-!
# Stray hyphens that share a blank

A stray hyphen is dropped together with the blanks it touches, so of two stray hyphens with a single
blank between them only the first one goes: the second one finds no blank before it any more, and a
space is written there. That is the one way in which a stray hyphen stays (`hasStray_ofRaw_iff`).
What a walk over a text takes and what it leaves are told by `HyphenWalk`, with a case for each way
of going on. Of the steps after the walk only trimming matters: the hyphen is stray in the end if
something visible is left on both its sides.
-/

namespace FullTextQuery.CleanText

open Text

/-! ## Shared blanks -/

/-- Two hyphens of a text that are stray and share the blank between them, and the text before and
after them. `loose` says that a hyphen at the start of the text is stray if a blank follows it. -/
structure SharesBlank (loose : Bool) (text front : Text) (blank : Char) (back : Text) : Prop where
  /-- The hyphens have a single blank between them. -/
  parts : text = front ++ '-' :: blank :: '-' :: back
  /-- It is a blank. -/
  isBlank : Character.isBlank blank
  /-- A word or a blank ends before the first hyphen. -/
  ends : EndsLooseAfter loose front
  /-- A blank follows the second one. -/
  begins : BeginsBlank back

namespace SharesBlank

variable {loose : Bool} {text front back : Text} {a blank : Char}

theorem cons (shares : SharesBlank loose text front blank back) (stays : loose → isLoose a)
    (before : Bool) : SharesBlank before (a :: text) (a :: front) blank back where
  parts := congrArg (a :: ·) shares.parts
  isBlank := shares.isBlank
  ends := .inr (endsLoose_cons.mpr (shares.ends.imp_left (And.imp_right stays)))
  begins := shares.begins

theorem of_cons (shares : SharesBlank loose (a :: text) (a :: front) blank back) :
    SharesBlank (isLoose a) text front blank back where
  parts := (List.cons.inj shares.parts).2
  isBlank := shares.isBlank
  ends := endsLoose_cons.mp (shares.ends.resolve_left fun none => List.cons_ne_nil _ _ none.1)
  begins := shares.begins

theorem append (shares : SharesBlank false text front blank back) (lead : Text) (before : Bool) :
    SharesBlank before (lead ++ text) (lead ++ front) blank back where
  parts := by rw [shares.parts, List.append_assoc]
  isBlank := shares.isBlank
  ends := by
    have loose := shares.ends.resolve_left (by simp)
    rw [EndsLooseAfter, EndsLoose, List.getLast?_append_of_ne_nil _ loose.ne_nil]
    exact .inr loose
  begins := shares.begins

/-- A hyphen before a blank is the first of the two, or both stand after it and the blank. -/
theorem cases_hyphen {c : Char} (shares : SharesBlank loose ('-' :: c :: text) front blank back)
    (isBlank : Character.isBlank c) :
    (front = [] ∧ text = '-' :: back) ∨
      ∃ later, front = '-' :: c :: later ∧ SharesBlank true text later blank back := by
  rcases front with _ | ⟨a, _ | ⟨b, later⟩⟩
  · exact .inl ⟨rfl, (List.cons.inj (List.cons.inj shares.parts).2).2⟩
  · obtain rfl := (List.cons.inj (List.cons.inj shares.parts).2).1
    cases isBlank
  · obtain ⟨rfl, rfl⟩ : a = '-' ∧ b = c := by
      obtain ⟨first, rest⟩ := List.cons.inj shares.parts
      exact ⟨first.symm, (List.cons.inj rest).1.symm⟩
    have ends := shares.of_cons.of_cons
    rw [isLoose_of_isBlank isBlank] at ends
    exact .inr ⟨later, rfl, ends⟩

end SharesBlank

/-! ## The walk -/

/-- A walk over a text that drops its stray hyphens, and what it leaves. `afterWord` says that the
character before the text is kept and belongs to a word. -/
inductive HyphenWalk : Bool → Text → Text → Prop where
  /-- The text ends. -/
  | done {afterWord : Bool} : HyphenWalk afterWord [] []
  /-- A hyphen between blanks goes with both of them. -/
  | afterBlank {afterWord : Bool} {a c : Char} {rest left : Text} (before : Character.isBlank a)
    (after : Character.isBlank c) (walk : HyphenWalk false rest left) :
    HyphenWalk afterWord (a :: '-' :: c :: rest) (' ' :: left)
  /-- A hyphen between a word and a blank goes with the blank. -/
  | afterWord {c : Char} {rest left : Text} (after : Character.isBlank c)
    (walk : HyphenWalk false rest left) : HyphenWalk true ('-' :: c :: rest) (' ' :: left)
  /-- Any other character is kept. -/
  | keep {afterWord : Bool} {a : Char} {rest left : Text}
    (noBlank : ¬ (Character.isBlank a ∧ BeginsStray rest))
    (noWord : ¬ (afterWord ∧ BeginsStray (a :: rest)))
    (walk : HyphenWalk (Character.isWordPart a) rest left) :
    HyphenWalk afterWord (a :: rest) (a :: left)

theorem not_beginsStray_nil : ¬ BeginsStray [] := by
  rintro ⟨blank, rest, ⟨⟩, -⟩

theorem not_beginsStray_singleton (c : Char) : ¬ BeginsStray [c] := by
  rintro ⟨blank, rest, ⟨⟩, -⟩

theorem HyphenWalk.keep_singleton (afterWord : Bool) (c : Char) : HyphenWalk afterWord [c] [c] :=
  .keep (fun found => not_beginsStray_nil found.2)
    (fun found => not_beginsStray_singleton c found.2) .done

/-- Every text is walked over, and `dropStrayHyphensFrom` is what is left. -/
theorem hyphenWalk (afterWord : Bool) (text : Text) :
    HyphenWalk afterWord text (dropStrayHyphensFrom afterWord text) := by
  fun_induction dropStrayHyphensFrom afterWord text with
  | case1 afterWord a b c rest stray ih =>
    obtain ⟨before, rfl, after⟩ := stray
    exact .afterBlank before after ih
  | case2 afterWord a b c rest _ stray ih =>
    obtain ⟨rfl, rfl, after⟩ := stray
    exact .afterWord after ih
  | case3 afterWord a b c rest notBefore notHere ih =>
    refine .keep ?_ ?_ ih
    · rintro ⟨before, blank, more, shape, after⟩
      cases shape
      exact notBefore ⟨before, rfl, after⟩
    · rintro ⟨word, blank, more, shape, after⟩
      cases shape
      exact notHere ⟨word, rfl, after⟩
  | case4 afterWord a b stray =>
    obtain ⟨rfl, rfl, after⟩ := stray
    exact .afterWord after .done
  | case5 afterWord a b notHere =>
    refine .keep (fun found => not_beginsStray_singleton b found.2) ?_ (.keep_singleton _ b)
    rintro ⟨word, blank, more, shape, after⟩
    cases shape
    exact notHere ⟨word, rfl, after⟩
  | case6 afterWord text longer pair =>
    rcases text with _ | ⟨a, _ | ⟨b, _ | ⟨c, rest⟩⟩⟩
    · exact .done
    · exact .keep_singleton afterWord a
    · exact absurd rfl (pair a b)
    · exact absurd rfl (longer a b c rest)

namespace HyphenWalk

variable {afterWord : Bool} {text left other : Text}

theorem unique (walk : HyphenWalk afterWord text left) (walk' : HyphenWalk afterWord text other) :
    left = other := by
  induction walk generalizing other with
  | done =>
    cases walk'
    rfl
  | afterBlank before after _ ih =>
    cases walk' with
    | afterBlank _ _ walk' => rw [ih walk']
    | afterWord => cases before
    | keep noBlank => exact absurd ⟨before, _, _, rfl, after⟩ noBlank
  | afterWord after _ ih =>
    cases walk' with
    | afterBlank before => cases before
    | afterWord _ walk' => rw [ih walk']
    | keep _ noWord => exact absurd ⟨rfl, _, _, rfl, after⟩ noWord
  | keep noBlank noWord _ ih =>
    cases walk' with
    | afterBlank before after => exact absurd ⟨before, _, _, rfl, after⟩ noBlank
    | afterWord after => exact absurd ⟨rfl, _, _, rfl, after⟩ noWord
    | keep _ _ walk' => rw [ih walk']

/-- A text that no word comes before begins with a blank if what is left of it does. -/
theorem beginsBlank_iff (walk : HyphenWalk false text left) :
    BeginsBlank left ↔ BeginsBlank text := by
  cases walk with
  | done => rfl
  | afterBlank before =>
    rw [beginsBlank_cons, beginsBlank_cons, before]
    decide
  | keep => rw [beginsBlank_cons, beginsBlank_cons]

theorem of_hyphen {back : Text} (walk : HyphenWalk afterWord text ('-' :: back))
    (blank : BeginsBlank back) :
    ∃ rest, text = '-' :: rest ∧ afterWord = false ∧ BeginsBlank rest ∧
      HyphenWalk false rest back := by
  cases walk with
  | @keep _ _ rest _ noBlank noWord walk =>
    have noPart : Character.isWordPart '-' = false := by decide +kernel
    rw [noPart] at walk
    have begins := walk.beginsBlank_iff.mp blank
    refine ⟨rest, rfl, ?_, begins, walk⟩
    exact Bool.eq_false_iff.mpr fun word => noWord ⟨word, beginsStray_cons.mpr ⟨rfl, begins⟩⟩

theorem hyphen {back : Text} (walk : HyphenWalk false ('-' :: back) left)
    (blank : BeginsBlank back) :
    ∃ rest, left = '-' :: rest ∧ BeginsBlank rest ∧ HyphenWalk false back rest := by
  have noPart : Character.isWordPart '-' = false := by decide +kernel
  cases walk with
  | afterBlank before => cases before
  | keep _ _ walk =>
    rw [noPart] at walk
    exact ⟨_, rfl, walk.beginsBlank_iff.mpr blank, walk⟩

/-- A character of a walk is kept if the text is cut after it, too. -/
theorem keep_of_append {a : Char} {front back kept : Text}
    (noBlank : ¬ (Character.isBlank a ∧ BeginsStray (front ++ back)))
    (noWord : ¬ (afterWord ∧ BeginsStray (a :: (front ++ back))))
    (walk : HyphenWalk (Character.isWordPart a) front kept) :
    HyphenWalk afterWord (a :: front) (a :: kept) := by
  have goesOn {text : Text} : BeginsStray text → BeginsStray (text ++ back) := by
    rintro ⟨blank, rest, rfl, isBlank⟩
    exact ⟨blank, rest ++ back, rfl, isBlank⟩
  exact .keep (fun found => noBlank ⟨found.1, goesOn found.2⟩)
    (fun found => noWord ⟨found.1, goesOn found.2⟩) walk

end HyphenWalk

/-! ## What goes with a stray hyphen -/

/-- What goes with a stray hyphen: the text before it, which is a blank or is empty, and the blank
after it. -/
inductive Takes : Bool → Text → Char → Prop where
  /-- The hyphen stands between blanks. -/
  | afterBlank {afterWord : Bool} {a c : Char} (before : Character.isBlank a)
    (after : Character.isBlank c) : Takes afterWord [a] c
  /-- It stands between a word and a blank. -/
  | afterWord {c : Char} (after : Character.isBlank c) : Takes true [] c

namespace Takes

variable {afterWord : Bool} {before text left lead rest : Text} {c shared : Char}
  (takes : Takes afterWord before c)

include takes

theorem isBlank : Character.isBlank c := by
  cases takes with
  | afterBlank _ after => exact after
  | afterWord after => exact after

theorem hidden : Text.isBlank before := by
  cases takes with
  | afterBlank before => simpa [Text.isBlank] using before
  | afterWord => rfl

theorem ends : EndsLooseAfter afterWord before := by
  cases takes with
  | afterBlank before => exact .inr ⟨_, rfl, isLoose_of_isBlank before⟩
  | afterWord => exact .inl ⟨rfl, rfl⟩

theorem alone : HyphenWalk afterWord before before := by
  cases takes with
  | afterBlank => exact .keep_singleton _ _
  | afterWord => exact .done

theorem walk (onward : HyphenWalk false text left) :
    HyphenWalk afterWord (before ++ '-' :: c :: text) (' ' :: left) := by
  cases takes with
  | afterBlank before after => exact .afterBlank before after onward
  | afterWord after => exact .afterWord after onward

/-- The hyphen is the first of two that share a blank, or both stand after what goes with it. -/
theorem cases_sharesBlank
    (shares : SharesBlank afterWord (before ++ '-' :: c :: text) lead shared rest) :
    (lead = before ∧ text = '-' :: rest) ∨
      ∃ later, lead = before ++ '-' :: c :: later ∧ SharesBlank true text later shared rest := by
  cases takes with
  | afterWord after => exact shares.cases_hyphen after
  | afterBlank before after =>
    cases lead with
    | nil =>
      obtain rfl := (List.cons.inj shares.parts).1
      cases before
    | cons d lead =>
      obtain rfl := (List.cons.inj shares.parts).1
      rcases shares.of_cons.cases_hyphen after with ⟨rfl, rfl⟩ | ⟨later, rfl, inner⟩
      · exact .inl ⟨rfl, rfl⟩
      · exact .inr ⟨later, rfl, inner⟩

end Takes

/-! ## Where a hyphen that is left comes from -/

theorem isBlank_cons_imp {a : Char} {front kept : Text}
    (same : Text.isBlank front → Text.isBlank kept) :
    Text.isBlank (a :: front) → Text.isBlank (a :: kept) := by
  rw [Text.isBlank, Text.isBlank, List.all_cons, List.all_cons, Bool.and_eq_true, Bool.and_eq_true]
  exact And.imp_right same

/-- Two hyphens of a text share a blank. Of the text before them something visible is left if
something in `front` is visible, and of the text after them `back` is left. -/
def ComesFrom (afterWord : Bool) (text front back : Text) : Prop :=
  ∃ lead shared rest kept, SharesBlank afterWord text lead shared rest ∧
    HyphenWalk afterWord lead kept ∧ (Text.isBlank kept → Text.isBlank front) ∧
    HyphenWalk false rest back

theorem Takes.comesFrom {afterWord : Bool} {before text left front back : Text} {c : Char}
    (takes : Takes afterWord before c) (walk : HyphenWalk false text left)
    (later : ∀ {front}, left = front ++ '-' :: back → EndsLoose front →
      ComesFrom false text front back)
    (parts : ' ' :: left = front ++ '-' :: back) (loose : EndsLoose front)
    (blank : BeginsBlank back) : ComesFrom afterWord (before ++ '-' :: c :: text) front back := by
  obtain ⟨d, front, rfl⟩ := List.exists_cons_of_ne_nil loose.ne_nil
  obtain ⟨rfl, rfl⟩ := List.cons.inj parts
  rcases endsLoose_cons.mp loose with ⟨rfl, -⟩ | inFront
  · obtain ⟨rest, rfl, -, begins, walkRest⟩ := walk.of_hyphen blank
    exact ⟨before, c, rest, before, ⟨rfl, takes.isBlank, takes.ends, begins⟩, takes.alone,
      fun _ => rfl, walkRest⟩
  · obtain ⟨lead, shared, rest, kept, shares, walkLead, same, walkRest⟩ := later rfl inFront
    have onward : SharesBlank false ('-' :: c :: text) ('-' :: c :: lead) shared rest :=
      (shares.cons (by simp) false).cons (by simp) false
    exact ⟨before ++ '-' :: c :: lead, shared, rest, ' ' :: kept, onward.append before afterWord,
      takes.walk walkLead, isBlank_cons_imp same, walkRest⟩

/-- A stray hyphen that is left comes from one that shares the blank before it with another one. -/
theorem HyphenWalk.comesFrom {afterWord : Bool} {text left front back : Text}
    (walk : HyphenWalk afterWord text left) (parts : left = front ++ '-' :: back)
    (loose : EndsLoose front) (blank : BeginsBlank back) :
    ComesFrom afterWord text front back := by
  induction walk generalizing front with
  | done => cases (List.nil_eq_append_iff.mp parts).2
  | afterBlank before after walk ih =>
    exact (Takes.afterBlank before after).comesFrom walk ih parts loose blank
  | afterWord after walk ih => exact (Takes.afterWord after).comesFrom walk ih parts loose blank
  | @keep afterWord a text left noBlank noWord walk ih =>
    obtain ⟨d, front, rfl⟩ := List.exists_cons_of_ne_nil loose.ne_nil
    obtain ⟨rfl, rfl⟩ := List.cons.inj parts
    rcases endsLoose_cons.mp loose with ⟨rfl, looseFirst⟩ | later
    · obtain ⟨rest, rfl, noPart, begins, -⟩ := walk.of_hyphen blank
      rw [isLoose, noPart, Bool.false_or] at looseFirst
      exact absurd ⟨looseFirst, beginsStray_cons.mpr ⟨rfl, begins⟩⟩ noBlank
    · obtain ⟨lead, shared, rest, kept, shares, walkLead, same, walkRest⟩ := ih rfl later
      have word (part : Character.isWordPart a) : isLoose a := by rw [isLoose, part, Bool.true_or]
      have keeps := shares.cons word afterWord
      rw [shares.parts] at noBlank noWord
      exact ⟨a :: lead, shared, rest, a :: kept, keeps, walkLead.keep_of_append noBlank noWord,
        isBlank_cons_imp same, walkRest⟩

/-! ## Which hyphens are left -/

namespace HyphenWalk

variable {afterWord : Bool} {text left : Text}

/-- Nothing visible is left of a text because a blank is put before it. -/
theorem isBlank_cons {c : Char} {kept : Text} (blank : Character.isBlank c)
    (walk : HyphenWalk false text left) (walk' : HyphenWalk false (c :: text) kept)
    (hidden : Text.isBlank left) : Text.isBlank kept := by
  cases walk' with
  | afterBlank _ after =>
    obtain ⟨rest, rfl, -⟩ := walk.hyphen (beginsBlank_cons.mpr after)
    cases hidden
  | keep _ _ walk' =>
    rw [Character.isWordPart_of_isBlank blank] at walk'
    rw [← walk.unique walk', Text.isBlank, List.all_cons, blank]
    exact hidden

/-- The first of two hyphens that share a blank is kept if its own blank has been taken, and the
second one goes with the shared blank. -/
theorem hyphens {first : Char} {back : Text}
    (walk : HyphenWalk false ('-' :: first :: '-' :: back) left) (blank : Character.isBlank first)
    (begins : BeginsBlank back) :
    ∃ rest kept, left = '-' :: rest ∧ BeginsBlank rest ∧ HyphenWalk false back kept ∧
      (Text.isBlank rest → Text.isBlank kept) := by
  obtain ⟨rest, rfl, restBegins, onward⟩ := walk.hyphen (beginsBlank_cons.mpr blank)
  cases onward with
  | keep noBlank => exact absurd ⟨blank, beginsStray_cons.mpr ⟨rfl, begins⟩⟩ noBlank
  | @afterBlank _ _ c back left _ after last =>
    have whole := hyphenWalk false (c :: back)
    refine ⟨_, _, rfl, restBegins, whole, fun hidden => last.isBlank_cons after whole ?_⟩
    rw [Text.isBlank, List.all_cons, Bool.and_eq_true] at hidden
    exact hidden.2

end HyphenWalk

/-- A stray hyphen is left, with no less that is visible before and after it than is left of the
texts on both sides of two hyphens. -/
def LeavesStray (afterWord : Bool) (left lead rest : Text) : Prop :=
  ∃ front back kept keptRest, left = front ++ '-' :: back ∧ EndsLoose front ∧ BeginsBlank back ∧
    HyphenWalk afterWord lead kept ∧ (Text.isBlank front → Text.isBlank kept) ∧
    HyphenWalk false rest keptRest ∧ (Text.isBlank back → Text.isBlank keptRest)

theorem endsLoose_space : EndsLoose [' '] :=
  ⟨' ', rfl, isLoose_of_isBlank (by decide)⟩

theorem Takes.leavesStray {afterWord : Bool} {before text left lead rest : Text} {c shared : Char}
    (takes : Takes afterWord before c) (walk : HyphenWalk false text left)
    (later : ∀ {lead}, SharesBlank false text lead shared rest → LeavesStray false left lead rest)
    (shares : SharesBlank afterWord (before ++ '-' :: c :: text) lead shared rest) :
    LeavesStray afterWord (' ' :: left) lead rest := by
  rcases takes.cases_sharesBlank shares with ⟨rfl, rfl⟩ | ⟨more, rfl, inner⟩
  · obtain ⟨back, rfl, blank, walkRest⟩ := walk.hyphen shares.begins
    exact ⟨[' '], back, lead, back, rfl, endsLoose_space, blank, takes.alone,
      fun _ => takes.hidden, walkRest, id⟩
  · obtain ⟨parts, isBlank, ⟨rfl, -⟩ | ends, begins⟩ := inner
    · subst parts
      obtain ⟨back, keptRest, rfl, blank, walkRest, sameRest⟩ := walk.hyphens isBlank begins
      exact ⟨[' '], back, [' '], keptRest, rfl, endsLoose_space, blank, takes.walk .done, id,
        walkRest, sameRest⟩
    · obtain ⟨front, back, kept, keptRest, rfl, loose, blank, walkLead, same, walkRest, sameRest⟩ :=
        later ⟨parts, isBlank, .inr ends, begins⟩
      exact ⟨' ' :: front, back, ' ' :: kept, keptRest, rfl, endsLoose_cons.mpr (.inr loose), blank,
        takes.walk walkLead, isBlank_cons_imp same, walkRest, sameRest⟩

/-- Of two stray hyphens that share a blank one is left, and is stray. -/
theorem HyphenWalk.leavesStray {afterWord : Bool} {text left lead rest : Text} {shared : Char}
    (walk : HyphenWalk afterWord text left)
    (shares : SharesBlank afterWord text lead shared rest) :
    LeavesStray afterWord left lead rest := by
  induction walk generalizing lead with
  | done => cases (List.nil_eq_append_iff.mp shares.parts).2
  | afterBlank before after walk ih =>
    exact (Takes.afterBlank before after).leavesStray walk ih shares
  | afterWord after walk ih => exact (Takes.afterWord after).leavesStray walk ih shares
  | @keep afterWord a text left noBlank noWord walk ih =>
    obtain ⟨parts, isBlank, ends, begins⟩ := shares
    cases lead with
    | nil =>
      have word := (ends.resolve_right not_endsLoose_nil).2
      exact absurd ⟨word, shared, _, parts, isBlank⟩ noWord
    | cons d lead =>
      obtain ⟨rfl, rfl⟩ := List.cons.inj parts
      have inner : SharesBlank (Character.isWordPart a) (lead ++ '-' :: shared :: '-' :: rest)
          lead shared rest := by
        refine ⟨rfl, isBlank, ?_, begins⟩
        refine (endsLoose_cons.mp (ends.resolve_left (by simp))).imp_left ?_
        rintro ⟨rfl, loose⟩
        rw [isLoose, Bool.or_eq_true] at loose
        exact ⟨rfl, loose.resolve_right fun blank => noBlank ⟨blank, shared, _, rfl, isBlank⟩⟩
      obtain ⟨front, back, kept, keptRest, rfl, loose, blank, walkLead, same, walkRest, sameRest⟩ :=
        ih inner
      exact ⟨a :: front, back, a :: kept, keptRest, rfl, endsLoose_cons.mpr (.inr loose), blank,
        walkLead.keep_of_append noBlank noWord, isBlank_cons_imp same, walkRest, sameRest⟩

/-! ## Clean text -/

/-- A query as it is before its stray hyphens are dropped. -/
def dashed (query : Text) : Text :=
  inTurn [squeeze ' ', dropIndents, dropLineTails, squeeze '\n', List.dropWhile (· == ' '),
    emptyEntityLines] ((dropTitleMarkers query).map plainMark)

theorem pared_eq_smoothed_dashed (query : Text) : pared query = smoothed (dashed query) := rfl

/-- Something visible is left of a text when its stray hyphens are dropped. -/
def Remains (text : Text) : Prop :=
  Text.isBlank (dropStrayHyphens text) = false

/-- Two hyphens of a text are stray and share the blank between them, and something visible is left
before and after them. -/
def HasSharedBlank (text : Text) : Prop :=
  ∃ front blank back, text = front ++ '-' :: blank :: '-' :: back ∧ Character.isBlank blank ∧
    EndsLoose front ∧ BeginsBlank back ∧ Remains front ∧ Remains back

theorem remains_iff {text left : Text} (walk : HyphenWalk false text left) :
    Remains text ↔ Text.isBlank left = false := by
  rw [Remains, dropStrayHyphens, (hyphenWalk false text).unique walk]

theorem hasStray_smoothed_iff {text : Text} : HasStray (smoothed text) ↔ HasSharedBlank text := by
  have walk := hyphenWalk false text
  have visible {part other : Text} (hidden : Text.isBlank other → Text.isBlank part)
      (some : Text.isBlank part = false) : Text.isBlank other = false :=
    Bool.eq_false_iff.mpr fun blank => by rw [hidden blank] at some; cases some
  rw [smoothed, trim_squeezeBlanks, hasStray_squeezeBlanks_iff, hasStray_trim_iff, dropStrayHyphens]
  constructor
  · rintro ⟨front, back, parts, loose, blank, before, after⟩
    obtain ⟨lead, shared, rest, kept, shares, walkLead, same, walkRest⟩ :=
      walk.comesFrom parts loose blank
    exact ⟨lead, shared, rest, shares.parts, shares.isBlank, shares.ends.resolve_left (by simp),
      shares.begins, (remains_iff walkLead).mpr (visible same before),
      (remains_iff walkRest).mpr after⟩
  · rintro ⟨lead, shared, rest, whole, isBlank, ends, begins, before, after⟩
    obtain ⟨front, back, kept, keptRest, parts, loose, blank, walkLead, same, walkRest, sameRest⟩ :=
      walk.leavesStray ⟨whole, isBlank, .inr ends, begins⟩
    exact ⟨front, back, parts, loose, blank, visible same ((remains_iff walkLead).mp before),
      visible sameRest ((remains_iff walkRest).mp after)⟩

/-- A clean text has a stray hyphen exactly if two stray hyphens of the query share a blank, with
something visible left on both sides of them. -/
theorem hasStray_ofRaw_iff (query : Text) :
    HasStray (ofRaw query) ↔ HasSharedBlank (dashed query) := by
  rw [ofRaw_eq_lowercase, hasStray_lowercase_iff, pared_eq_smoothed_dashed, hasStray_smoothed_iff]

/-- The second of two hyphens is left. -/
example : ofRaw "a - - b".toList = "a - b".toList := by
  decide +kernel

end FullTextQuery.CleanText
