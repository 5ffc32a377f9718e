import FullTextQuery.Proofs.Conservation

/-!
# Text through the passes on terms

Dropping characters commutes with reading terms, so the allowed terms of a clean text are together
its allowed characters. From there on the passes write quotes and drop blanks, and lose no other
character unless hyphens form a chain: a compound replaces the term written last, which is its first
part or, right after another compound, that compound (`keepsUnless_mergeCompounds`). The places at
which compounds are merged are known from the terms (`mem_mergePlaces_iff`), so what a query loses
is known too (`text_of_convert`).
-/

namespace FullTextQuery

namespace Term

/-! ## Places of compounds -/

/-- The places of the hyphens that are merged in the rest of a list. `place` is that of the first
term of the rest, and `before` is the term that stands before it. -/
def mergePlacesFrom (place : Nat) (before : Text) : List Text → List Nat
  | term :: after :: rest =>
    if joins before term after then place :: mergePlacesFrom (place + 2) after rest
    else mergePlacesFrom (place + 1) term (after :: rest)
  | _ => []

/-- The places of the hyphens that merging compounds merges with their neighbours. -/
def mergePlaces : List Text → List Nat
  | [] => []
  | first :: rest => mergePlacesFrom 1 first rest

theorem le_of_mem_mergePlacesFrom {place : Nat} {before : Text} {rest : List Text} {merged : Nat}
    (member : merged ∈ mergePlacesFrom place before rest) : place ≤ merged := by
  induction rest using List.twoStepInduction generalizing place before with
  | nil => cases member
  | singleton term => cases member
  | cons_cons term after rest afterCompound afterTerm =>
    rw [mergePlacesFrom] at member
    split at member
    case isTrue =>
      rcases List.mem_cons.mp member with rfl | later
      · exact Nat.le_refl _
      · have bound := afterCompound later
        omega
    case isFalse =>
      have bound := afterTerm after member
      omega

/-- Terms that are joined at a place of a list. -/
def JoinsAt (terms : List Text) (place : Nat) : Prop :=
  ∃ front before hyphen after back, terms = front ++ before :: hyphen :: after :: back ∧
    place = front.length + 1 ∧ joins before hyphen after

theorem joinsAt_cons {first : Text} {terms : List Text} {place : Nat} :
    JoinsAt (first :: terms) (place + 1) ↔
      (place = 0 ∧ ∃ hyphen after back, terms = hyphen :: after :: back ∧
        joins first hyphen after) ∨ JoinsAt terms place := by
  constructor
  · rintro ⟨front, before, hyphen, after, back, shape, isPlace, joined⟩
    cases front with
    | nil =>
      obtain ⟨rfl, rest⟩ := List.cons.inj shape
      exact .inl ⟨Nat.succ.inj isPlace, hyphen, after, back, rest, joined⟩
    | cons lead front =>
      obtain ⟨rfl, rest⟩ := List.cons.inj shape
      exact .inr ⟨front, before, hyphen, after, back, rest, Nat.succ.inj isPlace, joined⟩
  · rintro (⟨rfl, hyphen, after, back, rfl, joined⟩ |
      ⟨front, before, hyphen, after, back, rfl, rfl, joined⟩)
    · exact ⟨[], first, hyphen, after, back, rfl, rfl, joined⟩
    · exact ⟨first :: front, before, hyphen, after, back, rfl, rfl, joined⟩

theorem not_joinsAt_zero (terms : List Text) : ¬ JoinsAt terms 0 := by
  rintro ⟨front, before, hyphen, after, back, -, isPlace, -⟩
  cases isPlace

theorem JoinsAt.length_le {terms : List Text} {place : Nat} (joinsAt : JoinsAt terms place) :
    3 ≤ terms.length := by
  obtain ⟨front, before, hyphen, after, back, rfl, -⟩ := joinsAt
  simp only [List.length_append, List.length_cons]
  omega

/-- A place where nothing is joined is passed over. -/
theorem exists_joinsAt_of_apart {before term after : Text} {rest : List Text} {place merged : Nat}
    (apart : ¬ joins before term after) :
    (∃ i, merged = place + 1 + i ∧ JoinsAt (term :: after :: rest) (i + 1)) ↔
      ∃ i, merged = place + i ∧ JoinsAt (before :: term :: after :: rest) (i + 1) := by
  constructor
  · rintro ⟨i, rfl, joinsAt⟩
    exact ⟨i + 1, by omega, joinsAt_cons.mpr (.inr joinsAt)⟩
  · rintro ⟨i, rfl, joinsAt⟩
    rcases joinsAt_cons.mp joinsAt with ⟨-, hyphen, next, back, shape, joined⟩ | inRest
    · obtain ⟨isHyphen, shape⟩ := List.cons.inj shape
      obtain ⟨isNext, -⟩ := List.cons.inj shape
      rw [← isHyphen, ← isNext] at joined
      exact absurd joined apart
    · cases i with
      | zero => exact absurd inRest (not_joinsAt_zero _)
      | succ i => exact ⟨i, by omega, inRest⟩

theorem mem_mergePlacesFrom_iff {place : Nat} (positive : 0 < place) {before : Text}
    {rest : List Text} {merged : Nat} :
    merged ∈ mergePlacesFrom place before rest ↔
      (∃ i, merged = place + i ∧ JoinsAt (before :: rest) (i + 1)) ∧
        merged - 1 ∉ mergePlacesFrom place before rest := by
  induction rest using List.twoStepInduction generalizing place before merged with
  | nil =>
    refine iff_of_false List.not_mem_nil ?_
    rintro ⟨⟨i, -, joinsAt⟩, -⟩
    exact absurd joinsAt.length_le (by simp)
  | singleton term =>
    refine iff_of_false List.not_mem_nil ?_
    rintro ⟨⟨i, -, joinsAt⟩, -⟩
    exact absurd joinsAt.length_le (by simp)
  | cons_cons term after rest afterCompound afterTerm =>
    by_cases joined : joins before term after
    · have later (i : Nat) := @afterCompound (place + 2) (Nat.succ_pos _) after i
      have notBefore {other : Nat} (isPrevious : other = place - 1) :
          other ∉ place :: mergePlacesFrom (place + 2) after rest := by
        rw [List.mem_cons]
        rintro (rfl | member)
        · omega
        · have bound := le_of_mem_mergePlacesFrom member
          omega
      rw [mergePlacesFrom, if_pos joined]
      constructor
      · intro member
        rcases List.mem_cons.mp member with rfl | member
        · exact ⟨⟨0, rfl, joinsAt_cons.mpr (.inl ⟨rfl, term, after, rest, rfl, joined⟩)⟩,
            notBefore rfl⟩
        · obtain ⟨⟨i, rfl, joinsAt⟩, skipped⟩ := (later _).mp member
          refine ⟨⟨i + 2, by omega, joinsAt_cons.mpr (.inr (joinsAt_cons.mpr (.inr joinsAt)))⟩, ?_⟩
          rw [List.mem_cons, not_or]
          exact ⟨by omega, skipped⟩
      · rintro ⟨⟨i, rfl, joinsAt⟩, skipped⟩
        rcases i with _ | _ | i
        · exact List.mem_cons_self
        · exact absurd List.mem_cons_self skipped
        · have inRest := (joinsAt_cons.mp joinsAt).resolve_left fun first => by cases first.1
          have inTail := (joinsAt_cons.mp inRest).resolve_left fun second => by cases second.1
          refine List.mem_cons_of_mem _ ((later _).mpr ⟨⟨i, by omega, inTail⟩, fun member => ?_⟩)
          exact skipped (List.mem_cons_of_mem _ member)
    · rw [mergePlacesFrom, if_neg joined, afterTerm after (Nat.succ_pos _)]
      exact and_congr_left fun _ => exists_joinsAt_of_apart joined

/-- A compound is merged at a hyphen exactly if it is joined with its neighbours there and no
compound is merged at the term before it. -/
theorem mem_mergePlaces_iff {terms : List Text} {place : Nat} :
    place ∈ mergePlaces terms ↔ JoinsAt terms place ∧ place - 1 ∉ mergePlaces terms := by
  cases terms with
  | nil =>
    refine iff_of_false List.not_mem_nil ?_
    rintro ⟨⟨front, before, hyphen, after, back, shape, -⟩, -⟩
    simp at shape
  | cons first rest =>
    rw [mergePlaces, mem_mergePlacesFrom_iff Nat.one_pos]
    refine and_congr_left fun _ => ⟨?_, fun joinsAt => ?_⟩
    · rintro ⟨i, rfl, joinsAt⟩
      rwa [Nat.add_comm]
    · cases place with
      | zero => exact absurd joinsAt (not_joinsAt_zero _)
      | succ i => exact ⟨i, Nat.add_comm i 1, joinsAt⟩

/-- The hyphen at place 2 is skipped, as it is a part of the compound that is merged at place 1. -/
example : mergePlaces [['a'], ['-'], ['-'], ['-'], ['b'], [' '], ['-'], ['c']] = [1, 3] := by decide

/-- Whether compounds are merged at a hyphen and at the second term after it, as in a chain of
hyphens. -/
def Chained (places : List Nat) : Prop :=
  ∃ place ∈ places, place + 2 ∈ places

instance (places : List Nat) : Decidable (Chained places) :=
  inferInstanceAs (Decidable (∃ place ∈ places, place + 2 ∈ places))

theorem chained_cons {place : Nat} {places : List Nat}
    (after : ∀ later ∈ places, place + 2 ≤ later) :
    Chained (place :: places) ↔ place + 2 ∈ places ∨ Chained places := by
  constructor
  · rintro ⟨first, isFirst, isSecond⟩
    rcases List.mem_cons.mp isFirst with rfl | isLater
    · exact .inl ((List.mem_cons.mp isSecond).resolve_left (by omega))
    · have bound := after first isLater
      exact .inr ⟨first, isLater, (List.mem_cons.mp isSecond).resolve_left (by omega)⟩
  · rintro (second | ⟨first, isFirst, isSecond⟩)
    · exact ⟨place, List.mem_cons_self, List.mem_cons_of_mem _ second⟩
    · exact ⟨first, List.mem_cons_of_mem _ isFirst, List.mem_cons_of_mem _ isSecond⟩

/-! ## Text that compounds keep -/

/-- A text without its quotes and blanks. -/
def bare (text : Text) : Text :=
  text.filter fun c => c != '\"' && !Character.isBlank c

theorem bare_append (front back : Text) : bare (front ++ back) = bare front ++ bare back :=
  List.filter_append ..

/-- A compound shows its parts and the hyphen. -/
theorem bare_compound (first second : Text) :
    bare (compound first second) = bare first ++ ['-'] ++ bare second := by
  have noQuote : bare quote = [] := by decide
  have hyphen : bare ['-'] = ['-'] := by decide
  rw [compound, bare_append, bare_append, bare_append, bare_append, noQuote, hyphen,
    List.append_nil, List.nil_append]

/-- What becomes of a text that shows less if `loses` holds, and shows the same if not. -/
def KeepsUnless (loses : Prop) (whole merged : Text) : Prop :=
  (¬ loses → bare merged = bare whole) ∧ (loses → (bare merged).length < (bare whole).length)

namespace KeepsUnless

variable {loses : Prop} {whole merged : Text}

theorem length_le (keeps : KeepsUnless loses whole merged) :
    (bare merged).length ≤ (bare whole).length := by
  by_cases lost : loses
  · exact Nat.le_of_lt (keeps.2 lost)
  · rw [keeps.1 lost]

theorem append_left (keeps : KeepsUnless loses whole merged) (front : Text) :
    KeepsUnless loses (front ++ whole) (front ++ merged) := by
  unfold KeepsUnless
  rw [bare_append, bare_append, List.length_append, List.length_append]
  exact ⟨fun kept => by rw [keeps.1 kept], fun lost => Nat.add_lt_add_left (keeps.2 lost) _⟩

theorem bare_eq_iff (keeps : KeepsUnless loses whole merged) :
    bare merged = bare whole ↔ ¬ loses :=
  ⟨fun same lost => Nat.ne_of_lt (keeps.2 lost) (congrArg List.length same), keeps.1⟩

end KeepsUnless

/-- A compound replaces the term that is held back, and of that term it shows the part before the
hyphen. So the `spare` text in front of that part is lost; there is some only if the term held back
is a compound itself. -/
theorem keepsUnless_mergeCompoundsFrom {spare held before : Text}
    (holds : bare held = spare ++ bare before) (place : Nat) (rest : List Text) :
    KeepsUnless
      (spare ≠ [] ∧ place ∈ mergePlacesFrom place before rest ∨
        Chained (mergePlacesFrom place before rest))
      (held ++ rest.flatten) (mergeCompoundsFrom held before rest).flatten := by
  fun_induction mergeCompoundsFrom held before rest generalizing spare place with
  | case1 held before hyphen after rest joined ih =>
    have keeps := ih (bare_compound before after) (place + 2)
    obtain ⟨rfl, -⟩ := joins_iff.mp joined
    have shape : bare (held ++ (['-'] :: after :: rest).flatten) =
        spare ++ bare (compound before after ++ rest.flatten) := by
      have hyphen : bare ['-'] = ['-'] := by decide
      simp only [List.flatten_cons, bare_append, bare_compound, holds, hyphen, List.append_assoc]
    rw [mergePlacesFrom, if_pos joined, chained_cons fun _ => le_of_mem_mergePlacesFrom]
    unfold KeepsUnless
    rw [shape]
    by_cases none : spare = []
    · subst none
      simpa [KeepsUnless] using keeps
    · have bound := keeps.length_le
      have longer := List.length_pos_iff.mpr none
      refine ⟨fun kept => absurd (.inl ⟨none, List.mem_cons_self⟩) kept, fun _ => ?_⟩
      rw [List.length_append]
      omega
  | case2 held before term after rest apart ih =>
    have keeps := @ih [] rfl (place + 1)
    have notHere : place ∉ mergePlacesFrom (place + 1) term (after :: rest) := fun member =>
      Nat.not_succ_le_self _ (le_of_mem_mergePlacesFrom member)
    rw [mergePlacesFrom, if_neg apart]
    simpa [notHere] using keeps.append_left held
  | case3 held before rest short =>
    have none : mergePlacesFrom place before rest = [] := by
      rcases rest with _ | ⟨term, _ | ⟨after, rest⟩⟩
      · rfl
      · rfl
      · exact absurd rfl (short term after rest)
    rw [none]
    simp [KeepsUnless, Chained]

/-- Merging compounds loses text exactly where hyphens form a chain. -/
theorem keepsUnless_mergeCompounds (terms : List Text) :
    KeepsUnless (Chained (mergePlaces terms)) terms.flatten (mergeCompounds terms).flatten := by
  cases terms with
  | nil => simp [KeepsUnless, Chained, mergePlaces, mergeCompounds]
  | cons first rest =>
    have keeps := @keepsUnless_mergeCompoundsFrom [] first first rfl 1 rest
    simpa [mergePlaces, mergeCompounds] using keeps

end Term

namespace Query

open Term

/-! ## Conversions -/

/-- What the trace of an accepted query shows of the first pass on terms. -/
theorem snapshot?_allowed {query : Text} (even : countQuotes (CleanText.ofRaw query) % 2 = 0)
    (balance : bracketsBalance (ofClean (CleanText.ofRaw query))) :
    (trace query).snapshot? .allowed =
      some ⟨.allowed, (ofClean (CleanText.ofRaw query)).map keepAllowed⟩ := by
  rw [Trace.snapshot?, stages_trace, snapshots_eq, if_neg (by omega), if_pos balance]
  rfl

/-- After compounds are merged the passes drop blanks only. -/
theorem bare_lexicalPasses (terms : List Text) :
    bare (Pass.runAll lexicalPasses terms).flatten =
      bare (mergeCompounds (terms.map keepAllowed)).flatten := by
  have passes : Pass.runAll lexicalPasses terms =
      visible (attachWildcards (mergeCompounds (terms.map keepAllowed))) := rfl
  rw [passes, bare, filter_visible (fun c blank => by simp [blank]), flatten_attachWildcards]
  rfl

/-- The allowed terms of an accepted query are together the allowed characters of its clean text.
From them to the visible terms nothing is lost but quotes and blanks, unless compounds are merged
at a place and at the second one after it; then other characters are lost. -/
theorem text_of_convert (query output : Text) (accepted : convert query = .ok output) :
    ∃ allowed visible : List Text,
      (trace query).snapshot? .allowed = some ⟨.allowed, allowed⟩ ∧
      (trace query).snapshot? .visible = some ⟨.visible, visible⟩ ∧
        let text := keepAllowed (CleanText.ofRaw query)
        allowed.flatten = text ∧
          (bare visible.flatten = bare text ↔ ¬ Chained (mergePlaces allowed)) ∧
          (Chained (mergePlaces allowed) → (bare visible.flatten).length < (bare text).length) := by
  obtain ⟨even, balance, -⟩ := convert_eq_ok.mp accepted
  refine ⟨_, _, snapshot?_allowed even balance, snapshot?_visible even balance, ?_⟩
  intro text
  have whole := flatten_keepAllowed (CleanText.ofRaw query)
  have keeps := keepsUnless_mergeCompounds ((ofClean (CleanText.ofRaw query)).map keepAllowed)
  rw [whole] at keeps
  rw [bare_lexicalPasses]
  exact ⟨whole, keeps.bare_eq_iff, keeps.2⟩

/-- A chain of hyphens next to a compound, a phrase with a hyphen and a lone NOT. -/
theorem text_of_convert_chain :
    let query := "a-b-c or x-y* \"d - e\" -z".toList
    let output := "\"b-c\" \"x-y\"* +\"d e\" -z".toList
    convert query = .ok output ∧
      ∃ allowed visible : List Text,
        (trace query).snapshot? .allowed = some ⟨.allowed, allowed⟩ ∧
        (trace query).snapshot? .visible = some ⟨.visible, visible⟩ ∧
          let text := keepAllowed (CleanText.ofRaw query)
          allowed.flatten = text ∧
            (bare visible.flatten = bare text ↔ ¬ Chained (mergePlaces allowed)) ∧
            (Chained (mergePlaces allowed) →
              (bare visible.flatten).length < (bare text).length) := by
  intro query output
  have accepted : convert query = .ok output := by decide
  exact ⟨accepted, text_of_convert query output accepted⟩

end Query

end FullTextQuery
