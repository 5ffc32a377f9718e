import FullTextQuery.Proofs.NeatText

/-!
# Tidy text

A query is `Tidy` if it is neat for simple reasons: its only blanks are single spaces between
visible characters, no hyphen stands before a space, and no character of it could begin an entity or
end a field marker. So cleaning changes nothing in it but capitals (`ofRaw_of_tidy`), and
`lowercase_ascii` is how it changes the letters that searches are typed with.
-/

namespace FullTextQuery

namespace Text

theorem afterFolded?_eq_none {lead text : Text} {l : Char} (member : l ∈ lead)
    (free : ∀ c ∈ text, afterFolded?.foldCase c ≠ l) : afterFolded? lead text = none := by
  cases found : afterFolded? lead text with
  | none => rfl
  | some after =>
    obtain ⟨front, rfl, rfl⟩ := afterFolded?_eq_some found
    obtain ⟨c, inFront, folded⟩ := List.mem_map.mp member
    exact absurd folded (free c (List.mem_append_left after inFront))

end Text

namespace CleanText

open Text

/-- No space stands after a space or a hyphen. -/
def Apart (left right : Char) : Prop :=
  ¬ ((left = ' ' ∨ left = '-') ∧ right = ' ')

/-- A query in which cleaning changes nothing but capitals. -/
structure Tidy (text : Text) : Prop where
  /-- No field marker and no entity. -/
  noMarker : ∀ c ∈ text, afterFolded?.foldCase c ≠ ':' ∧ afterFolded?.foldCase c ≠ '&'
  /-- Brackets are round and quotes are straight. -/
  plain : ∀ c ∈ text, plainMark c = c
  /-- The only blank is the space. -/
  spaces : ∀ c ∈ text, Character.isBlank c → c = ' '
  /-- No space stands after a space or a hyphen. -/
  apart : text.IsChain Apart
  /-- It does not begin with a space. -/
  first : ∀ c ∈ text.head?, c ≠ ' '
  /-- It does not end with a space. -/
  last : ∀ c ∈ text.getLast?, c ≠ ' '

variable {text : Text}

theorem hasTitleMarker_eq_false (free : ∀ c ∈ text, afterFolded?.foldCase c ≠ ':') :
    hasTitleMarker text = false := by
  induction text with
  | nil => rfl
  | cons c rest ih =>
    have noMarker := @afterFolded?_eq_none ['t', 'i', 't', 'l', 'e', ':'] _ ':' (by decide) free
    unfold hasTitleMarker
    rw [noMarker, ih fun c member => free c (List.mem_cons_of_mem _ member)]
    rfl

theorem hasEntityLine_eq_false (free : ∀ c ∈ text, afterFolded?.foldCase c ≠ '&')
    (lineStart : Bool) : hasEntityLine lineStart text = false := by
  induction text generalizing lineStart with
  | nil => rfl
  | cons c rest ih =>
    have noEntity : emptyEntityLinesFrom.isEntityLine (c :: rest) = false := by
      rw [emptyEntityLinesFrom.isEntityLine,
        @afterFolded?_eq_none ['&', 'n', 'b', 's', 'p', ';'] _ '&' (by decide) free]
    unfold hasEntityLine
    rw [noEntity, Bool.and_false, Bool.false_or]
    exact ih (fun c member => free c (List.mem_cons_of_mem _ member)) _

theorem hasStrayHyphen_eq_false (spaces : ∀ c ∈ text, Character.isBlank c → c = ' ')
    (apart : text.IsChain Apart) (loose : Bool) : hasStrayHyphen loose text = false := by
  induction text generalizing loose with
  | nil => rfl
  | cons a rest ih =>
    have later := ih (fun c member => spaces c (List.mem_cons_of_mem _ member)) apart.tail
    refine hasStrayHyphen_cons (fun b isNext stray => ?_) (later _) loose
    have isSpace := spaces b (List.mem_cons_of_mem _ (List.mem_of_mem_head? isNext)) stray.2
    exact (List.isChain_cons.mp apart).1 b isNext ⟨.inr stray.1, isSpace⟩

/-- A tidy query is neat. -/
theorem Tidy.neat (tidy : Tidy text) : Neat text where
  noMarker := hasTitleMarker_eq_false fun c member => (tidy.noMarker c member).1
  plain := tidy.plain
  apart := by
    rw [List.isChain_iff_forall_rel_of_append_cons_cons]
    intro left right before after parts found
    have fine : Apart left right :=
      List.isChain_iff_forall_rel_of_append_cons_cons.mp tidy.apart parts
    have isLeft := tidy.spaces left (by rw [parts]; simp) found.1
    have isRight := tidy.spaces right (by rw [parts]; simp) found.2
    exact fine ⟨.inl isLeft, isRight⟩
  first c isFirst := Bool.eq_false_iff.mpr fun blank =>
    tidy.first c isFirst (tidy.spaces c (List.mem_of_mem_head? isFirst) blank)
  last c isLast := Bool.eq_false_iff.mpr fun blank =>
    tidy.last c isLast (tidy.spaces c (List.mem_of_mem_getLast? isLast) blank)
  noEntity := hasEntityLine_eq_false (fun c member => (tidy.noMarker c member).2) true
  noStray := hasStrayHyphen_eq_false tidy.spaces tidy.apart false

/-- Cleaning lowers a tidy query and changes nothing else. -/
theorem ofRaw_of_tidy (tidy : Tidy text) : ofRaw text = lowercase text :=
  ofRaw_of_neat tidy.neat

/-! ## Small letters -/

/-- A property of ASCII characters is checked on their codes. -/
theorem ascii_induction {motive : Char → Prop} (codes : ∀ code < 128, motive (Char.ofNat code))
    (c : Char) (ascii : c.toNat < 128) : motive c := by
  have known := codes c.toNat ascii
  rwa [Char.ofNat_toNat] at known

theorem lower_ascii (c : Char) (ascii : c.toNat < 128) :
    c ≠ 'Σ' ∧ Character.lower c = [c.toLower] := by
  have codes : ∀ code < 128, Char.ofNat code ≠ 'Σ' ∧
      Character.lower (Char.ofNat code) = [(Char.ofNat code).toLower] := by decide +kernel
  exact ascii_induction (motive := fun c => c ≠ 'Σ' ∧ Character.lower c = [c.toLower]) codes c ascii

/-- On ASCII text the letters are lowered one by one. -/
theorem lowercase_ascii (ascii : ∀ c ∈ text, c.toNat < 128) :
    lowercase text = text.map Char.toLower := by
  have walk (afterCased : Bool) : lowercaseFrom afterCased text = text.map Char.toLower := by
    induction text generalizing afterCased with
    | nil => rfl
    | cons c rest ih =>
      obtain ⟨noSigma, lowered⟩ := lower_ascii c (ascii c List.mem_cons_self)
      rw [lowercaseFrom, if_neg noSigma, lowered,
        ih (fun c member => ascii c (List.mem_cons_of_mem _ member))]
      rfl
  exact walk false

end CleanText

end FullTextQuery
