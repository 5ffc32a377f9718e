import FullTextQuery.Proofs.QuotedSegments

/-!
# Terms between quotes

The quotes of a text cut it into segments, by turns outside phrases and inside them. A quote is a
delimiter that no longer one has, so it is read by itself wherever it stands, and the next quote
after it closes the phrase. So a text is read segment by segment: a segment outside phrases as if it
stood alone, and one inside as the phrase it is, whatever delimiters it has and be it empty
(`mergePhrases_ofText_eq`).
-/

namespace FullTextQuery.Term

open Lexeme Text

/-- The terms of the segment at a place: at even places it stands outside phrases and its lexemes
are its terms, at odd ones it is a phrase. -/
def segmentTerms (place : Nat) (segment : Text) : List Text :=
  if place % 2 = 0 then ofText segment else [quote ++ segment ++ quote]

theorem segmentTerms_add_two (place : Nat) : segmentTerms (place + 2) = segmentTerms place := by
  funext segment
  rw [segmentTerms, segmentTerms, Nat.add_mod_right]

/-- A phrase is one term, and what comes before it and after it is read by itself. -/
theorem ofClean_quoted {lead segment : Text} (leadClosed : lead.count '\"' % 2 = 0)
    (free : '\"' ∉ segment) (rest : Text) :
    ofClean (lead ++ '\"' :: (segment ++ '\"' :: rest)) =
      ofClean lead ++ (quote ++ segment ++ quote) :: ofClean rest := by
  have lexemes : ofText (lead ++ '\"' :: (segment ++ '\"' :: rest)) =
      ofText lead ++ (ofText ('\"' :: (segment ++ ['\"'])) ++ ofText rest) := by
    have none : ofText [] = [] := rfl
    rw [ofText_append_solo solo_quote, ofText_append_solo solo_quote, ofText_solo solo_quote,
      ofText_append_solo solo_quote, none]
    simp only [List.append_assoc, List.cons_append, List.nil_append]
  rw [← count_quote_ofText] at leadClosed
  have phraseClosed : (ofText ('\"' :: (segment ++ ['\"']))).count quote % 2 = 0 := by
    rw [count_quote_ofText, List.count_cons_self, List.count_append, List.count_eq_zero.mpr free]
    rfl
  have phraseTerm : mergePhrases (ofText ('\"' :: (segment ++ ['\"']))) =
      [quote ++ segment ++ quote] := ofClean_phrase free
  rw [ofClean, lexemes, mergePhrases_append leadClosed, mergePhrases_append phraseClosed,
    phraseTerm, List.singleton_append, ofClean, ofClean]

/-- A text with paired quotes is cut by them into an odd number of segments, and its terms are those
of its segments one after the other. The induction is along the phrases. -/
theorem mergePhrases_ofText_eq (text : Text) (paired : text.count '\"' % 2 = 0) :
    (text.splitOn '\"').length % 2 = 1 ∧
      mergePhrases (ofText text) = ((text.splitOn '\"').mapIdx segmentTerms).flatten := by
  induction text using quote_induction with
  | plain text free =>
    rw [List.splitOn_eq_singleton free]
    refine ⟨rfl, (ofClean_eq_ofText free).trans ?_⟩
    simp [segmentTerms]
  | opened lead rest noneBefore noneAfter =>
    rw [List.count_append, List.count_cons_self, List.count_eq_zero.mpr noneBefore,
      List.count_eq_zero.mpr noneAfter] at paired
    cases paired
  | phrase lead segment rest noneBefore free ih =>
    rw [List.count_append, List.count_cons_self, List.count_append, List.count_cons_self,
      List.count_eq_zero.mpr noneBefore, List.count_eq_zero.mpr free] at paired
    obtain ⟨odd, terms⟩ := ih (by omega)
    have cut : (lead ++ '\"' :: (segment ++ '\"' :: rest)).splitOn '\"' =
        lead :: segment :: rest.splitOn '\"' := by
      rw [List.splitOn_append_cons_self_of_not_mem noneBefore,
        List.splitOn_append_cons_self_of_not_mem free]
    rw [cut]
    refine ⟨by simp only [List.length_cons]; omega, ?_⟩
    have first : segmentTerms 0 lead = ofText lead := rfl
    have second : segmentTerms (0 + 1) segment = [quote ++ segment ++ quote] := rfl
    rw [List.mapIdx_cons, List.mapIdx_cons, first, second]
    simp only [Nat.add_assoc, segmentTerms_add_two]
    rw [List.flatten_cons, List.flatten_cons, List.singleton_append, ← terms,
      ← ofClean_eq_ofText noneBefore]
    exact ofClean_quoted (by rw [List.count_eq_zero.mpr noneBefore]) free rest

/-- Phrases side by side: one of delimiters, one that is empty. -/
theorem mergePhrases_ofText_delimiters :
    let text := "a<\"(or <=\"\"\"=b".toList
    text.count '\"' % 2 = 0 ∧
      mergePhrases (ofText text) =
        ["a".toList, "<".toList, "\"(or <=\"".toList, "\"\"".toList, "=".toList, "b".toList] := by
  intro text
  have paired : text.count '\"' % 2 = 0 := by decide
  refine ⟨paired, (mergePhrases_ofText_eq text paired).2.trans ?_⟩
  decide +kernel

end FullTextQuery.Term
