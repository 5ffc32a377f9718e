import FullTextQuery.Text.Utf8
import Mathlib.Data.List.Basic

/-!
# Text and bytes between line feeds

Texts that are written line by line are read back as those lines (`split_flatMap_line`). Bytes can
be cut at their line feeds before they are read as text: no other character has a line feed among
its bytes, so the pieces of the bytes are the bytes of the pieces (`byteLines_toBytes`), and bytes
are no text exactly if one of their pieces is none (`ofBytes?_eq_none_iff`).
-/

namespace FullTextQuery.Text

/-! ## Pieces of text -/

theorem split_eq_splitOn (separator : Char) (text : Text) :
    split separator text = text.splitOn separator := by
  induction text with
  | nil => exact (List.splitOn_nil separator).symm
  | cons c rest ih =>
    rw [split, ih, List.splitOn_cons_eq_if_modifyHead]
    simp only [beq_iff_eq]
    cases found : rest.splitOn separator with
    | nil => exact absurd found (List.splitOn_ne_nil separator rest)
    | cons piece pieces => rfl

theorem not_mem_of_mem_split {separator : Char} {text piece : Text}
    (member : piece ∈ split separator text) : separator ∉ piece := by
  induction text generalizing piece with
  | nil =>
    rw [List.mem_singleton.mp member]
    exact List.not_mem_nil
  | cons c rest ih =>
    rw [split] at member
    split at member
    case isTrue =>
      rcases List.mem_cons.mp member with first | later
      · rw [first]
        exact List.not_mem_nil
      · exact ih later
    case isFalse other =>
      cases pieces : split separator rest with
      | nil => exact absurd pieces (split_eq_splitOn separator rest ▸ List.splitOn_ne_nil _ _)
      | cons first later =>
        rw [pieces] at ih member
        rcases List.mem_cons.mp member with grown | same
        · rw [grown, List.mem_cons, not_or]
          exact ⟨Ne.symm other, ih List.mem_cons_self⟩
        · exact ih (List.mem_cons_of_mem _ same)

/-- Lines that are each ended by a line feed are read back as they were written, with nothing after
the last one. -/
theorem split_flatMap_line {lines : List Text} (free : ∀ line ∈ lines, '\n' ∉ line) :
    split '\n' (lines.flatMap (· ++ ['\n'])) = lines ++ [[]] := by
  rw [split_eq_splitOn]
  induction lines with
  | nil => rfl
  | cons line lines ih =>
    have rest := ih fun next member => free next (List.mem_cons_of_mem _ member)
    rw [List.flatMap_cons, List.append_assoc, List.singleton_append,
      List.splitOn_append_cons_self_of_not_mem (free line List.mem_cons_self), rest,
      List.cons_append]

/-! ## Bytes of text -/

theorem toBytes_eq (text : Text) :
    toBytes text = (text.flatMap String.utf8EncodeChar).toByteArray :=
  String.toByteArray_ofList

theorem ofBytes?_toBytes (text : Text) : ofBytes? (toBytes text) = some text := by
  have valid : (toBytes text).IsValidUTF8 := (String.ofList text).isValidUTF8
  rw [ofBytes?, String.fromUTF8?, dif_pos valid]
  exact congrArg some String.toList_ofList

theorem ofBytes?_eq_some_iff {bytes : ByteArray} {text : Text} :
    ofBytes? bytes = some text ↔ bytes = toBytes text := by
  refine ⟨fun read => ?_, fun same => by rw [same, ofBytes?_toBytes]⟩
  by_cases valid : bytes.IsValidUTF8
  · obtain ⟨characters, encoded⟩ := valid
    have same : bytes = toBytes characters := encoded.trans String.toByteArray_ofList.symm
    rw [same, ofBytes?_toBytes] at read
    rw [same, Option.some.inj read]
  · rw [ofBytes?, String.fromUTF8?, dif_neg valid] at read
    cases read

/-- A line feed is among the bytes of no other character. -/
theorem not_mem_utf8EncodeChar {c : Char} (other : c ≠ '\n') : 10 ∉ String.utf8EncodeChar c := by
  have apart : c.val.toNat ≠ 10 := fun same => other (Char.toNat_inj.mp same)
  have byte {n : Nat} (differs : n % 256 ≠ 10) : 10 ≠ UInt8.ofNat n := fun same =>
    differs (by rw [← UInt8.toNat_ofNat', ← same]; rfl)
  dsimp only [String.utf8EncodeChar]
  -- The bytes of a longer code all have their highest bit set.
  split
  · simp only [List.mem_singleton]
    exact byte (by omega)
  split
  · simp only [List.mem_cons, List.not_mem_nil, or_false, not_or]
    exact ⟨byte (by omega), byte (by omega)⟩
  split
  · simp only [List.mem_cons, List.not_mem_nil, or_false, not_or]
    exact ⟨byte (by omega), byte (by omega), byte (by omega)⟩
  · simp only [List.mem_cons, List.not_mem_nil, or_false, not_or]
    exact ⟨byte (by omega), byte (by omega), byte (by omega), byte (by omega)⟩

theorem not_mem_flatMap_utf8EncodeChar {text : Text} (free : '\n' ∉ text) :
    10 ∉ text.flatMap String.utf8EncodeChar := by
  intro member
  obtain ⟨c, isIn, encoded⟩ := List.mem_flatMap.mp member
  exact not_mem_utf8EncodeChar (fun same => free (same ▸ isIn)) encoded

theorem flatMap_utf8EncodeChar_intercalate (pieces : List Text) :
    (['\n'].intercalate pieces).flatMap String.utf8EncodeChar =
      [10].intercalate (pieces.map (List.flatMap String.utf8EncodeChar)) := by
  induction pieces with
  | nil => rfl
  | cons piece pieces ih =>
    cases pieces with
    | nil => simp
    | cons next pieces =>
      have lineFeed : ['\n'].flatMap String.utf8EncodeChar = [10] := rfl
      rw [List.intercalate_cons_cons, List.flatMap_append, List.flatMap_append, ih, lineFeed]
      simp only [List.map_cons, List.intercalate_cons_cons]

/-! ## Pieces of bytes -/

/-- The pieces of bytes between line feeds. -/
def byteLines (bytes : ByteArray) : List ByteArray :=
  (bytes.data.toList.splitOn 10).map List.toByteArray

theorem byteLines_toBytes (text : Text) :
    byteLines (toBytes text) = (split '\n' text).map toBytes := by
  have pieces : (text.flatMap String.utf8EncodeChar).splitOn 10 =
      (split '\n' text).map (List.flatMap String.utf8EncodeChar) := by
    have whole : ['\n'].intercalate (split '\n' text) = text := by
      rw [split_eq_splitOn, List.intercalate_splitOn]
    conv_lhs => rw [← whole, flatMap_utf8EncodeChar_intercalate]
    refine List.splitOn_intercalate 10 ?_ ?_
    · intro line member
      obtain ⟨piece, isPiece, encoded⟩ := List.mem_map.mp member
      exact encoded ▸ not_mem_flatMap_utf8EncodeChar (not_mem_of_mem_split isPiece)
    · rw [ne_eq, List.map_eq_nil_iff, split_eq_splitOn]
      exact List.splitOn_ne_nil _ _
  rw [byteLines, toBytes_eq, List.data_toByteArray, List.toList_toArray, pieces, List.map_map]
  exact List.map_congr_left fun piece _ => (toBytes_eq piece).symm

/-- Bytes whose pieces are all bytes of texts are the bytes of these texts on lines. -/
theorem eq_toBytes_of_byteLines {bytes : ByteArray} {pieces : List Text}
    (lines : byteLines bytes = pieces.map toBytes) :
    bytes = toBytes (['\n'].intercalate pieces) := by
  have data : bytes.data.toList.splitOn 10 = pieces.map (List.flatMap String.utf8EncodeChar) := by
    have both := congrArg (List.map fun line => line.data.toList) lines
    simp only [byteLines, List.map_map, Function.comp_def, toBytes_eq, List.data_toByteArray,
      List.toList_toArray, List.map_id'] at both
    exact both
  have whole : bytes.data.toList = (['\n'].intercalate pieces).flatMap String.utf8EncodeChar := by
    rw [flatMap_utf8EncodeChar_intercalate, ← data, List.intercalate_splitOn]
  apply ByteArray.ext
  rw [toBytes_eq, List.data_toByteArray, ← whole, Array.toArray_toList]

/-- Bytes are no text exactly if one of their pieces is none. -/
theorem ofBytes?_eq_none_iff {bytes : ByteArray} :
    ofBytes? bytes = none ↔ ∃ line ∈ byteLines bytes, ofBytes? line = none := by
  constructor
  · intro none
    by_contra allText
    have read : ∀ line ∈ byteLines bytes, toBytes ((ofBytes? line).getD []) = line := by
      intro line member
      cases found : ofBytes? line with
      | none => exact absurd ⟨line, member, found⟩ allText
      | some text => exact (ofBytes?_eq_some_iff.mp found).symm
    have lines : byteLines bytes =
        ((byteLines bytes).map fun line => (ofBytes? line).getD []).map toBytes := by
      rw [List.map_map]
      exact ((List.map_congr_left read).trans (List.map_id _)).symm
    rw [ofBytes?_eq_some_iff.mpr (eq_toBytes_of_byteLines lines)] at none
    cases none
  · rintro ⟨line, member, none⟩
    cases found : ofBytes? bytes with
    | none => rfl
    | some text =>
      rw [ofBytes?_eq_some_iff.mp found, byteLines_toBytes] at member
      obtain ⟨piece, -, encoded⟩ := List.mem_map.mp member
      rw [← encoded, ofBytes?_toBytes] at none
      cases none

end FullTextQuery.Text
