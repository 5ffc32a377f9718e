import FullTextQuery.Text.Utf8

/-!
Lexemes: the pieces of clean text. A lexeme is one of the delimiters or a word, the longest text
between two of them. At every place the longest delimiter that fits is taken, so `>=` is one
lexeme and not two. Lengths are counted in bytes, and the characters between delimiters are held
back as a word until the next delimiter or the end of the text.
-/

namespace FullTextQuery.Lexeme

/-- The delimiters, those of two characters first. -/
def delimiters : List Text :=
  [['\r', '\n'], ['!', '='], ['>', '='], ['<', '='], ['<', '>'], [':', '='], ['\\'], ['&', '&'],
    ['>'], ['<'], ['|'], ['='], ['^'], ['('], [')'], ['\t'], ['\n'], ['\x27'], ['\"'], ['\x60'],
    [','], ['@'], [' '], ['+'], ['-'], ['*'], ['/'], [';']]

/-- The most bytes a delimiter has. -/
def longestDelimiter : Nat :=
  (delimiters.map Text.byteLength).foldl max 0

/-- Whether a text is exactly a delimiter. -/
def isDelimiter (text : Text) : Bool :=
  delimiters.contains text

/-- The longest delimiter that a text begins with: lengths are tried from the longest down. -/
def delimiterAt? (text : Text) : Option Text :=
  longestWithin longestDelimiter
where
  /-- The longest delimiter of at most `n` bytes that the text begins with. -/
  longestWithin : Nat → Option Text
    | 0 => none
    | n + 1 => ((text.firstBytes? (n + 1)).filter isDelimiter).or (longestWithin n)

/-- Puts a word that has been read in front of lexemes, unless it is empty. -/
def flush (word : Text) (lexemes : List Text) : List Text :=
  if word.isEmpty then lexemes else word :: lexemes

/-- The lexemes of a text after a word that has been read, and after as many characters as still
belong to a delimiter that has been given. -/
def ofTextFrom (word : Text) (pending : Nat) : Text → List Text
  | [] => flush word []
  | c :: rest =>
    match pending with
    | n + 1 => ofTextFrom word n rest
    | 0 =>
      match delimiterAt? (c :: rest) with
      | some delimiter => flush word (delimiter :: ofTextFrom [] (delimiter.length - 1) rest)
      | none => ofTextFrom (word ++ [c]) 0 rest

/-- The lexemes of a text. Joined again they are the text. -/
def ofText (text : Text) : List Text :=
  ofTextFrom [] 0 text

end FullTextQuery.Lexeme
