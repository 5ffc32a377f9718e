import FullTextQuery.Toml.Value

/-!
TOML scalars: strings in their four forms, and the words that stand for truth values, numbers and
times. A reader takes the text from its first character and gives what it read with the rest.
-/

namespace FullTextQuery.Toml.Scalar

/-- A reader gives what it read and the text after it, or nothing where the text is wrong. -/
abbrev Reader (α : Type) := Text → Option (α × Text)

/-- Whether a string or a comment may hold a character as it is: any but the controls, of which
the tab alone is allowed. -/
def isPlain (c : Char) : Bool :=
  c = '\t' || (' ' ≤ c && c ≠ '\x7f')

/-- Puts a character in front of what the rest of a string reads as. -/
def keep (c : Char) (rest : Option (Text × Text)) : Option (Text × Text) :=
  rest.map fun (text, after) => (c :: text, after)

/-! ## Escapes -/

/-- The character of a short escape. -/
def shortEscape? (c : Char) : Option Char :=
  [('b', '\x08'), ('t', '\t'), ('n', '\n'), ('f', '\x0c'), ('r', '\r'), ('e', '\x1b'),
    ('\"', '\"'), ('\\', '\\')].lookup c

/-- The number of digits that a numeric escape has after its letter. -/
def escapeDigits? (c : Char) : Option Nat :=
  [('x', 2), ('u', 4), ('U', 8)].lookup c

/-- The value of a digit in base sixteen. -/
def hexValue? (c : Char) : Option Nat :=
  if c.isDigit then some (c.toNat - 48)
  else if 'a' ≤ c ∧ c ≤ 'f' then some (c.toNat - 87)
  else if 'A' ≤ c ∧ c ≤ 'F' then some (c.toNat - 55)
  else none

/-- What a string with escapes is in the middle of. -/
inductive Escape where
  /-- Nothing: the next character stands for itself. -/
  | idle
  /-- A backslash has been read. -/
  | begun
  /-- A numeric escape has a value so far, and more digits to come. -/
  | digits (more value : Nat)
  /-- Blanks are skipped after a backslash at the end of a line; `broken` once the line ended. -/
  | skipping (broken : Bool)

/-! ## Strings -/

/-- The rest of a string in double quotes. Over `lines` it ends at three quotes, before which up
to two more are text, and may hold line breaks; a backslash before one skips the blanks around
it. -/
def escapedFrom (lines : Bool) (escape : Escape) : Reader Text
  | [] => none
  | c :: rest =>
    let isBlank := c = ' ' || c = '\t'
    let isBreak := c = '\n' || (c = '\r' && rest.head? = some '\n')
    match escape with
    | .begun =>
      match shortEscape? c, escapeDigits? c with
      | some meant, _ => keep meant (escapedFrom lines .idle rest)
      | none, some count => escapedFrom lines (.digits count 0) rest
      | none, none =>
        if lines && (isBlank || isBreak) then escapedFrom lines (.skipping isBreak) rest else none
    | .digits more value =>
      match hexValue? c with
      | none => none
      | some digit =>
        let value := 16 * value + digit
        if 1 < more then escapedFrom lines (.digits (more - 1) value) rest
        else if value.isValidChar then keep (Char.ofNat value) (escapedFrom lines .idle rest)
        else none
    | .skipping false =>
      if isBlank || isBreak then escapedFrom lines (.skipping isBreak) rest else none
    | .skipping true =>
      if isBlank || isBreak then escapedFrom lines (.skipping true) rest else plain c rest isBreak
    | .idle => plain c rest isBreak
where
  /-- A character outside escapes. -/
  plain (c : Char) (rest : Text) (isBreak : Bool) : Option (Text × Text) :=
    if c = '\\' then escapedFrom lines .begun rest
    else if c = '\"' then
      if !lines then some ([], rest)
      else if rest.take 2 = ['\"', '\"'] then
        let extra := ((rest.drop 2).take 2).takeWhile (· = '\"')
        some (extra, rest.drop (2 + extra.length))
      else keep c (escapedFrom lines .idle rest)
    else if isPlain c || (lines && isBreak) then keep c (escapedFrom lines .idle rest)
    else none

/-- The rest of a string in single quotes, in which nothing is escaped. -/
def literalFrom (lines : Bool) : Reader Text
  | [] => none
  | c :: rest =>
    if c = '\x27' then
      if !lines then some ([], rest)
      else if rest.take 2 = ['\x27', '\x27'] then
        let extra := ((rest.drop 2).take 2).takeWhile (· = '\x27')
        some (extra, rest.drop (2 + extra.length))
      else keep c (literalFrom lines rest)
    else if isPlain c ||
        (lines && (c = '\n' || (c = '\r' && rest.head? = some '\n'))) then
      keep c (literalFrom lines rest)
    else none

/-- Drops the line break that a string over lines may begin with. -/
def dropBreak : Text → Text
  | '\n' :: rest => rest
  | '\r' :: '\n' :: rest => rest
  | text => text

/-- A string on one line, in either kind of quotes. -/
def lineString? : Reader Text
  | '\"' :: rest => escapedFrom false .idle rest
  | '\x27' :: rest => literalFrom false rest
  | _ => none

/-- A string in any of its four forms. -/
def string? : Reader Text
  | '\"' :: '\"' :: '\"' :: rest => escapedFrom true .idle (dropBreak rest)
  | '\x27' :: '\x27' :: '\x27' :: rest => literalFrom true (dropBreak rest)
  | text => lineString? text

/-! ## Numbers -/

/-- Digits with single underscores between them. -/
def isDigits (isDigit : Char → Bool) : Text → Bool
  | [] => false
  | [c] => isDigit c
  | c :: '_' :: rest => isDigit c && isDigits isDigit rest
  | c :: rest => isDigit c && isDigits isDigit rest

/-- The value of digits in a base, underscores skipped. -/
def digitsValue (base : Nat) (digits : Text) : Nat :=
  (digits.filterMap hexValue?).foldl (fun value digit => base * value + digit) 0

/-- Decimal digits without a leading zero. -/
def isDecimal (text : Text) : Bool :=
  isDigits Char.isDigit text && (text.length = 1 || text.head? != some '0')

/-- A text without its sign, and whether the sign is a minus. -/
def unsigned : Text → Bool × Text
  | '-' :: rest => (true, rest)
  | '+' :: rest => (false, rest)
  | text => (false, text)

/-- Whether the size of an integer fits into 128 bits, of which one is for a minus sign. -/
def isWithinBits (isNegative : Bool) (size : Nat) : Bool :=
  if isNegative then size ≤ Nat.pow 2 127 else size < Nat.pow 2 128

/-- Whether a word is an integer within 128 bits: decimal with an optional sign, or in base
sixteen, eight or two without one. -/
def isInteger (word : Text) : Bool :=
  match word with
  | '0' :: 'x' :: digits =>
    isDigits (fun c => (hexValue? c).isSome) digits && isWithinBits false (digitsValue 16 digits)
  | '0' :: 'o' :: digits =>
    isDigits (fun c => '0' ≤ c && c ≤ '7') digits && isWithinBits false (digitsValue 8 digits)
  | '0' :: 'b' :: digits =>
    isDigits (fun c => c = '0' || c = '1') digits && isWithinBits false (digitsValue 2 digits)
  | _ =>
    let (isNegative, digits) := unsigned word
    isDecimal digits && isWithinBits isNegative (digitsValue 10 digits)

/-- Whether digits shifted by a power of ten stay below the largest number that a float in double
precision is rounded to. -/
def isFinite (digits : Nat) (shift : Int) : Bool :=
  let limit := Nat.pow 2 1024 - Nat.pow 2 970
  if digits = 0 then true
  else if 0 ≤ shift then shift.toNat < 400 && digits * Nat.pow 10 shift.toNat < limit
  else
    let length := (Nat.toDigits 10 digits).length
    length ≤ (-shift).toNat || digits < limit * Nat.pow 10 (-shift).toNat

/-- Whether a word is a float: a decimal number with a fraction, an exponent or both, that is not
too large, or an infinity, or no number. -/
def isFloat (word : Text) : Bool :=
  let (_, size) := unsigned word
  let whole := size.takeWhile fun c => c.isDigit || c = '_'
  let afterWhole := size.drop whole.length
  let fraction : Option Text :=
    match afterWhole with
    | '.' :: rest => some (rest.takeWhile fun c => c.isDigit || c = '_')
    | _ => none
  let afterFraction := afterWhole.drop (fraction.elim 0 (·.length + 1))
  let exponent : Option Text :=
    match afterFraction with
    | 'e' :: rest | 'E' :: rest => some rest
    | _ => none
  let (isNegative, exponentDigits) := unsigned (exponent.getD ['0'])
  let power : Int := digitsValue 10 exponentDigits
  let fractionDigits := (fraction.getD []).filter Char.isDigit
  size = ['i', 'n', 'f'] || size = ['n', 'a', 'n'] ||
    isDecimal whole &&
      (fraction.isSome || exponent.isSome) && (exponent.isSome || afterFraction.isEmpty) &&
      fraction.all (isDigits Char.isDigit) && isDigits Char.isDigit exponentDigits &&
      isFinite (digitsValue 10 (whole ++ fractionDigits))
        ((if isNegative then -power else power) - fractionDigits.length)

/-! ## Times -/

/-- The value of exactly two digits. -/
def twoDigits? : Reader Nat
  | a :: b :: rest =>
    if a.isDigit && b.isDigit then some (digitsValue 10 [a, b], rest) else none
  | _ => none

/-- The number of days of a month. -/
def daysOf (year month : Nat) : Nat :=
  if month = 2 then if year % 4 = 0 ∧ (year % 100 ≠ 0 ∨ year % 400 = 0) then 29 else 28
  else if month = 4 ∨ month = 6 ∨ month = 9 ∨ month = 11 then 30
  else 31

/-- What follows a date that a text begins with. -/
def afterDate? (text : Text) : Option Text := do
  let (century, rest) ← twoDigits? text
  let (years, rest) ← twoDigits? rest
  let rest ← afterMark? '-' rest
  let (month, rest) ← twoDigits? rest
  let rest ← afterMark? '-' rest
  let (day, rest) ← twoDigits? rest
  if 1 ≤ month ∧ month ≤ 12 ∧ 1 ≤ day ∧ day ≤ daysOf (100 * century + years) month then some rest
  else none
where
  /-- What follows a mark. -/
  afterMark? (mark : Char) : Text → Option Text
    | c :: rest => if c = mark then some rest else none
    | [] => none

/-- What follows a time of day, with or without seconds, that a text begins with. -/
def afterTime? (text : Text) : Option Text := do
  let (hour, rest) ← twoDigits? text
  let rest ← afterDate?.afterMark? ':' rest
  let (minute, rest) ← twoDigits? rest
  if 23 < hour ∨ 59 < minute then none
  else
    match rest with
    | ':' :: rest => do
      let (second, rest) ← twoDigits? rest
      if 60 < second then none
      else
        match rest with
        | '.' :: fraction =>
          if fraction.head?.any Char.isDigit then some (fraction.dropWhile Char.isDigit) else none
        | rest => some rest
    | rest => some rest

/-- Whether a text is empty or an offset from universal time. -/
def isOffset (text : Text) : Bool :=
  match text with
  | [] | ['Z'] | ['z'] => true
  | sign :: rest =>
    (sign = '+' || sign = '-') &&
      match twoDigits? rest with
      | some (hour, ':' :: rest) =>
        match twoDigits? rest with
        | some (minute, []) => hour ≤ 23 && minute ≤ 59
        | _ => false
      | _ => false

/-- Whether a word is a date, a time of day or both. -/
def isTime (word : Text) : Bool :=
  afterTime? word == some [] ||
    match afterDate? word with
    | none => false
    | some [] => true
    | some (mark :: rest) =>
      (mark = 'T' || mark = 't' || mark = ' ') && (afterTime? rest).any isOffset

/-! ## Words -/

/-- Whether a character belongs to a word that stands for a value. -/
def isWordChar (c : Char) : Bool :=
  c.isAlphanum || ['_', '+', '-', '.', ':'].contains c

/-- The word that a text begins with. A date and a time of day are one word if one space stands
between them. -/
def word (text : Text) : Text × Text :=
  let first := text.takeWhile isWordChar
  let rest := text.drop first.length
  match rest with
  | ' ' :: time =>
    if afterDate? first == some [] && (afterTime? time).isSome then
      let second := time.takeWhile isWordChar
      (first ++ [' '] ++ second, time.drop second.length)
    else (first, rest)
  | _ => (first, rest)

/-- The value that a word stands for. -/
def ofWord? (word : Text) : Option Value :=
  if word = "true".toList then some (.boolean true)
  else if word = "false".toList then some (.boolean false)
  else if isInteger word || isFloat word then some .number
  else if isTime word then some .time
  else none

/-- A scalar of any kind. -/
def value? : Reader Value := fun text =>
  match text.head? with
  | some '\"' | some '\x27' => (string? text).map fun (content, rest) => (.string content, rest)
  | _ => (ofWord? (word text).1).map fun value => (value, (word text).2)

end FullTextQuery.Toml.Scalar
