import ReactiveModel.Text.Printable

/-!
# Quoted text

String literals as they are written and read. Writing keeps every character that has a shape and
spells the others by an escape; reading accepts more spellings than writing produces: hexadecimal
escapes, line continuations, raw strings. Reading runs over the characters once, one phase at a
time, and yields both the value and what follows the closing quote.
-/

namespace ReactiveModel.Text

/-! ## Writing -/

/-- The lower-case hexadecimal digit of `d < 16`. -/
def hexDigit (d : Nat) : Char :=
  if d < 10 then Char.ofNat (48 + d) else Char.ofNat (87 + d)

/-- The last `k` hexadecimal digits of `n`, without leading zeros but for a lone zero. -/
def hexDigits : Nat → Nat → List Char
  | 0, _ => []
  | k + 1, n => if n < 16 then [hexDigit n] else hexDigits k (n / 16) ++ [hexDigit (n % 16)]

/-- A character spelled by its code point. -/
def codePointEscape (c : Char) : List Char :=
  ['\\', 'u', '\x7b'] ++ hexDigits 6 c.toNat ++ ['\x7d']

/-- A digit that would be read as part of an octal escape. -/
def isOctalDigit (c : Char) : Bool :=
  '0' ≤ c && c ≤ '7'

/-- One character of quoted text, in view of the character after it. -/
def encodeChar (c : Char) (next : Option Char) : List Char :=
  if c = '\x00' then
    if next.any isOctalDigit then ['\\', 'x', '0', '0'] else ['\\', '0']
  else if c = '\t' then ['\\', 't']
  else if c = '\r' then ['\\', 'r']
  else if c = '\n' then ['\\', 'n']
  else if c = '"' then ['\\', '"']
  else if c = '\\' then ['\\', '\\']
  else if extendsGrapheme c then codePointEscape c
  else if isPrintable c then [c]
  else codePointEscape c

/-- The characters between the quotes. -/
def encode : List Char → List Char
  | [] => []
  | c :: rest => encodeChar c rest.head? ++ encode rest

/-- Text as a string literal. -/
def quoted (text : String) : String :=
  String.ofList ('"' :: encode text.toList ++ ['"'])

/-! ## Reading -/

/-- What a family of literals allows between its quotes. -/
structure QuoteRules where
  /-- The values that `\x` may spell. -/
  hex : Nat → Bool
  /-- Whether `\0` is an escape. -/
  zero : Bool
  /-- The characters that `\u` may spell. -/
  codePoint : Char → Bool
  /-- The characters that stand for themselves. -/
  plain : Char → Bool

/-- Text: every character, ASCII alone by `\x`. -/
def textRules : QuoteRules := ⟨(· < 128), true, fun _ => true, fun _ => true⟩

/-- Bytes: ASCII characters and any value by `\x`. -/
def byteRules : QuoteRules := ⟨fun _ => true, true, fun _ => false, (·.toNat < 128)⟩

/-- Text that ends at a zero, which it therefore cannot hold. -/
def zeroEndedRules : QuoteRules := ⟨(· ≠ 0), false, (· ≠ '\x00'), (· ≠ '\x00')⟩

/-- The value of a hexadecimal digit. -/
def hexValue (c : Char) : Option Nat :=
  if c.isDigit then some (c.toNat - 48)
  else if 'a' ≤ c && c ≤ 'f' then some (c.toNat - 87)
  else if 'A' ≤ c && c ≤ 'F' then some (c.toNat - 55)
  else none

/-- The escapes of one letter. -/
def shortEscape (rules : QuoteRules) (c : Char) : Option Char :=
  match c with
  | 'n' => some '\n'
  | 'r' => some '\r'
  | 't' => some '\t'
  | '\\' => some '\\'
  | '\'' => some '\''
  | '"' => some '"'
  | '0' => if rules.zero then some '\x00' else none
  | _ => none

/-- Where a reader stands between two quotes. -/
inductive Phase where
  | plain
  /-- After a carriage return, which only a line feed may follow. -/
  | lineEnd
  /-- After a backslash. -/
  | escape
  /-- After `\x`. -/
  | hex
  /-- After `\x` and one digit. -/
  | hexLow (high : Nat)
  /-- After `\u`. -/
  | codePoint
  /-- After `\u`, a brace and `count` digits. -/
  | codePointDigits (value count : Nat)
  /-- In the blanks after a backslash at the end of a line. -/
  | continued
  /-- The same, after a carriage return. -/
  | continuedLineEnd
  deriving DecidableEq

/-- What one character does to a reader. -/
inductive Effect where
  /-- The text is not a literal. -/
  | refuse
  /-- The closing quote. -/
  | close
  /-- Go on, with one more character of the value if there is one. -/
  | next (phase : Phase) (value : Option Char)

/-- The effect of a character outside every escape. -/
def plainEffect (rules : QuoteRules) (c : Char) : Effect :=
  if c = '"' then .close
  else if c = '\\' then .next .escape none
  else if c = '\r' then .next .lineEnd none
  else if rules.plain c then .next .plain (some c)
  else .refuse

/-- The effect of a character in a phase. -/
def effect (rules : QuoteRules) : Phase → Char → Effect
  | .plain, c => plainEffect rules c
  | .lineEnd, c => if c = '\n' then .next .plain (some '\n') else .refuse
  | .escape, c =>
    match shortEscape rules c with
    | some value => .next .plain (some value)
    | none =>
      if c = 'x' then .next .hex none
      else if c = 'u' then .next .codePoint none
      else if c = '\n' then .next .continued none
      else if c = '\r' then .next .continuedLineEnd none
      else .refuse
  | .hex, c =>
    match hexValue c with
    | some high => .next (.hexLow high) none
    | none => .refuse
  | .hexLow high, c =>
    match hexValue c with
    | some low =>
      let value := high * 16 + low
      if rules.hex value then .next .plain (some (Char.ofNat value)) else .refuse
    | none => .refuse
  | .codePoint, c => if c = '\x7b' then .next (.codePointDigits 0 0) none else .refuse
  | .codePointDigits value count, c =>
    match hexValue c with
    | some digit =>
      if count < 6 then .next (.codePointDigits (value * 16 + digit) (count + 1)) none
      else .refuse
    | none =>
      if count = 0 then .refuse
      else if c = '_' then .next (.codePointDigits value count) none
      else if c = '\x7d' && decide value.isValidChar && rules.codePoint (Char.ofNat value) then
        .next .plain (some (Char.ofNat value))
      else .refuse
  | .continued, c =>
    if c = ' ' || c = '\t' || c = '\n' then .next .continued none
    else if c = '\r' then .next .continuedLineEnd none
    else plainEffect rules c
  | .continuedLineEnd, c => if c = '\n' then .next .continued none else .refuse

/-- Reads from after the opening quote: the value, and what follows the closing quote. -/
def readQuoted (rules : QuoteRules) : Phase → List Char → Option (List Char × List Char)
  | _, [] => none
  | phase, c :: rest =>
    match effect rules phase c with
    | .refuse => none
    | .close => some ([], rest)
    | .next after value =>
      (readQuoted rules after rest).map fun (text, tail) => (value.toList ++ text, tail)

/-- Reads a raw string from after its opening quote up to a quote with as many hash signs. -/
def readRaw (plain : Char → Bool) (hashes : Nat) : List Char → Option (List Char × List Char)
  | [] => none
  | c :: rest =>
    if c = '"' && (rest.take hashes == List.replicate hashes '#') then
      some ([], rest.drop hashes)
    else if c = '\r' && rest.head? != some '\n' then none
    else if plain c then
      (readRaw plain hashes rest).map fun (text, tail) => (c :: text, tail)
    else none

/-- Reads the hash signs and the opening quote of a raw string, and what is quoted. -/
def readRawQuoted (plain : Char → Bool) (text : List Char) : Option (List Char × List Char) :=
  let hashes := (text.takeWhile (· == '#')).length
  match text.drop hashes with
  | '"' :: rest => if hashes ≤ 255 then readRaw plain hashes rest else none
  | _ => none

/-- Reads a string literal, plain or raw: its value and the text after it. -/
def readString : List Char → Option (List Char × List Char)
  | '"' :: rest => readQuoted textRules .plain rest
  | 'r' :: rest => readRawQuoted (fun _ => true) rest
  | _ => none

/-- The value of a string literal; none for any other literal. A suffix is no part of it. -/
def quotedValue? (literal : String) : Option String :=
  (readString literal.toList).map fun (text, _) => String.ofList text

end ReactiveModel.Text
