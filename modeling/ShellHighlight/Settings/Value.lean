/-
  Values of settings, and reading them from JSON.

  `Value.ofJson?` reads a text that is one JSON value. Besides the standard it
  takes `NaN`, `Infinity` and `-Infinity` for numbers, and it refuses integers
  of more than `digitLimit` digits. Of several fields of one name the last one
  counts. An escape of half a surrogate pair stands for U+FFFD.
-/
import ShellHighlight.Text.Hex
import ShellHighlight.Text.Integer

namespace ShellHighlight

/-- A value that is given for a setting. -/
inductive Value where
  | null
  | boolean (b : Bool)
  | integer (n : Int)
  /-- A number that is written as a fraction. -/
  | fraction
  | text (t : Text)
  | list (items : List Value)
  | record (fields : List (Text × Value))
  deriving Repr, Inhabited

namespace Value

/-! ## Reading JSON -/

/-- `t` without the blanks of JSON at its beginning. -/
def skipBlanks (t : Text) : Text :=
  t.dropWhile fun c => c == ' ' || c == '\t' || c == '\n' || c == '\r'

/-- The number of four hexadecimal digits. -/
def hex4? (a b c d : Char) : Option Nat := do
  return 4096 * (← hexValue? a) + 256 * (← hexValue? b) + 16 * (← hexValue? c) + (← hexValue? d)

/-- The code point that an escape letter stands for. -/
def escape? (c : Char) : Option Char :=
  match c with
  | '"' => some '"'
  | '\\' => some '\\'
  | '/' => some '/'
  | 'b' => some '\x08'
  | 'f' => some '\x0c'
  | 'n' => some '\n'
  | 'r' => some '\r'
  | 't' => some '\t'
  | _ => none

/-- The code point of a UTF-16 unit. -/
def ofUnit (n : Nat) : Char :=
  if 0xD800 ≤ n && n < 0xE000 then '\uFFFD' else Char.ofNat n

/-- Reads a string behind its opening quote: its value, and what follows. -/
def readString : Text → Option (Text × Text)
  | '"' :: t => some ([], t)
  | '\\' :: 'u' :: a :: b :: c :: d :: '\\' :: 'u' :: e :: f :: g :: h :: t =>
    match hex4? a b c d, hex4? e f g h with
    | some m, some n =>
      if 0xD800 ≤ m && m < 0xDC00 && 0xDC00 ≤ n && n < 0xE000 then
        let c := Char.ofNat (0x10000 + 0x400 * (m - 0xD800) + (n - 0xDC00))
        (readString t).map fun r => (c :: r.1, r.2)
      else (readString ('\\' :: 'u' :: e :: f :: g :: h :: t)).map fun r => (ofUnit m :: r.1, r.2)
    | _, _ => none
  | '\\' :: 'u' :: a :: b :: c :: d :: t =>
    match hex4? a b c d with
    | some m => (readString t).map fun r => (ofUnit m :: r.1, r.2)
    | none => none
  | '\\' :: c :: t =>
    match escape? c with
    | some c => (readString t).map fun r => (c :: r.1, r.2)
    | none => none
  | c :: t => if c.toNat < 32 || c == '\\' then none else (readString t).map fun r => (c :: r.1, r.2)
  | [] => none

/-- What follows a fraction at the head of `t`, if there is one. -/
def dropFraction (t : Text) : Text :=
  match t with
  | '.' :: c :: rest => if c.isDigit then rest.dropWhile Char.isDigit else t
  | _ => t

/-- What follows an exponent at the head of `t`, if there is one. -/
def dropExponent (t : Text) : Text :=
  let digits (rest : Text) : Text :=
    if rest.headD ' ' |>.isDigit then rest.dropWhile Char.isDigit else t
  match t with
  | c :: rest =>
    if c == 'e' || c == 'E' then
      match rest with
      | '+' :: rest => digits rest
      | '-' :: rest => digits rest
      | rest => digits rest
    else t
  | [] => t

/-- Reads a number without its sign. -/
def readNumber (negative : Bool) (t : Text) : Option (Value × Text) :=
  let ds := if t.head? == some '0' then ['0'] else t.takeWhile Char.isDigit
  let rest := t.drop ds.length
  let behind := dropExponent (dropFraction rest)
  if ds.isEmpty then none
  else if behind.length < rest.length then some (.fraction, behind)
  else if digitLimit < ds.length then none
  else
    let n := digitsValue (ds.map fun c => c.toNat - 48)
    some (.integer (if negative then -(n : Int) else n), rest)

/-- What follows `word` if the text begins with it. -/
def dropWord? (word : String) (t : Text) : Option Text :=
  if word.toList.isPrefixOf t then some (t.drop word.length) else none

/-- Reads a value that is neither a string nor has parts. -/
def readAtom (t : Text) : Option (Value × Text) :=
  match dropWord? "null" t with
  | some rest => some (.null, rest)
  | none => match dropWord? "true" t with
    | some rest => some (.boolean true, rest)
    | none => match dropWord? "false" t with
      | some rest => some (.boolean false, rest)
      | none => match (dropWord? "NaN" t).or ((dropWord? "Infinity" t).or (dropWord? "-Infinity" t)) with
        | some rest => some (.fraction, rest)
        | none => match t with
          | '-' :: t => readNumber true t
          | t => readNumber false t

/-- Gives the field `name` the value `v` in a list of fields. -/
def setField (name : Text) (v : Value) (fields : List (Text × Value)) : List (Text × Value) :=
  if fields.any (fun f => f.1 == name) then fields.map fun f => if f.1 == name then (name, v) else f
  else fields ++ [(name, v)]

mutual

/-- Reads a value, in at most `fuel` steps. -/
def readValue (fuel : Nat) (t : Text) : Option (Value × Text) :=
  match fuel with
  | 0 => none
  | fuel + 1 =>
    match t with
    | '"' :: t => (readString t).map fun r => (.text r.1, r.2)
    | '[' :: t =>
      match skipBlanks t with
      | ']' :: t => some (.list [], t)
      | t => readItems fuel [] t
    | '{' :: t =>
      match skipBlanks t with
      | '}' :: t => some (.record [], t)
      | t => readFields fuel [] t
    | t => readAtom t

/-- Reads the items of a list behind the items `before`. -/
def readItems (fuel : Nat) (before : List Value) (t : Text) : Option (Value × Text) :=
  match fuel with
  | 0 => none
  | fuel + 1 =>
    match readValue fuel t with
    | none => none
    | some (v, t) =>
      match skipBlanks t with
      | ',' :: t => readItems fuel (before ++ [v]) (skipBlanks t)
      | ']' :: t => some (.list (before ++ [v]), t)
      | _ => none

/-- Reads the fields of a record behind the fields `before`. -/
def readFields (fuel : Nat) (before : List (Text × Value)) (t : Text) : Option (Value × Text) :=
  match fuel with
  | 0 => none
  | fuel + 1 =>
    match t with
    | '"' :: t =>
      match readString t with
      | none => none
      | some (name, t) =>
        match skipBlanks t with
        | ':' :: t =>
          match readValue fuel (skipBlanks t) with
          | none => none
          | some (v, t) =>
            match skipBlanks t with
            | ',' :: t => readFields fuel (setField name v before) (skipBlanks t)
            | '}' :: t => some (.record (setField name v before), t)
            | _ => none
        | _ => none
    | _ => none

end

/-- The value that a text is the JSON form of. -/
def ofJson? (t : Text) : Option Value :=
  match readValue (2 * t.length + 2) (skipBlanks t) with
  | some (v, rest) => if (skipBlanks rest).isEmpty then some v else none
  | none => none

/-! ## Types of settings -/

/-- The texts that stand for a truth value, in lower case. -/
def truthOf? (word : Text) : Option Bool :=
  if ["1", "on", "t", "true", "y", "yes"].any (fun s => s.toList == word) then some true
  else if ["0", "off", "f", "false", "n", "no"].any (fun s => s.toList == word) then some false
  else none

end Value

end ShellHighlight
