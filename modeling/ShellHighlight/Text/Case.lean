/-
  Lower and upper case of a text.

  * `Text.lower` and `Text.upper` map every code point by the full case
    mappings of Unicode, which may give more than one code point;
  * a capital sigma at the end of a word becomes a final sigma: it follows a
    cased letter and no cased letter follows it (`endsWord`), where
    case-ignorable code points do not count.
-/
import ShellHighlight.Text.CaseTable

namespace ShellHighlight

/-- The image of `c` under the rows of a case mapping. -/
def shifted (rows : List (Nat × Nat × Nat × Int)) (c : Char) : Char :=
  match rows.find? fun r => r.1 ≤ c.toNat && c.toNat ≤ r.2.1 && (c.toNat - r.1) % r.2.2.1 == 0 with
  | some r => Char.ofNat (c.toNat + r.2.2.2).toNat
  | none => c

/-- Whether the first code point of `t` that is not case-ignorable is cased. -/
def beginsCased (t : Text) : Bool :=
  let within (rs : List (Nat × Nat)) (c : Char) := rs.any fun r => r.1 ≤ c.toNat && c.toNat ≤ r.2
  match t.dropWhile (within ignorableRanges) with
  | [] => false
  | c :: _ => within casedRanges c

/-- Whether a sigma between `before`, given from right to left, and `after`
    stands at the end of a word. -/
def endsWord (before after : Text) : Bool :=
  beginsCased before && !beginsCased after

/-- The lower-case form of `c` between `before`, given from right to left, and
    `after`. -/
def lowerOf (before : Text) (c : Char) (after : Text) : Text :=
  if c == 'Σ' then (if endsWord before after then ['ς'] else ['σ'])
  else if c == 'İ' then ['i', Char.ofNat 0x307]
  else [shifted lowerRows c]

/-- The upper-case form of `c`. -/
def upperOf (c : Char) : Text :=
  match upperExpansions.lookup c.toNat with
  | some cs => cs.map Char.ofNat
  | none => [shifted upperRows c]

namespace Text

/-- The lower-case form of a text that follows `before`, given from right to
    left. -/
def lowerFrom (before : Text) : Text → Text
  | [] => []
  | c :: t => lowerOf before c t ++ lowerFrom (c :: before) t

/-- `t` in lower case. -/
def lower (t : Text) : Text :=
  lowerFrom [] t

/-- `t` in upper case. -/
def upper (t : Text) : Text :=
  t.flatMap upperOf

end Text

end ShellHighlight
