/-
  Emoji by their names.

  A name between two colons stands for an emoji (`replaceEmoji`). The name may
  be written in any case, and a variant behind it, `-text` or `-emoji`, chooses
  how the emoji is shown. What is not in the dictionary stays as it is.
-/
import ShellHighlight.Console.EmojiTable
import ShellHighlight.Text.Blank
import ShellHighlight.Text.Case
import ShellHighlight.Text.Hex

namespace ShellHighlight.Console

/-- The number that hexadecimal digits denote. -/
def hexNumber (digits : Text) : Nat :=
  (digits.filterMap hexValue?).foldl (fun n d => 16 * n + d) 0

/-- Reads an entry of the dictionary. -/
def emojiEntry (entry : Text) : Text × Text :=
  let codes := (entry.dropWhile (· != '=')).drop 1
  (entry.takeWhile (· != '='), (codes.splitOn '-').map fun code => Char.ofNat (hexNumber code))

/-- The dictionary of emoji. -/
def emojiEntries : List (Text × Text) :=
  emojiRows.flatMap fun row => (Text.words row.toList).map emojiEntry

/-- The emoji of a name. -/
def emoji? (name : Text) : Option Text :=
  emojiEntries.lookup (Text.lower name)

/-- The endings of a name that choose a variant, with the selector of each. -/
def emojiVariants : List (Text × Char) :=
  [("-text".toList, Char.ofNat 0xFE0E), ("-emoji".toList, Char.ofNat 0xFE0F)]

/-- What a name between colons stands for. -/
def emojiText (name : Text) : Text :=
  let shown := match emojiVariants.find? (·.1.isSuffixOf name) with
    | some v => (emoji? (name.take (name.length - v.1.length))).map (· ++ [v.2])
    | none => emoji? name
  shown.getD (':' :: name ++ [':'])

/-- Replaces the names of emoji in a text. After a colon, `name` is what
    follows it so far, given from right to left. -/
def replaceEmojiFrom : (name : Option Text) → Text → Text
  | none, [] => []
  | some name, [] => ':' :: name.reverse
  | none, c :: t => if c == ':' then replaceEmojiFrom (some []) t else c :: replaceEmojiFrom none t
  | some name, c :: t =>
    if c == ':' then emojiText name.reverse ++ replaceEmojiFrom none t
    else if isBlank c then ':' :: name.reverse ++ c :: replaceEmojiFrom none t
    else replaceEmojiFrom (some (c :: name)) t

/-- `t` with emoji for their names. -/
def replaceEmoji (t : Text) : Text :=
  replaceEmojiFrom none t

end ShellHighlight.Console
