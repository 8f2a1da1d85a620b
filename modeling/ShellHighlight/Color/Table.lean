/-
  Tables of styles for kinds of files and for name patterns, as in
  `di=01;34:ln=01;36:*.go=0;33`.

  * The entries stand between colons, and an entry is a key and a parameter
    list with the first equals sign between them (`StyleTable.entry?`);
  * an entry with no key, with no equals sign or with a value that is refused
    is passed over;
  * the last entry of a key counts, and the keys keep the order in which they
    were first given (`StyleTable.insert`).
-/
import ShellHighlight.Color.Sgr

namespace ShellHighlight

/-- A table from keys to what they select, in the order of the keys. -/
structure StyleTable where
  entries : List (Text × List StyleWord)
  deriving DecidableEq, Repr, Inhabited

namespace StyleTable

/-- The table without entries. -/
def empty : StyleTable := ⟨[]⟩

/-- Gives `key` the value `ws` in a list of entries: in the place of the entry
    of that key, or behind all others. -/
def insertEntry (key : Text) (ws : List StyleWord) :
    List (Text × List StyleWord) → List (Text × List StyleWord)
  | [] => [(key, ws)]
  | e :: es => if e.1 = key then (key, ws) :: es else e :: insertEntry key ws es

/-- Gives `key` the value `ws`. -/
def insert (t : StyleTable) (key : Text) (ws : List StyleWord) : StyleTable :=
  ⟨insertEntry key ws t.entries⟩

/-- The keys of a table, in order. -/
def keys (t : StyleTable) : List Text :=
  t.entries.map (·.1)

/-- What `key` selects. -/
def find? (t : StyleTable) (key : Text) : Option (List StyleWord) :=
  t.entries.lookup key

/-- The style of `key`; none is the empty style. -/
def style (t : StyleTable) (key : Text) : Text :=
  StyleWord.style ((t.find? key).getD [])

/-- The key and the value of an entry, if both are good. -/
def entry? (entry : Text) : Option (Text × List StyleWord) :=
  match entry.dropWhile (· != '=') with
  | [] => none
  | _ :: value =>
    let key := entry.takeWhile (· != '=')
    if key.isEmpty then none else (Rendition.words? value).toOption.map (key, ·)

/-- The table that a text gives. -/
def ofText (spec : Text) : StyleTable :=
  ((spec.splitOn ':').filterMap entry?).foldl (fun t e => t.insert e.1 e.2) empty

/-- The table used when none is configured. -/
def defaultSpec : Text :=
  "di=1;91:ex=1;92:ln=1;96:fi=".toList

/-- The table of the setting `LS_COLORS` of an environment, or of `default` if
    it is absent or empty. -/
def ofSetting (setting : Option Text) (default : Text) : StyleTable :=
  match setting with
  | some (c :: cs) => ofText (c :: cs)
  | _ => ofText default

end StyleTable

end ShellHighlight
