import SqlBuilder.Text.Blank
import SqlBuilder.Text.Letter

/-! # Aliases and lists in one text

A caller may write `name as n` for an aliased name and `a, b, c` for a list.
`splitAlias` reads the first form and `splitList` the second.

The cut of an aliased name is at the *last* ` as ` of the trimmed text, whatever
its case, so a name may itself hold ` as ` but its alias may not.  `cutLastAs`
finds that place by recursion from the end: it prefers a cut in the tail to one
at the head.
-/
namespace SqlBuilder
namespace Text

/-- What follows ` as ` at the head of the text, in any case of its two letters. -/
def afterAs? : List Char → Option (List Char)
  | ' ' :: a :: s :: ' ' :: rest =>
    if a.toLower = 'a' ∧ s.toLower = 's' then some rest else none
  | _ => none

/-- The text before and after the last ` as `. -/
def cutLastAs : List Char → Option (List Char × List Char)
  | [] => none
  | c :: cs =>
    match cutLastAs cs with
    | some (before, after) => some (c :: before, after)
    | none => (afterAs? (c :: cs)).map fun after => ([], after)

/-- A trimmed name and its trimmed alias.  A text with nothing after its last
` as ` is a name alone. -/
def splitAlias (cs : List Char) : List Char × Option (List Char) :=
  let text := trim cs
  match cutLastAs text with
  | none => (text, none)
  | some (before, after) =>
    let label := trim after
    if label.isEmpty then (text, none) else (trim before, some label)

/-- The trimmed parts between commas; parts that are blank do not count. -/
def splitList (cs : List Char) : List (List Char) :=
  ((cs.splitOn ',').map trim).filter fun part => !part.isEmpty

end Text
end SqlBuilder
