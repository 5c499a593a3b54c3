import SqlBuilder.Error
import SqlBuilder.Text.Blank
import SqlBuilder.Text.Letter

/-! # Keywords

Directions, kinds of join and union, and operators may be given as text.  Each kind of
keyword has a table of the spellings that are read (`Keyword.readings`), a list of the
spellings that a message names (`Keyword.allowed`), and a rule for what in a text does not
count (`Keyword.normal`): white space at the ends and the case of ASCII letters for all of
them, and for operators the amount of white space between words too.  `Keyword.parse` looks
the normal form up and refuses what it does not find, quoting the text as it was given.

An argument of a builder call is a `KeywordArg`: a keyword, or a text still to be read.
-/
namespace SqlBuilder

/-! ### What a kind of keyword is -/

/-- A kind of keyword: its name in messages, the spellings that messages list, how each
keyword is read and how it is written in SQL. -/
class Keyword (K : Type) where
  kind : String
  /-- The spellings that would do, in the order in which a message lists them. -/
  allowed : List String
  /-- The spellings that are read, with what each is read as. -/
  readings : List (String × K)
  /-- The text of the keyword in a statement. -/
  sql : K → String
  /-- A text without what does not count. -/
  normal : List Char → List Char

namespace Keyword

/-- A text without white space at its ends and without capitals. -/
def oneWord (cs : List Char) : List Char :=
  Text.lower (Text.trim cs)

/-- The words of a text with one space between them, without capitals. -/
def manyWords (cs : List Char) : List Char :=
  Text.lower ([' '].intercalate (Text.words cs))

/-- The keyword that a text denotes. -/
def ofText? {K : Type} [Keyword K] (text : String) : Option K :=
  (readings.find? fun reading => reading.1.toList = normal K text.toList).map Prod.snd

/-- The keyword that a text denotes, or the error that quotes the text. -/
def parse {K : Type} [Keyword K] (text : String) : Except Error K :=
  match ofText? text with
  | some k => .ok k
  | none => .error (.invalidKeyword (kind K) text (allowed K))

end Keyword

/-- A keyword as a builder call takes it. -/
inductive KeywordArg (K : Type) where
  | text (s : String)
  | known (k : K)

/-- The keyword of an argument, read when it is a text. -/
def KeywordArg.resolve {K : Type} [Keyword K] : KeywordArg K → Except Error K
  | .text s => Keyword.parse s
  | .known k => .ok k

/-! ### The kinds -/

/-- The direction of an ordering. -/
inductive Direction where
  | ascending
  | descending
  deriving DecidableEq

instance : Keyword Direction where
  kind := "order type"
  allowed := ["asc", "desc"]
  readings := [("asc", .ascending), ("desc", .descending)]
  sql
    | .ascending => "ASC"
    | .descending => "DESC"
  normal := Keyword.oneWord

/-- The kind of a join. -/
inductive JoinKind where
  | inner
  | left
  | right
  | outer
  | cross
  deriving DecidableEq

instance : Keyword JoinKind where
  kind := "join type"
  allowed := ["inner", "left", "right", "outer", "cross"]
  readings := [("inner", .inner), ("left", .left), ("right", .right), ("outer", .outer),
    ("cross", .cross)]
  sql
    | .inner => "INNER"
    | .left => "LEFT"
    | .right => "RIGHT"
    | .outer => "FULL OUTER"
    | .cross => "CROSS"
  normal := Keyword.oneWord

/-- How a union treats rows that occur more than once. -/
inductive UnionKind where
  | all
  | distinct
  deriving DecidableEq

instance : Keyword UnionKind where
  kind := "union type"
  allowed := ["all", "distinct"]
  readings := [("all", .all), ("distinct", .distinct)]
  sql
    | .all => "ALL"
    | .distinct => "DISTINCT"
  normal := Keyword.oneWord

/-- A binary operator of a condition. -/
inductive Operator where
  | eq
  | notEq
  | notEqAnsi
  | lt
  | gt
  | le
  | ge
  | nullSafeEq
  | like
  | notLike
  | ilike
  | isIn
  | notIn
  | is
  | isNot
  | regexp
  deriving DecidableEq

namespace Operator

/-- The text of the operator in a statement. -/
def sql : Operator → String
  | .eq => "="
  | .notEq => "!="
  | .notEqAnsi => "<>"
  | .lt => "<"
  | .gt => ">"
  | .le => "<="
  | .ge => ">="
  | .nullSafeEq => "<=>"
  | .like => "LIKE"
  | .notLike => "NOT LIKE"
  | .ilike => "ILIKE"
  | .isIn => "IN"
  | .notIn => "NOT IN"
  | .is => "IS"
  | .isNot => "IS NOT"
  | .regexp => "REGEXP"

/-- Whether the operator compares with a list. -/
def isList : Operator → Bool
  | .isIn | .notIn => true
  | _ => false

end Operator

instance : Keyword Operator where
  kind := "operator"
  allowed := ["=", "!=", "<>", "<", ">", "<=", ">=", "<=>", "like", "not like", "ilike", "in",
    "not in", "is", "is not", "regexp"]
  readings := [("=", .eq), ("!=", .notEq), ("<>", .notEqAnsi), ("<", .lt), (">", .gt),
    ("<=", .le), (">=", .ge), ("<=>", .nullSafeEq), ("like", .like), ("not like", .notLike),
    ("ilike", .ilike), ("in", .isIn), ("not in", .notIn), ("is", .is), ("is not", .isNot),
    ("regexp", .regexp)]
  sql := Operator.sql
  normal := Keyword.manyWords

/-- How a condition is tied to the one before it. -/
inductive Connective where
  | and
  | or
  deriving DecidableEq

/-- The text of the connective in a statement. -/
def Connective.sql : Connective → String
  | .and => "AND"
  | .or => "OR"

end SqlBuilder
