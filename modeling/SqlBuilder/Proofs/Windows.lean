import Mathlib.Data.List.Basic
import SqlBuilder.Proofs.Numerals
import SqlBuilder.Proofs.Words
import SqlBuilder.Query.Select
import SqlBuilder.Result.Row
import SqlBuilder.Text.Letter

/-! # Windows of rows

A limit and an offset ask for a window of rows: some are skipped, and some of the rest are taken.
How this is written differs between databases, in the order of the two numbers and in what stands
for a missing one.  `WindowToken.scan` reads the end of a statement as words, numbers and commas,
and for each database there is a grammar that says which windows these mean (`Window.mysql`,
`Window.postgres`, `Window.sqlite`).

Read by its own grammar, what is written always means the window that was asked for
(`Window.windows_agree`), but for MySQL, which has a largest number where the others have no bound.
Pages are windows in a row: none of them has a row of another, and together they have all rows in
order (`Window.flatMap_pages`).
-/
namespace SqlBuilder

/-! ### Windows -/

/-- How many rows are skipped, and how many of the rest are taken; all of them if there is no
bound. -/
structure Window where
  skip : Nat
  take : Option Nat
  deriving DecidableEq

namespace Window

/-- The rows of a window, in their order. -/
def rows {A : Type} (window : Window) (list : List A) : List A :=
  match window.take with
  | some count => (list.drop window.skip).take count
  | none => list.drop window.skip

/-- Whether the window has the row with a number, counted from zero. -/
def Holds (window : Window) (row : Nat) : Prop :=
  window.skip ≤ row ∧ ∀ count ∈ window.take, row < window.skip + count

end Window

/-! ### Reading the end of a statement -/

/-- A word, a number or a comma. -/
inductive WindowToken where
  | limit
  | offset
  | comma
  | number (n : Int)
  deriving DecidableEq

namespace WindowToken

/-- What characters without white space between them are, if they are anything; words have no
case. -/
def ofWord? (word : List Char) : Option WindowToken :=
  match Text.readInt? word with
  | some n => some (.number n)
  | none =>
    if word = [','] then some .comma
    else if Text.upper word = "LIMIT".toList then some .limit
    else if Text.upper word = "OFFSET".toList then some .offset
    else none

/-- The text with white space around every comma. -/
def spaced (cs : List Char) : List Char :=
  cs.flatMap fun c => if c = ',' then [' ', ',', ' '] else [c]

/-- The words, numbers and commas of a text, if there is nothing else in it. -/
def scan (cs : List Char) : Option (List WindowToken) :=
  (Text.words (spaced cs)).mapM ofWord?

section
variable {first second : List Char} {ts us : List WindowToken}

theorem words_space (first second : List Char) :
    Text.words (first ++ ' ' :: second) = Text.words first ++ Text.words second :=
  Text.words_append_cons first second (by decide)

/-- White space separates. -/
theorem scan_space (hfirst : scan first = some ts) (hsecond : scan second = some us) :
    scan (first ++ ' ' :: second) = some (ts ++ us) := by
  have text : spaced (first ++ ' ' :: second) = spaced first ++ ' ' :: spaced second := by
    simp [spaced]
  rw [scan] at hfirst hsecond
  rw [scan, text, words_space, List.mapM_append, hfirst, hsecond]
  rfl

/-- So does a comma, which is a token of its own. -/
theorem scan_comma (hfirst : scan first = some ts) (hsecond : scan second = some us) :
    scan (first ++ ',' :: second) = some (ts ++ .comma :: us) := by
  have text : spaced (first ++ ',' :: second)
      = spaced first ++ ' ' :: ([','] ++ ' ' :: spaced second) := by
    simp [spaced]
  rw [scan] at hfirst hsecond
  rw [scan, text, words_space, words_space, List.mapM_append, List.mapM_append, hfirst, hsecond]
  rfl

/-- A number is read back. -/
theorem scan_showNat (n : Nat) : scan (Text.showNat n) = some [.number n] := by
  have digit : ∀ c ∈ Text.showNat n, 48 ≤ c.toNat ∧ c.toNat ≤ 57 := fun c member =>
    Text.bounds_of_isDigit (Text.isDigit_of_mem_showNat member)
  -- a number has neither commas nor white space in it
  have text : spaced (Text.showNat n) = Text.showNat n := by
    refine (List.flatMap_congr fun c member => if_neg ?_).trans (List.flatMap_singleton' _)
    rintro rfl
    exact absurd (digit ',' member) (by decide)
  have solid : Text.Solid (Text.showNat n) := fun _ member =>
    Text.isBlank_of_isDigit (Text.isDigit_of_mem_showNat member)
  have read : Text.readInt? (Text.showNat n) = some (n : Int) := Text.readInt?_showInt n
  rw [scan, text, Text.words_of_isWord ⟨(Text.isNumeral_showNat n).nonempty, solid⟩]
  simp [ofWord?, read]

theorem scan_nil : scan [] = some [] := rfl

theorem scan_limit : scan "LIMIT".toList = some [.limit] := by decide

theorem scan_offset : scan "OFFSET".toList = some [.offset] := by decide

end

end WindowToken

namespace Window

/-- The windows of MySQL: `LIMIT n`, or `LIMIT skip, n`. -/
def mysql : List WindowToken → Option Window
  | [] => some ⟨0, none⟩
  | [.limit, .number (.ofNat count)] => some ⟨0, some count⟩
  | [.limit, .number (.ofNat skip), .comma, .number (.ofNat count)] => some ⟨skip, some count⟩
  | _ => none

/-- The windows of PostgreSQL: `LIMIT n`, `OFFSET m`, or one behind the other. -/
def postgres : List WindowToken → Option Window
  | [] => some ⟨0, none⟩
  | [.limit, .number (.ofNat count)] => some ⟨0, some count⟩
  | [.offset, .number (.ofNat skip)] => some ⟨skip, none⟩
  | [.limit, .number (.ofNat count), .offset, .number (.ofNat skip)] => some ⟨skip, some count⟩
  | _ => none

/-- The windows of SQLite: those of PostgreSQL, where a limit of -1 is none. -/
def sqlite : List WindowToken → Option Window
  | [.limit, .number (.negSucc 0)] => some ⟨0, none⟩
  | [.limit, .number (.negSucc 0), .offset, .number (.ofNat skip)] => some ⟨skip, none⟩
  | tokens => postgres tokens

/-- The window that the end of a statement means by a grammar, if it means one. -/
def read (grammar : List WindowToken → Option Window) (tail : String) : Option Window :=
  (WindowToken.scan tail.toList).bind grammar

/-! ### What is written is what was asked for -/

/-- The window that a limit and an offset ask for. -/
def asked (limit offset : Option UInt64) : Window :=
  ⟨offset.elim 0 UInt64.toNat, limit.map UInt64.toNat⟩

/-- The same window where an offset needs a limit: the largest number stands for none. -/
def bounded (limit offset : Option UInt64) : Window :=
  ⟨offset.elim 0 UInt64.toNat,
    (limit.map UInt64.toNat).or (offset.map fun _ => Select.largestOffset)⟩

open Dialect (mysqlWindow standardWindow sqliteWindow)
open WindowToken hiding number limit offset

theorem scan_limit_number (n : UInt64) :
    scan (" LIMIT " ++ Dialect.number n).toList = some [.limit, .number n.toNat] := by
  have text : (" LIMIT " ++ Dialect.number n).toList
      = [] ++ ' ' :: ("LIMIT".toList ++ ' ' :: Text.showNat n.toNat) := by
    simp [Dialect.number]
  rw [text]
  exact scan_space scan_nil (scan_space scan_limit (scan_showNat n.toNat))

theorem scan_behind_offset {before : String} {ts : List WindowToken}
    (scanned : scan before.toList = some ts) (n : UInt64) :
    scan (before ++ " OFFSET " ++ Dialect.number n).toList
      = some (ts ++ [.offset, .number n.toNat]) := by
  have text : (before ++ " OFFSET " ++ Dialect.number n).toList
      = before.toList ++ ' ' :: ("OFFSET".toList ++ ' ' :: Text.showNat n.toNat) := by
    simp [Dialect.number]
  rw [text]
  exact scan_space scanned (scan_space scan_offset (scan_showNat n.toNat))

theorem scan_offset_number (n : UInt64) :
    scan (" OFFSET " ++ Dialect.number n).toList = some [.offset, .number n.toNat] := by
  have nothing : scan "".toList = some [] := scan_nil
  have scanned := scan_behind_offset nothing n
  rwa [String.empty_append] at scanned

theorem scan_unlimited_offset_number (n : UInt64) :
    scan (" LIMIT -1 OFFSET " ++ Dialect.number n).toList
      = some [.limit, .number (-1), .offset, .number n.toNat] := by
  have unlimited : scan " LIMIT -1".toList = some [.limit, .number (-1)] := by decide
  exact scan_behind_offset unlimited n

theorem scan_behind_comma {before : String} {ts : List WindowToken}
    (scanned : scan before.toList = some ts) (n : UInt64) :
    scan (before ++ ", " ++ Dialect.number n).toList = some (ts ++ [.comma, .number n.toNat]) := by
  have text : (before ++ ", " ++ Dialect.number n).toList
      = before.toList ++ ',' :: ([] ++ ' ' :: Text.showNat n.toNat) := by
    simp [Dialect.number]
  rw [text]
  exact scan_comma scanned (scan_space scan_nil (scan_showNat n.toNat))

/-- What is scanned is what the grammar sees. -/
theorem read_of_scan {tail : String} {ts : List WindowToken} (scanned : scan tail.toList = some ts)
    (grammar : List WindowToken → Option Window) : read grammar tail = grammar ts := by
  rw [read, scanned, Option.bind_some]

theorem read_mysql : ∀ limit offset : Option UInt64,
    read mysql (Dialect.mysql.window limit offset) = some (bounded limit offset)
  | none, none => rfl
  | some limit, none => read_of_scan (scan_limit_number limit) mysql
  | some limit, some offset =>
    read_of_scan (scan_behind_comma (scan_limit_number offset) limit) mysql
  | none, some offset => read_of_scan (scan_behind_comma (scan_limit_number offset) _) mysql

theorem read_postgres : ∀ limit offset : Option UInt64,
    read postgres (Dialect.postgres.window limit offset) = some (asked limit offset)
  | none, none => rfl
  | some limit, none => read_of_scan (scan_limit_number limit) postgres
  | some limit, some offset =>
    read_of_scan (scan_behind_offset (scan_limit_number limit) offset) postgres
  | none, some offset => read_of_scan (scan_offset_number offset) postgres

theorem read_sqlite : ∀ limit offset : Option UInt64,
    read sqlite (Dialect.sqlite.window limit offset) = some (asked limit offset)
  | none, none => rfl
  | some limit, none => read_of_scan (scan_limit_number limit) sqlite
  | some limit, some offset =>
    read_of_scan (scan_behind_offset (scan_limit_number limit) offset) sqlite
  | none, some offset => read_of_scan (scan_unlimited_offset_number offset) sqlite

/-- Nothing is written exactly if nothing was asked for. -/
theorem window_eq_empty_iff {d : Dialect} (known : d ∈ [Dialect.mysql, .postgres, .sqlite])
    (limit offset : Option UInt64) : d.window limit offset = "" ↔ limit = none ∧ offset = none := by
  obtain rfl | rfl | rfl : d = .mysql ∨ d = .postgres ∨ d = .sqlite := by simpa using known
  · show mysqlWindow limit offset = "" ↔ _
    unfold mysqlWindow
    split <;> simp
  · show standardWindow limit offset = "" ↔ _
    unfold standardWindow
    split <;> simp
  · show sqliteWindow limit offset = "" ↔ _
    unfold sqliteWindow
    split <;> simp

/-- No table has as many rows as the largest number, so that it is as good as no limit. -/
theorem rows_bounded {A : Type} (limit offset : Option UInt64) {list : List A}
    (few : list.length ≤ Select.largestOffset) :
    (bounded limit offset).rows list = (asked limit offset).rows list := by
  match limit, offset with
  | some limit, offset => rfl
  | none, none => rfl
  | none, some offset =>
    have rest : (list.drop offset.toNat).length ≤ Select.largestOffset := by
      rw [List.length_drop]
      exact Nat.le_trans (Nat.sub_le ..) few
    exact List.take_of_length_le rest

/-! ### Pages -/

/-- The page with a number, counted from zero, of pages of one size. -/
def page (number size : UInt64) : Window :=
  ⟨min (number.toNat * size.toNat) Select.largestOffset, some size.toNat⟩

theorem asked_page (query : Select) (number size : UInt64) :
    asked (query.page number size).limit (query.page number size).offset = page number size := by
  have small : min (number.toNat * size.toNat) Select.largestOffset < UInt64.size :=
    Nat.lt_succ_of_le (Nat.min_le_right ..)
  rw [page, ← UInt64.toNat_ofNat_of_lt small]
  rfl

/-- A limit of its own needs no other bound. -/
theorem bounded_page (query : Select) (number size : UInt64) :
    bounded (query.page number size).limit (query.page number size).offset = page number size :=
  asked_page query number size

theorem skip_page {number size : UInt64} (fits : number.toNat * size.toNat ≤ Select.largestOffset) :
    (page number size).skip = number.toNat * size.toNat :=
  Nat.min_eq_left fits

/-- **A page begins where the one before it ends.** -/
theorem skip_page_succ {number size : UInt64} (more : number.toNat < Select.largestOffset)
    (fits : (number.toNat + 1) * size.toNat ≤ Select.largestOffset) :
    (page (number + 1) size).skip = (page number size).skip + size.toNat := by
  have next : (number + 1).toNat = number.toNat + 1 := by
    rw [UInt64.toNat_add]
    exact Nat.mod_eq_of_lt (Nat.succ_lt_succ more)
  have second : (page (number + 1) size).skip = (number.toNat + 1) * size.toNat := by
    rw [← next] at fits ⊢
    exact skip_page fits
  have before : number.toNat * size.toNat ≤ Select.largestOffset :=
    Nat.le_trans (Nat.mul_le_mul_right _ (Nat.le_succ _)) fits
  rw [second, skip_page before, Nat.succ_mul]

/-- **Pages have all rows in order**, and each row once: as many of the first pages as have offsets
in 64 bits are the first rows, one after the other. -/
theorem flatMap_pages {A : Type} (list : List A) (size : UInt64) {count : Nat}
    (few : count ≤ UInt64.size)
    (fits : ∀ number < count, number * size.toNat ≤ Select.largestOffset) :
    (List.range count).flatMap (fun number => (page (UInt64.ofNat number) size).rows list)
      = list.take (count * size.toNat) := by
  induction count with
  | zero => simp
  | succ count ih =>
    have same : (UInt64.ofNat count).toNat = count := UInt64.toNat_ofNat_of_lt few
    have skipped : (page (UInt64.ofNat count) size).skip = count * size.toNat := by
      rw [skip_page (same.symm ▸ fits count (Nat.lt_succ_self count)), same]
    have last : (page (UInt64.ofNat count) size).rows list
        = (list.drop (count * size.toNat)).take size.toNat := by
      rw [← skipped]
      rfl
    rw [List.range_succ, List.flatMap_append, ih (Nat.le_of_succ_le few) fun number before =>
      fits number (Nat.lt_succ_of_lt before), List.flatMap_singleton, last, Nat.succ_mul,
      List.take_add]

/-! ### The same window everywhere -/

/-- **What is written means the window that was asked for**, read by the grammar of its database.

* On PostgreSQL and SQLite as many rows as the offset are skipped, none without one, and as many as
  the limit are taken, all without one.  On MySQL the largest number stands for no limit behind an
  offset; of no more rows than that, the window has the same.
* Nothing is written exactly if there is neither a limit nor an offset.
* For a page, whatever was asked for before, its size is taken everywhere, and its number times its
  size is skipped, or the largest number where that is larger.
* Two pages in a row whose offsets fit in 64 bits are adjacent, have no row in common, and together
  have as many rows as two pages from the first one on. -/
theorem windows_agree :
    (∀ limit offset : Option UInt64,
      read mysql (Dialect.mysql.window limit offset) = some (bounded limit offset) ∧
      read postgres (Dialect.postgres.window limit offset) = some (asked limit offset) ∧
      read sqlite (Dialect.sqlite.window limit offset) = some (asked limit offset) ∧
      (∀ list : List Row, list.length ≤ Select.largestOffset →
        (bounded limit offset).rows list = (asked limit offset).rows list) ∧
      ∀ d ∈ [Dialect.mysql, .postgres, .sqlite],
        d.window limit offset = "" ↔ limit = none ∧ offset = none) ∧
    (∀ (query : Select) (number size : UInt64),
      let paged := SelectCall.apply query (.page number size)
      let tail (d : Dialect) := d.window paged.limit paged.offset
      read mysql (tail .mysql) = some (page number size) ∧
      read postgres (tail .postgres) = some (page number size) ∧
      read sqlite (tail .sqlite) = some (page number size)) ∧
    ∀ number size : UInt64, number.toNat < Select.largestOffset →
      (number.toNat + 1) * size.toNat ≤ Select.largestOffset →
      let first := page number size
      let second := page (number + 1) size
      second.skip = first.skip + size.toNat ∧
      (∀ row, ¬ (first.Holds row ∧ second.Holds row)) ∧
      ∀ list : List Row, first.rows list ++ second.rows list
        = (list.drop first.skip).take (size.toNat + size.toNat) := by
  refine ⟨fun limit offset => ?_, fun query number size => ?_, fun number size more fits => ?_⟩
  · exact ⟨read_mysql limit offset, read_postgres limit offset, read_sqlite limit offset,
      fun _ => rows_bounded limit offset, fun d known => window_eq_empty_iff known limit offset⟩
  · intro paged tail
    have asked_eq : asked paged.limit paged.offset = page number size :=
      asked_page query number size
    have bounded_eq : bounded paged.limit paged.offset = page number size :=
      bounded_page query number size
    refine ⟨?_, ?_, ?_⟩
    · exact bounded_eq ▸ read_mysql paged.limit paged.offset
    · exact asked_eq ▸ read_postgres paged.limit paged.offset
    · exact asked_eq ▸ read_sqlite paged.limit paged.offset
  · intro first second
    have adjacent : second.skip = first.skip + size.toNat := skip_page_succ more fits
    refine ⟨adjacent, fun row => ?_, fun list => ?_⟩
    · rintro ⟨⟨-, before⟩, ⟨after, -⟩⟩
      have inside : row < first.skip + size.toNat := before size.toNat rfl
      omega
    · have rest : second.rows list = ((list.drop first.skip).drop size.toNat).take size.toNat := by
        rw [List.drop_drop, ← adjacent]
        rfl
      rw [rest, List.take_add]
      rfl

/-- The second and the third page of two of five rows; an offset alone on MySQL; and a page whose
offset does not fit. -/
theorem windows_agree_pages :
    let users : Select := Select.all ⟨none, ⟨"users", none⟩, .sqlite, {}⟩
    let row (n : Int32) : Row := .ofPairs [("id", .int32 n)]
    let list : List Row := [row 0, row 1, row 2, row 3, row 4]
    let paged := SelectCall.apply users (.page 1 2)
    let far := SelectCall.apply users (.page 9223372036854775808 3)
    Dialect.mysql.window none (some 3) = " LIMIT 3, 18446744073709551615" ∧
      read mysql " LIMIT 3, 18446744073709551615" = some ⟨3, some 18446744073709551615⟩ ∧
      (bounded none (some 3)).rows list = [row 3, row 4] ∧
      Dialect.sqlite.window paged.limit paged.offset = " LIMIT 2 OFFSET 2" ∧
      read sqlite " LIMIT 2 OFFSET 2" = some (page 1 2) ∧
      (page 2 2).skip = (page 1 2).skip + 2 ∧
      (page 1 2).rows list ++ (page (1 + 1) 2).rows list = [row 2, row 3, row 4] ∧
      read postgres (Dialect.postgres.window far.limit far.offset)
        = some ⟨18446744073709551615, some 3⟩ := by
  intro users row list paged far
  obtain ⟨windows, paging, following⟩ := windows_agree
  obtain ⟨largest, -, -, whole, -⟩ := windows none (some 3)
  obtain ⟨adjacent, -, together⟩ := following 1 2 (by decide) (by decide)
  refine ⟨rfl, largest, ?_, rfl, (paging users 1 2).2.2, adjacent, ?_, (paging users _ 3).2.1⟩
  · rw [whole list (by decide)]
    rfl
  · rw [together list]
    rfl

end Window
end SqlBuilder
