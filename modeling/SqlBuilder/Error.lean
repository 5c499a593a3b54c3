/-! # Errors

Everything that can go wrong is one of eight causes.  Five of them are mistakes in
how a statement was built, and they are found before anything is sent to the
database; `isConfiguration` tells them from the rest.  `message` gives the wording.

Building never fails at once: a builder call that meets a mistake leaves it in a slot
of the statement, and the slot keeps the first mistake it was given (`keepFirst`).
-/
namespace SqlBuilder

/-- What went wrong. -/
inductive Error where
  /-- A text that should be a keyword is none: what was asked for, the text as it was
  given, and the spellings that would do. -/
  | invalidKeyword (kind value : String) (allowed : List String)
  | missingTable
  | invalidJoin (reason : String)
  | invalidQuery (reason : String)
  | sqlGeneration (reason : String)
  | shape (reason : String)
  /-- The database reported a failure. -/
  | execution (reason : String)
  /-- A JSON text or document is not what was asked for. -/
  | serialization
  deriving DecidableEq

namespace Error

/-- Whether the mistake is in how the statement was built. -/
def isConfiguration : Error → Bool
  | .invalidKeyword .. | .missingTable | .invalidJoin _ | .invalidQuery _ | .sqlGeneration _ => true
  | .shape _ | .execution _ | .serialization => false

/-- The wording of the error. -/
def message : Error → String
  | .invalidKeyword kind value allowed =>
    "Invalid " ++ kind ++ " '" ++ value ++ "', expected one of: " ++ ", ".intercalate allowed
  | .missingTable => "Invalid query: no table has been set"
  | .invalidJoin reason => "Invalid join: " ++ reason
  | .invalidQuery reason => "Invalid query: " ++ reason
  | .sqlGeneration reason => "SQL generation error: " ++ reason
  | .shape reason => "Result shape error: " ++ reason
  | .execution reason => "Execution error: " ++ reason
  | .serialization => "Serialization error"

/-- The slot after one more error: an error that it holds already stays. -/
def keepFirst (slot : Option Error) (error : Error) : Option Error :=
  slot.or (some error)

@[simp] theorem keepFirst_none (error : Error) : keepFirst none error = some error := rfl

@[simp] theorem keepFirst_some (first error : Error) :
    keepFirst (some first) error = some first := rfl

end Error

/-! ### Steps that may fail -/

theorem bind_eq_ok_iff {α β : Type} {first : Except Error α} {next : α → Except Error β} {b : β} :
    (first >>= next) = .ok b ↔ ∃ a, first = .ok a ∧ next a = .ok b := by
  constructor
  · intro h
    cases first with
    | error e => cases h
    | ok a => exact ⟨a, rfl, h⟩
  · rintro ⟨a, rfl, h⟩
    exact h

end SqlBuilder
