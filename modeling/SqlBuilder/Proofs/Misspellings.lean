import SqlBuilder.Proofs.Filtering

/-! # Texts that are no keywords

Operators, directions, kinds of joins and kinds of unions can be given as texts, and a text need not
be a keyword.  `SelectCall.misspellings` lists what is wrong with the texts of a call at any depth,
from its arguments alone and whatever becomes of the call: an operator in a group of a group, a
direction of columns of which there are none, a kind next to a condition with a mistake.

The text of an operator or of a kind is read once for each call, and what is wrong with it goes into
the slot, where it stays.  The text of a direction is read for each column that it orders by; an
order by no columns is left without a trace, whatever its direction is
(`Select.reports_misspellings`).
-/
namespace SqlBuilder

/-! ### Operators of joins -/

/-- The operators of a call that builds what a join is on, at any depth of its groups. -/
def JoinCall.operators : JoinCall → List (KeywordArg Operator)
  | .filter call => call.operators
  | .on _ _ operator _ => [operator]

/-- The operators in what a join is on. -/
def JoinOn.operators : JoinOn → List (KeywordArg Operator)
  | .columns _ operator _ => [operator]
  | .built calls => calls.flatMap JoinCall.operators
  | .key _ => []

theorem JoinCall.mistake?_eq_findSome? (call : JoinCall) :
    call.mistake? = call.operators.findSome? KeywordArg.mistake? := by
  cases call with
  | filter call => exact call.mistake?_eq_findSome?
  | on connective left operator right =>
    rw [mistake?, operators, List.findSome?_cons]
    cases operator.mistake? <;> rfl

/-- A condition of a join has no mistake if it is more than a key and its operators have none. -/
theorem JoinOn.operators_of_unmistaken {on : JoinOn} (h : on.mistake? = none) :
    on.operators.findSome? KeywordArg.mistake? = none := by
  cases on with
  | columns left operator right =>
    rw [operators, List.findSome?_cons, show operator.mistake? = none from h]
    rfl
  | built calls =>
    refine List.findSome?_eq_none_iff.mpr fun operator member => ?_
    obtain ⟨call, given, inside⟩ := List.mem_flatMap.mp member
    have unmistaken := List.findSome?_eq_none_iff.mp h call given
    rw [call.mistake?_eq_findSome?] at unmistaken
    exact List.findSome?_eq_none_iff.mp unmistaken operator inside
  | key column => cases h

/-! ### Texts of calls -/

/-- What is wrong with the texts that a call is given for keywords, at any depth of its groups and
of what it joins on.  The calls on a child are not calls on the select. -/
def SelectCall.misspellings : SelectCall → List Error
  | .filter call => call.operators.filterMap KeywordArg.mistake?
  | .orderBy _ direction => direction.mistake?.toList
  | .orderByEach entries => entries.filterMap fun entry => entry.2.mistake?
  | .join _ on kind => on.operators.filterMap KeywordArg.mistake? ++ kind.mistake?.toList
  | .unionAs _ kind => kind.mistake?.toList
  | .table _ | .database _ | .fields _ | .addField .. | .distinct _ | .groupBy _ | .crossJoin _
  | .union .. | .unionWith .. | .exists .. | .among .. | .subSelect _ | .limit _ | .offset _
  | .page .. | .forwardKey _ | .groupResults _ => []

/-- Whether a call orders by no columns. -/
def SelectCall.ordersNothing : SelectCall → Bool
  | .orderBy columns _ => columns.toColumns.isEmpty
  | _ => false

/-- **A call without a mistake** has nothing wrong with its texts, unless it orders by no
columns. -/
theorem SelectCall.misspellings_eq_nil {call : SelectCall} (unmistaken : call.mistake? = none)
    (orders : call.ordersNothing = false) : call.misspellings = [] := by
  cases call with
  | filter call =>
    rw [mistake?, call.mistake?_eq_findSome?, List.findSome?_eq_none_iff] at unmistaken
    exact List.filterMap_eq_nil_iff.mpr unmistaken
  | orderBy columns direction =>
    rw [mistake?, show columns.toColumns.isEmpty = false from orders] at unmistaken
    exact Option.toList_eq_nil_iff.mpr unmistaken
  | orderByEach entries =>
    exact List.filterMap_eq_nil_iff.mpr (List.findSome?_eq_none_iff.mp unmistaken)
  | join source on kind =>
    obtain ⟨sound, known⟩ := Option.or_eq_none_iff.mp unmistaken
    have operators := List.findSome?_eq_none_iff.mp (JoinOn.operators_of_unmistaken sound)
    rw [misspellings, List.filterMap_eq_nil_iff.mpr operators, known]
    rfl
  | unionAs member kind => exact Option.toList_eq_nil_iff.mpr unmistaken
  | _ => rfl

/-- An order by no columns changes nothing. -/
theorem SelectCall.apply_of_ordersNothing {call : SelectCall} (h : call.ordersNothing = true)
    (query : Select) : SelectCall.apply query call = query := by
  cases call with
  | orderBy columns direction =>
    have none : columns.toColumns = [] := List.isEmpty_iff.mp h
    cases query
    simp only [apply, Select.orderBy, none, Select.addOrders, Select.orderBatch, Select.orderErrors,
      List.map_nil, List.foldl_nil, List.append_nil]
  | _ => cases h

/-- Orders by no columns may be left out. -/
theorem SelectCall.applyAll_filter (calls : List SelectCall) (query : Select) :
    SelectCall.applyAll query (calls.filter fun call => !call.ordersNothing)
      = SelectCall.applyAll query calls := by
  induction calls generalizing query with
  | nil => rfl
  | cons call calls ih =>
    rw [List.filter_cons, applyAll]
    cases nothing : call.ordersNothing with
    | true => rw [apply_of_ordersNothing nothing]; exact ih query
    | false => exact ih (apply query call)

namespace Select

/-- **A text that is no keyword is reported**, in any call on the select and whatever calls come
before and after it, except by the orders by no columns.  These leave nothing at all, so that the
same calls without them make the same select. -/
theorem reports_misspellings (query : Select) (calls : List SelectCall) :
    (∀ call ∈ SelectCall.allLive calls, call.misspellings ≠ [] → call.ordersNothing = false →
      ∃ e, (SelectCall.applyAll query calls).error = some e ∧
        ∀ d, (Query.select (SelectCall.applyAll query calls)).compile d = .error e) ∧
    SelectCall.applyAll query calls
      = SelectCall.applyAll query (calls.filter fun call => !call.ordersNothing) := by
  refine ⟨fun call live misspelled orders => ?_, (SelectCall.applyAll_filter calls query).symm⟩
  have mistaken : (SelectCall.applyAll query calls).error ≠ none := by
    rw [SelectCall.error_applyAll]
    intro empty
    obtain ⟨-, unmistaken⟩ := Option.or_eq_none_iff.mp empty
    have sound := List.findSome?_eq_none_iff.mp unmistaken call live
    exact misspelled (SelectCall.misspellings_eq_nil sound orders)
  obtain ⟨e, slot⟩ := Option.ne_none_iff_exists'.mp mistaken
  exact ⟨e, slot, Query.compile_of_error slot⟩

/-- An operator in a group of a group of what a join is on, between an order by no columns and a
reset. -/
theorem reports_misspellings_deep :
    let a : Select := Select.all ⟨none, ⟨"a", none⟩, .mysql, {}⟩
    let wrong : FilterCall := .compare .or (.name "x") (.text "=~") (.value (.int32 1))
    let join : SelectCall := .join (.table ⟨"b", none⟩)
      (.built [.on .and (.name "a.id") (.text "=") (.name "b.id"),
        .filter (.group .and [.isNull .and false (.name "y"), .group .or [wrong]])]) (.known .left)
    let order : SelectCall := .orderBy (.names []) (.text "sideways")
    let calls : List SelectCall := [order, join, .filter .reset, .limit (some 1)]
    let invalid : Error := .invalidKeyword "operator" "=~" (Keyword.allowed Operator)
    join.misspellings = [invalid] ∧
      (∃ e, ∀ d, (Query.select (SelectCall.applyAll a calls)).compile d = .error e) ∧
      SelectCall.applyAll a calls
        = SelectCall.applyAll a [join, .filter .reset, .limit (some 1)] := by
  intro a wrong join order calls invalid
  have misspelled : join.misspellings = [invalid] := by
    simp only [join, wrong, invalid]
    rfl
  obtain ⟨reported, left⟩ := reports_misspellings a calls
  have live : join ∈ SelectCall.allLive calls := by
    rw [SelectCall.allLive_eq (by simp [calls, order, join, SelectCall.startsOver])]
    exact .tail _ (.head _)
  obtain ⟨e, -, refused⟩ := reported join live (by rw [misspelled]; simp) rfl
  exact ⟨misspelled, ⟨e, refused⟩, left⟩

/-- The direction of no columns is never read. -/
theorem order_swallows_direction :
    let a : Select := Select.all ⟨none, ⟨"a", none⟩, .sqlite, {}⟩
    let order : SelectCall := .orderBy (.text "") (.text "sideways")
    order.misspellings = [.invalidKeyword "order type" "sideways" (Keyword.allowed Direction)] ∧
      (Query.select (SelectCall.applyAll a [order])).compile .sqlite
        = .ok ⟨"SELECT * FROM \"a\"", []⟩ :=
  ⟨rfl, rfl⟩

end Select

end SqlBuilder
