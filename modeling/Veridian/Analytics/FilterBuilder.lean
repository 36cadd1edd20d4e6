/-
Filters of an analytics request.

A filter names a dimension; the condition that goes into the WHERE clause is about that
dimension's column.  What ClickHouse makes of an operator, its bound values and a cell is
not defined here: it enters as a `Meaning`.
-/
import Veridian.Analytics.Catalog
import Mathlib.Data.Rat.Init

namespace Veridian.Analytics

inductive FilterOperator where
  | equals | notEquals | in | notIn | contains | notContains | gt | gte | lt | lte
  | isNull | isNotNull | between | isEmpty | isNotEmpty
  deriving DecidableEq

/-- The values come unchecked from the request's JSON. -/
structure FilterDto (N : Type) where
  dimension : String
  operator : FilterOperator
  values : Option (List (Json N))

/-- One condition of the WHERE clause. -/
structure Condition (N : Type) where
  column : Column
  operator : FilterOperator
  values : Option (List (Json N))

/-- The column that a dimension has on a table. -/
def columnOn (table : AnalyticsTable) (name : String) : Except String Column :=
  match dimension? name with
  | none => .error ("Unknown dimension: " ++ name)
  | some dimension =>
      if dimension.tables.contains table then .ok dimension.column
      else .error ("Dimension '" ++ name ++ "' is not available for table '" ++ table.text ++ "'")

variable {N : Type}

def buildFilters (filters : List (FilterDto N)) (table : AnalyticsTable) :
    Except String (List (Condition N)) :=
  filters.mapM fun filter => do
    let column ← columnOn table filter.dimension
    return ⟨column, filter.operator, filter.values⟩

/-! ### Cells -/

/-- A value as a row holds it. -/
inductive Cell where
  | text (s : String)
  | number (x : ℚ)
  | boolean (b : Bool)
  | null
  deriving DecidableEq

/-- What ClickHouse makes of an operator with its values, on a cell. -/
abbrev Meaning (N : Type) := FilterOperator → Option (List (Json N)) → Cell → Bool

def Condition.holds (meaning : Meaning N) (c : Condition N) (cell : Column → Cell) : Bool :=
  meaning c.operator c.values (cell c.column)

end Veridian.Analytics
