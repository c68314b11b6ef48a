import Laminar.Layer.Template
import Laminar.Table

/-!
# Name tables

The names that source texts define live in numbered tables.  A layer refers to tables by number, so
a change of a table is seen by every layer that looks into it.

* `Scopes` are the tables, `Scopes.define` and `Scopes.forget` change one name of one table.
* `Scopes.closure` are the values a layer takes from the source around it, as they are now.
-/

namespace Laminar

/-- Numbered tables of names. -/
abbrev Scopes := List (Table Value)

namespace Scopes

/-- The table with a number; beyond the last one all tables are empty. -/
def table (s : Scopes) (id : ScopeId) : Table Value := s.getD id Table.empty

/-- Change the table with a number. -/
def update (s : Scopes) (id : ScopeId) (f : Table Value → Table Value) : Scopes :=
  s.modify id f

/-- Define a name in a table. -/
def define (s : Scopes) (id : ScopeId) (name : String) (v : Value) : Scopes :=
  s.update id (·.insert name v)

/-- Forget a name in a table. -/
def forget (s : Scopes) (id : ScopeId) (name : String) : Scopes := s.update id (·.erase name)

/-- The values that a layer takes from the source around it; names without a value are left out. -/
def closure (s : Scopes) (around : Surroundings) : List (String × Value) :=
  match around.enclosing with
  | none => []
  | some id => around.free.filterMap fun name => ((s.table id).get? name).map fun v => (name, v)

end Scopes

end Laminar
