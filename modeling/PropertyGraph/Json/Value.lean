import PropertyGraph.Dict
import PropertyGraph.Number.Binary64

/-!
# JSON values

Numbers are of two kinds that never compare equal: integers and floating-point numbers.
The members of an object are listed in ascending key order.
-/

namespace PropertyGraph

/-- A JSON value. -/
inductive Json
  | null
  | bool (value : Bool)
  | integer (value : Int)
  | float (value : Binary64)
  | string (value : String)
  | array (items : List Json)
  | object (members : List (String × Json))
  deriving Inhabited

namespace Json

mutual
/-- Equality of values.  Integers and floating-point numbers are never equal, and the two
zeros of the latter are. -/
def same : Json → Json → Bool
  | .null, .null => true
  | .bool a, .bool b => a == b
  | .integer a, .integer b => a == b
  | .float a, .float b => a == b
  | .string a, .string b => a == b
  | .array a, .array b => sameItems a b
  | .object a, .object b => sameMembers a b
  | _, _ => false

/-- Equality of lists of values. -/
def sameItems : List Json → List Json → Bool
  | [], [] => true
  | a :: as, b :: bs => same a b && sameItems as bs
  | _, _ => false

/-- Equality of lists of members. -/
def sameMembers : List (String × Json) → List (String × Json) → Bool
  | [], [] => true
  | (k, a) :: as, (l, b) :: bs => k == l && same a b && sameMembers as bs
  | _, _ => false
end

instance : BEq Json := ⟨same⟩

mutual
/-- Every value equals itself. -/
theorem same_refl : ∀ v : Json, same v v = true
  | .null => rfl
  | .bool b | .integer b | .string b => beq_self_eq_true b
  | .float x => Binary64.same_refl x
  | .array items => sameItems_refl items
  | .object members => sameMembers_refl members

theorem sameItems_refl : ∀ items : List Json, sameItems items items = true
  | [] => rfl
  | v :: rest => by rw [sameItems, same_refl v, sameItems_refl rest]; rfl

theorem sameMembers_refl : ∀ members : List (String × Json), sameMembers members members = true
  | [] => rfl
  | (k, v) :: rest => by
    rw [sameMembers, beq_self_eq_true, same_refl v, sameMembers_refl rest]; rfl
end

instance : ReflBEq Json := ⟨same_refl _⟩

/-- Whether the value is null. -/
def isNull : Json → Bool
  | .null => true
  | _ => false

/-- The object with the given members. -/
def ofDict (d : Dict Json) : Json := .object d.entries

end Json

/-- Properties of a vertex or an edge; also selectors, filters and query parameters. -/
abbrev PropertyMap := Dict Json

end PropertyGraph
