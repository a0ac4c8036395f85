import CrashDiff.Number.Double

/-!
# JSON values

The values of the JSON format. Whole numbers are exact and are kept apart from numbers with a
point or an exponent; the fields of an object keep their order.
-/

namespace CrashDiff

/-- A JSON value. -/
inductive Json where
  | null
  | bool (b : Bool)
  | int (n : Int)
  | double (x : Double)
  | str (s : String)
  | arr (items : List Json)
  | obj (fields : List (String × Json))
deriving Repr

namespace Json

instance : Inhabited Json := ⟨.null⟩

/-- The first entry of a list of pairs under a key. -/
def lookup? (key : String) : List (String × Json) → Option Json
  | [] => none
  | (k, v) :: rest => if k = key then some v else lookup? key rest

/-- The field of an object under a key. -/
def get? (key : String) : Json → Option Json
  | .obj fields => lookup? key fields
  | _ => none

/-- A list of pairs with a value put under a key: in place if the key is there, else at the
end. -/
def put (key : String) (value : Json) : List (String × Json) → List (String × Json)
  | [] => [(key, value)]
  | (k, v) :: rest => if k = key then (k, value) :: rest else (k, v) :: put key value rest

end Json

end CrashDiff
