import Mathlib.Data.List.Sort
import Mathlib.Data.String.Basic
import ModuleManager.Declarative.Rfc3339

/-!
# Schema-less resources

The second representation of a resource, `*unstructured.Unstructured`: a JSON object, read and
written by paths of field names. This file models the helpers of `apimachinery` that the
reconciler reaches through it: the nested-field accessors (`NestedFieldNoCopy`, `NestedMap`,
`SetNestedField`, `RemoveNestedField`), the `metav1.Object` methods of `Unstructured` that read
and write labels, finalizers and the deletion timestamp, and
`runtime.DefaultUnstructuredConverter.FromUnstructured` into the spec and the status.

A JSON object is a list of entries whose first entry for a key is the one read; writes replace
that entry in place, so a map built by these writes has distinct keys. Error texts are Go's:
`%v` of a value (`Value.goFormat`, a map with its keys sorted as `fmt` prints it), `%T` of its
Go type, and the `reflect.Kind` the converter names. A `metav1.Time` is read from its RFC 3339
text by `parseRFC3339`.

## Main definitions

* `Value`, `JsonObject`, `nestedFieldNoCopy`, `nestedMap`, `setNestedField`.
* `Unstructured` with `getLabels`, `setLabels`, `getFinalizers`, `setFinalizers`,
  `getDeletionTimestamp`.
* `statusFromUnstructured`, `specFromUnstructured`.
-/

namespace ModuleManager

/-- A JSON value as `encoding/json` decodes it into an `interface{}`. -/
inductive Value
  | null
  | bool (b : Bool)
  | int (i : Int)
  | string (s : String)
  | array (vs : List Value)
  | object (fields : List (String × Value))
  deriving Repr

/-- A `map[string]interface{}`. -/
abbrev JsonObject := List (String × Value)

namespace JsonObject

/-- `m[k]`: the first entry for `k`. -/
def lookup (k : String) : JsonObject → Option Value
  | [] => none
  | (k', v) :: m => if k' = k then some v else lookup k m

/-- `m[k] = v`: replaces the first entry for `k`, or appends one. -/
def set (k : String) (v : Value) : JsonObject → JsonObject
  | [] => [(k, v)]
  | (k', v') :: m => if k' = k then (k, v) :: m else (k', v') :: set k v m

/-- `delete(m, k)`. -/
def erase (k : String) (m : JsonObject) : JsonObject :=
  m.filter fun e => e.1 ≠ k

/-- The entries a JSON object denotes as a Go map: the first entry of each key, in order. -/
def firstEntries {α : Type} (m : List (String × α)) : List (String × α) :=
  m.foldl (fun acc e => if acc.any (·.1 == e.1) then acc else acc ++ [e]) []

end JsonObject

/-! ### Go's names and texts for values -/

/-- The Go type name that `%T` prints for a value. -/
def Value.goType : Value → String
  | .null => "<nil>"
  | .bool _ => "bool"
  | .int _ => "int64"
  | .string _ => "string"
  | .array _ => "[]interface {}"
  | .object _ => "map[string]interface {}"

/-- The `reflect.Kind` of a value's Go type, as the converter prints it. -/
def Value.goKind : Value → String
  | .null => "invalid"
  | .bool _ => "bool"
  | .int _ => "int64"
  | .string _ => "string"
  | .array _ => "slice"
  | .object _ => "map"

/-- What `encoding/json` calls a value it cannot unmarshal. -/
def Value.jsonKind : Value → String
  | .null => "null"
  | .bool _ => "bool"
  | .int _ => "number"
  | .string _ => "string"
  | .array _ => "array"
  | .object _ => "object"

mutual

/-- `%v` of a value: a slice as its elements between brackets, a map as its entries `k:v`
sorted by key after `map`, both separated by spaces. -/
def Value.goFormat : Value → String
  | .null => "<nil>"
  | .bool b => toString b
  | .int i => toString i
  | .string s => s
  | .array vs => "[" ++ " ".intercalate (Value.goFormatList vs) ++ "]"
  | .object fields =>
    let entries := (JsonObject.firstEntries (Value.goFormatFields fields)).insertionSort
      (fun a b : String × String => a.1 ≤ b.1)
    "map[" ++ " ".intercalate (entries.map fun e => e.1 ++ ":" ++ e.2) ++ "]"

/-- `%v` of the elements of a slice. -/
def Value.goFormatList : List Value → List String
  | [] => []
  | v :: vs => v.goFormat :: Value.goFormatList vs

/-- `%v` of the values of a map, by key. -/
def Value.goFormatFields : List (String × Value) → List (String × String)
  | [] => []
  | (k, v) :: m => (k, v.goFormat) :: Value.goFormatFields m

end

/-! ### Nested fields -/

/-- `jsonPath`: the fields of a path joined by dots. -/
def jsonPath (fields : List String) : String :=
  "." ++ ".".intercalate fields

/-- The error of a nested-field accessor that meets a value which is not a map. -/
def notAMapError (fields : List String) (v : Value) : Error :=
  .message (jsonPath fields ++ " accessor error: " ++ v.goFormat ++ " is of the type " ++
    v.goType ++ ", expected map[string]interface{}")

/-- `unstructured.NestedFieldNoCopy` from a value: `none` when a field is missing or a `null`
stands on the way, an error when a value on the way is not a map. `done` are the fields
already walked, for the error's path. -/
def nestedFieldNoCopy (done : List String) : Value → List String → Except Error (Option Value)
  | v, [] => .ok (some v)
  | .null, _ :: _ => .ok none
  | .object m, f :: fs =>
    match JsonObject.lookup f m with
    | none => .ok none
    | some v => nestedFieldNoCopy (done ++ [f]) v fs
  | v, f :: _ => .error (notAMapError (done ++ [f]) v)

/-- `unstructured.NestedMap`: the map at a path, `none` when it is absent. -/
def nestedMap (obj : JsonObject) (fields : List String) : Except Error (Option JsonObject) :=
  match nestedFieldNoCopy [] (.object obj) fields with
  | .error e => .error e
  | .ok none => .ok none
  | .ok (some (.object m)) => .ok (some m)
  | .ok (some v) => .error (notAMapError fields v)

/-- `unstructured.SetNestedField`: creates the maps missing on the way and fails where a value
on the way is not a map. -/
def setNestedField (value : Value) : JsonObject → List String → Except Error JsonObject
  | m, [] => .ok m
  | m, [f] => .ok (m.set f value)
  | m, f :: g :: fs =>
    match m.lookup f with
    | some (.object inner) => (setNestedField value inner (g :: fs)).map (m.set f <| .object ·)
    | none | some .null => (setNestedField value [] (g :: fs)).map (m.set f <| .object ·)
    | some _ => .error (.message ("value cannot be set because " ++ jsonPath [f] ++
        " is not a map[string]interface{}"))

/-- `unstructured.RemoveNestedField`. -/
def removeNestedField : JsonObject → List String → JsonObject
  | m, [] => m
  | m, [f] => m.erase f
  | m, f :: g :: fs =>
    match m.lookup f with
    | some (.object inner) => m.set f (.object (removeNestedField inner (g :: fs)))
    | _ => m

/-- The strings of a JSON array, as `NestedStringSlice` reads them. -/
def Value.strings? : List Value → Option (List String)
  | [] => some []
  | .string s :: vs => (Value.strings? vs).map (s :: ·)
  | _ :: _ => none

/-- The string map of a JSON object, as `NestedStringMap` reads it: every value of the map must
be a string. -/
def Value.stringMap? (m : JsonObject) : Option StringMap :=
  (JsonObject.firstEntries m).foldlM (fun l e => match e.2 with
    | .string s => some (l.insert e.1 s)
    | _ => none) ∅

/-! ### The object -/

/-- An `*unstructured.Unstructured`. -/
structure Unstructured where
  object : JsonObject
  deriving Repr

namespace Unstructured

variable (u : Unstructured)

/-- `getNestedString`: the string at a path, `""` when there is none. -/
def getNestedString (fields : List String) : String :=
  match nestedFieldNoCopy [] (.object u.object) fields with
  | .ok (some (.string s)) => s
  | _ => ""

/-- `(*Unstructured).GetLabels`; `none` is the `nil` map. -/
def getLabels : Option StringMap :=
  match nestedMap u.object ["metadata", "labels"] with
  | .ok (some m) => Value.stringMap? m
  | _ => none

/-- `(*Unstructured).SetLabels`. -/
def setLabels : Option StringMap → Unstructured
  | none => ⟨removeNestedField u.object ["metadata", "labels"]⟩
  | some l =>
    let value := Value.object (l.entries.map fun e => (e.1, .string e.2))
    match setNestedField value u.object ["metadata", "labels"] with
    | .ok obj => ⟨obj⟩
    | .error _ => u

/-- `(*Unstructured).GetFinalizers`. -/
def getFinalizers : List String :=
  match nestedFieldNoCopy [] (.object u.object) ["metadata", "finalizers"] with
  | .ok (some (.array vs)) => (Value.strings? vs).getD []
  | _ => []

/-- `(*Unstructured).SetFinalizers`. -/
def setFinalizers (fs : List String) : Unstructured :=
  match setNestedField (.array (fs.map .string)) u.object ["metadata", "finalizers"] with
  | .ok obj => ⟨obj⟩
  | .error _ => u

/-- `(*Unstructured).GetDeletionTimestamp`, through `metav1.Time.UnmarshalQueryParameter`: the
empty text and `null` are the zero time, a text `time.Parse` rejects leaves the time zero, and
the zero time is `nil`. -/
def getDeletionTimestamp : Option Time :=
  let str := u.getNestedString ["metadata", "deletionTimestamp"]
  if str = "" ∨ str = "null" then none
  else match parseRFC3339 str with
    | .ok t => if Time.IsZero (some t) then none else some t
    | .error _ => none

/-- `(*Unstructured).GetResourceVersion`. -/
def getResourceVersion : Nat :=
  (u.getNestedString ["metadata", "resourceVersion"]).toNat?.getD 0

end Unstructured

/-! ### The converter for the spec and the status -/

/-- A string field as `FromUnstructured` reads it: absent and `null` are `""`, and a value of
another type cannot be converted. -/
def fieldString (m : JsonObject) (k : String) : Except Error String :=
  match m.lookup k with
  | none | some .null => .ok ""
  | some (.string s) => .ok s
  | some v => .error (.message ("cannot convert " ++ v.goType ++ " to string"))

/-- The error of `structFromUnstructured` on a value that is not a map. -/
def notAStructError (v : Value) : Error :=
  .message ("cannot restore struct from: " ++ v.goKind)

/-- `metav1.Time.UnmarshalJSON` of the JSON of a value, as the converter calls it: `null` is
the zero time, a string is read by `time.Parse`, and any other value fails to unmarshal into a
string. -/
def timeFromValue : Option Value → Except Error (Option Time)
  | none | some .null => .ok none
  | some (.string s) =>
    match parseRFC3339 s with
    | .ok t => .ok (some t)
    | .error f => .error (.message (f.text s))
  | some v => .error (.message ("json: cannot unmarshal " ++ v.jsonKind ++
      " into Go value of type string"))

/-- `FromUnstructured` of the install snapshot of a condition. -/
def installItemFromValue : Option Value → Except Error InstallItem
  | none | some .null => .ok ⟨"", ""⟩
  | some (.object m) => do
    let chartPath ← fieldString m "chartPath"
    let releaseName ← fieldString m "releaseName"
    return ⟨chartPath, releaseName⟩
  | some v => .error (notAStructError v)

/-- `FromUnstructured` of a condition; `null` is the zero condition. -/
def conditionFromValue : Value → Except Error CustomObjectCondition
  | .null => .ok ⟨"", none, ⟨"", ""⟩⟩
  | .object m => do
    let type ← fieldString m "type"
    let lastTransitionTime ← timeFromValue (JsonObject.lookup "lastTransitionTime" m)
    let installInfo ← installItemFromValue (JsonObject.lookup "installInfo" m)
    return ⟨type, lastTransitionTime, installInfo⟩
  | v => .error (notAStructError v)

/-- `runtime.DefaultUnstructuredConverter.FromUnstructured` into a status. -/
def statusFromUnstructured (m : JsonObject) : Except Error CustomObjectStatus := do
  let state ← fieldString m "state"
  let conditions ← match m.lookup "conditions" with
    | none | some .null => pure []
    | some (.array vs) => vs.mapM conditionFromValue
    | some v => throw (.message ("cannot convert " ++ v.goKind ++ " to slice"))
  return { state, conditions }

/-- `runtime.DefaultUnstructuredConverter.FromUnstructured` into a spec. -/
def specFromUnstructured (m : JsonObject) : Except Error CustomObjectSpec := do
  let chartPath ← fieldString m "chartPath"
  let releaseName ← fieldString m "releaseName"
  let chartFlags ← fieldString m "chartFlags"
  return { chartPath, releaseName, chartFlags }

end ModuleManager
