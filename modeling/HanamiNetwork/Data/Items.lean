import Mathlib.Data.List.Basic
import Mathlib.Tactic.Linarith

/-!
# Items

The values the network passes around: strings, data items, maps of items, JSON items,
error containers, the status of a blossom, and the messages of a request. They come
from the libraries below this one (`libKitsunemimiCommon`, `libKitsunemimiJson`,
`libKitsunemimiHanamiCommon`); what is kept here is what the code of this repository
uses of them.

A `std::string` is a list of bytes, and `std::map` with such keys is an ordered map
(`StdMap`), equal to another exactly when it has the same entries, and iterated in the
order of its keys. A pointer to an item is an `Option`; `none` is the null pointer. A
map can hold a null pointer under a key: `contains` then finds the key, `get` does not
find an item.
-/

namespace HanamiNetwork

/-- `std::string`. -/
abbrev Str := List UInt8

/-- A string literal of the source. -/
def str (s : String) : Str := s.toList.map fun c => c.toNat.toUInt8

/-- `std::map` with strings as keys. -/
abbrev StdMap (α : Type) := Std.ExtTreeMap Str α

/-- A session, by its address. -/
abbrev SessionId := ℕ

/-- A client object, by its address. -/
abbrev ClientId := ℕ

/-! ### Data items -/

/-- `DataValue`. -/
inductive DataValue where
  /-- `INT_TYPE`. -/
  | int (v : Int64)
  /-- `FLOAT_TYPE`, by its bits. -/
  | float (bits : UInt64)
  /-- `BOOL_TYPE`. -/
  | bool (b : Bool)
  /-- `STRING_TYPE`. -/
  | string (s : Str)
  deriving DecidableEq

/-- `DataItem`. -/
inductive DataItem where
  /-- `VALUE_TYPE`. -/
  | value (v : DataValue)
  /-- `ARRAY_TYPE`. -/
  | array (items : List (Option DataItem))
  /-- `MAP_TYPE`. -/
  | map (items : List (Str × Option DataItem))

/-- `toValue()`: the item as a value, null if it is none. -/
def DataItem.toValue : DataItem → Option DataValue
  | .value v => some v
  | _ => none

/-- `DataMap`: a map from keys to pointers to items. -/
@[ext]
structure DataMap where
  /-- The public member `map`. -/
  map : StdMap (Option DataItem)

namespace DataMap

/-- The empty map. -/
def empty : DataMap := ⟨∅⟩

/-- `contains`: the key is there, with an item or with a null pointer. -/
def contains (m : DataMap) (key : Str) : Bool := m.map.contains key

/-- `get`: the stored pointer, null if the key is not there. -/
def get (m : DataMap) (key : Str) : Option DataItem := m.map[key]?.join

/-- `insert`: an existing entry is replaced only by force. -/
def insert (m : DataMap) (key : Str) (value : Option DataItem) (force : Bool) : DataMap :=
  if m.contains key && !force then m else ⟨m.map.insert key value⟩

/-- `remove`. -/
def remove (m : DataMap) (key : Str) : DataMap := ⟨m.map.erase key⟩

/-- No key holds a null pointer. -/
def NonNull (m : DataMap) : Prop := ∀ key : Str, m.map[key]? ≠ some none

@[ext] theorem ext_getElem? {m m' : DataMap} (h : ∀ key : Str, m.map[key]? = m'.map[key]?) : m = m' :=
  DataMap.ext (Std.ExtTreeMap.ext_getElem? h)

theorem contains_iff (m : DataMap) (key : Str) : m.contains key = true ↔ (m.map[key]?).isSome := by
  rw [contains, Std.ExtTreeMap.contains_eq_isSome_getElem?]

theorem get_eq_some_iff (m : DataMap) (key : Str) (item : DataItem) :
    m.get key = some item ↔ m.map[key]? = some (some item) := by
  rw [get, Option.join_eq_some_iff]

theorem getElem?_insert_force (m : DataMap) (key key' : Str) (value : Option DataItem) :
    (m.insert key value true).map[key']? = if key = key' then some value else m.map[key']? := by
  simp [insert, Std.ExtTreeMap.getElem?_insert]

theorem getElem?_insert_keep (m : DataMap) (key key' : Str) (value : Option DataItem) :
    (m.insert key value false).map[key']? =
      if key = key' then some ((m.map[key]?).getD value) else m.map[key']? := by
  by_cases h : m.contains key = true
  · obtain ⟨v, hv⟩ := Option.isSome_iff_exists.mp ((contains_iff m key).mp h)
    simp only [insert, h, Bool.not_false, Bool.and_self, if_true]
    split_ifs with hk
    · rw [← hk, hv, Option.getD_some]
    · rfl
  · have hn : m.map[key]? = none := by
      rw [← Option.not_isSome_iff_eq_none, ← contains_iff]
      exact h
    simp [insert, h, hn, Std.ExtTreeMap.getElem?_insert]

end DataMap

/-- `toMap()`: the item as a map, null if it is none. -/
def DataItem.toMap : DataItem → Option DataMap
  | .map items => some ⟨.ofList items⟩
  | _ => none

/-- `JsonItem`: a pointer to its content. -/
structure JsonItem where
  /-- `getItemContent()`. -/
  content : Option DataItem

namespace JsonItem

/-- A JSON item that holds a map. -/
def ofMap (m : DataMap) : JsonItem := ⟨some (.map m.map.toList)⟩

/-- `*getItemContent()->toMap()`: the map the item holds. There is none if the content is
null or no map; the source then dereferences a null pointer. -/
def toMap (j : JsonItem) : Option DataMap := j.content.bind DataItem.toMap

/-- `operator[]`. -/
def get (j : JsonItem) (key : Str) : JsonItem := ⟨j.toMap.bind fun m => m.get key⟩

/-- `remove`: an item that holds no map stays as it is. -/
def remove (j : JsonItem) (key : Str) : JsonItem := j.toMap.elim j fun m => ofMap (m.remove key)

end JsonItem

/-! ### Errors and statuses -/

/-- `ErrorContainer`. -/
structure ErrorContainer where
  /-- The messages, first one first. -/
  messages : List Str

/-- `addMeesage`. -/
def ErrorContainer.addMeesage (error : ErrorContainer) (message : Str) : ErrorContainer :=
  ⟨error.messages ++ [message]⟩

/-- `HttpRequestType`, as the integer it is sent as. -/
abbrev HttpRequestType := UInt32

/-- `HttpResponseTypes`, as the integer it is sent as. -/
abbrev HttpResponseTypes := UInt32

/-- `BlossomStatus`. -/
structure BlossomStatus where
  /-- The code of the stage that set it last. -/
  statusCode : UInt64
  /-- The message that goes with it. -/
  errorMessage : Str

/-- The two parameters that almost every function takes by reference: the status and the
error container. -/
structure Refs where
  /-- `status`. -/
  status : BlossomStatus
  /-- `error`. -/
  error : ErrorContainer

/-- `error.addMeesage(message)`. -/
def Refs.addMeesage (r : Refs) (message : Str) : Refs := { r with error := r.error.addMeesage message }

/-- `status.statusCode = code`. -/
def Refs.setCode (r : Refs) (code : UInt64) : Refs := { r with status := { r.status with statusCode := code } }

/-- `status.errorMessage = message`. -/
def Refs.setMessage (r : Refs) (message : Str) : Refs :=
  { r with status := { r.status with errorMessage := message } }

@[simp] theorem Refs.status_addMeesage (r : Refs) (message : Str) :
    (r.addMeesage message).status = r.status := rfl

/-! ### Requests and responses -/

/-- `RequestMessage`. -/
structure RequestMessage where
  /-- The endpoint. -/
  id : Str
  /-- The request type. -/
  httpType : HttpRequestType
  /-- The input values, as text. -/
  inputValues : Str
  deriving DecidableEq

/-- `ResponseMessage`. -/
structure ResponseMessage where
  /-- Whether the request succeeded. -/
  success : Bool
  /-- The response type. -/
  type : HttpResponseTypes
  /-- The content, as text. -/
  responseContent : Str
  deriving DecidableEq

end HanamiNetwork
