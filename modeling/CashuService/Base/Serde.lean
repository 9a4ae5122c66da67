import CashuService.Base.Fallible
set_option autoImplicit false

namespace CashuService

/-! JSON values and the code that `serde` derives for structs and internally tagged enums: the
fields of an object, in the order in which they are written. -/

/-- A number of `serde_json` that is not a floating-point number. -/
inductive Number where
  | posInt (n : UInt64)
  | negInt (n : Int64) (negative : n < 0)
  deriving DecidableEq, Repr

inductive Json where
  | null
  | bool (b : Bool)
  | number (n : Number)
  | string (s : String)
  | array (items : List Json)
  | object (fields : List (String × Json))

inductive DecodeError where
  | missingField (name : String)
  | duplicateField (name : String)
  | unknownVariant (name : String)
  | invalidType
  | invalidValue
  deriving DecidableEq, Repr

abbrev Fields := List (String × Json)

namespace Json

def isNull : Json → Bool
  | .null => true
  | _ => false

def ofU64 (n : UInt64) : Json := .number (.posInt n)

def ofU16 (n : UInt16) : Json := .number (.posInt n.toUInt64)

def asString : Json → Except DecodeError String
  | .string s => .ok s
  | _ => .error .invalidType

def asU64 : Json → Except DecodeError UInt64
  | .number (.posInt n) => .ok n
  | .number (.negInt _ _) => .error .invalidValue
  | _ => .error .invalidType

def asU16 (json : Json) : Except DecodeError UInt16 := do
  let n ← json.asU64
  if n.toNat < 2 ^ 16 then .ok n.toUInt16 else .error .invalidValue

def asArray : Json → Except DecodeError (List Json)
  | .array items => .ok items
  | _ => .error .invalidType

def asObject : Json → Except DecodeError Fields
  | .object fields => .ok fields
  | _ => .error .invalidType

def get? (json : Json) (name : String) : Option Json :=
  match json with
  | .object fields => fields.lookup name
  | _ => none

def asStr? (json : Json) : Option String :=
  match json with
  | .string s => some s
  | _ => none

def asU64? (json : Json) : Option UInt64 :=
  match json with
  | .number (.posInt n) => some n
  | _ => none

def asBool? (json : Json) : Option Bool :=
  match json with
  | .bool b => some b
  | _ => none

def asArray? (json : Json) : Option (List Json) :=
  match json with
  | .array items => some items
  | _ => none

end Json

/-- The value of a field, if it is there. Fields that nobody asks for are ignored. -/
def getField (fields : Fields) (name : String) : Except DecodeError (Option Json) :=
  match fields.filter fun field => field.1 == name with
  | [] => .ok none
  | [field] => .ok (some field.2)
  | _ => .error (.duplicateField name)

def required {α : Type} (decode : Json → Except DecodeError α) (fields : Fields) (name : String) :
    Except DecodeError α := do
  match ← getField fields name with
  | some value => decode value
  | none => .error (.missingField name)

def withDefault {α : Type} (default : α) (decode : Json → Except DecodeError α) (fields : Fields)
    (name : String) : Except DecodeError α := do
  match ← getField fields name with
  | some value => decode value
  | none => .ok default

/-- A field of type `Option<Value>` with `#[serde(default)]`: an `Option` reads `null` as `None`. -/
def optional (fields : Fields) (name : String) : Except DecodeError (Option Json) := do
  match ← getField fields name with
  | some value => .ok (if value.isNull then none else some value)
  | none => .ok none

def optionalAs {α : Type} (decode : Json → Except DecodeError α) (fields : Fields)
    (name : String) : Except DecodeError (Option α) := do
  match ← getField fields name with
  | some value => if value.isNull then .ok none else some <$> decode value
  | none => .ok none

def skipNone (name : String) (value : Option Json) (rest : Fields) : Fields :=
  match value with
  | some json => (name, json) :: rest
  | none => rest

/-- An internally tagged variant: the tag comes first, next to the fields of its struct. -/
def tagged (tag variant : String) (fields : Fields) : Json :=
  .object ((tag, .string variant) :: fields)

def untag (tag : String) (json : Json) : Except DecodeError (String × Fields) := do
  let fields ← json.asObject
  let variant ← required Json.asString fields tag
  return (variant, fields.filter fun field => field.1 != tag)

/-- What arrives of an optional value: everything but an explicit `null`. -/
def arriving (value : Option Json) : Option Json := value.filter fun json => !json.isNull

theorem Except.ok_bind {ε α β : Type} (a : α) (f : α → Except ε β) :
    (Except.ok a >>= f) = f a := rfl

variable {α : Type} {name other : String} {value : Json} {fields : Fields}

@[simp] theorem asString_string (s : String) : (Json.string s).asString = .ok s := rfl

@[simp] theorem asU64_ofU64 (n : UInt64) : (Json.ofU64 n).asU64 = .ok n := rfl

@[simp] theorem asU16_ofU16 (n : UInt16) : (Json.ofU16 n).asU16 = .ok n := by
  have hn := n.toNat_lt
  have hsame : n.toUInt64.toUInt16 = n := by simp
  simp only [Json.asU16, Json.ofU16, Json.asU64, bind, Except.bind, UInt16.toNat_toUInt64, hn,
    if_true, hsame]

theorem getField_eq_none :
    getField fields name = .ok none ↔ (fields.filter fun field => field.1 == name) = [] := by
  unfold getField
  split
  · rename_i h
    simp only [h]
  · rename_i h
    simp [h]
  · rename_i h _
    simp only [reduceCtorEq, false_iff]
    exact h

@[simp] theorem getField_nil : getField [] name = .ok none :=
  getField_eq_none.mpr List.filter_nil

@[simp] theorem getField_cons_ne (h : other ≠ name) :
    getField ((other, value) :: fields) name = getField fields name := by
  simp [getField, h]

@[simp] theorem getField_cons_self (h : getField fields name = .ok none) :
    getField ((name, value) :: fields) name = .ok (some value) := by
  simp [getField, getField_eq_none.mp h]

@[simp] theorem getField_skipNone_ne {value : Option Json} (h : other ≠ name) :
    getField (skipNone other value fields) name = getField fields name := by
  cases value with
  | none => rfl
  | some json => exact getField_cons_ne h

section

variable {decode : Json → Except DecodeError α} {default : α}

@[simp] theorem required_cons_ne (h : other ≠ name) :
    required decode ((other, value) :: fields) name = required decode fields name := by
  simp only [required, getField_cons_ne h]

@[simp] theorem required_cons_self (h : getField fields name = .ok none) :
    required decode ((name, value) :: fields) name = decode value := by
  simp only [required, getField_cons_self h, bind, Except.bind]

@[simp] theorem required_skipNone_ne {value : Option Json} (h : other ≠ name) :
    required decode (skipNone other value fields) name = required decode fields name := by
  simp only [required, getField_skipNone_ne h]

@[simp] theorem withDefault_cons_ne (h : other ≠ name) :
    withDefault default decode ((other, value) :: fields) name =
      withDefault default decode fields name := by
  simp only [withDefault, getField_cons_ne h]

@[simp] theorem withDefault_cons_self (h : getField fields name = .ok none) :
    withDefault default decode ((name, value) :: fields) name = decode value := by
  simp only [withDefault, getField_cons_self h, bind, Except.bind]

@[simp] theorem optional_cons_ne (h : other ≠ name) :
    optional ((other, value) :: fields) name = optional fields name := by
  simp only [optional, getField_cons_ne h]

@[simp] theorem optional_skipNone_ne {value : Option Json} (h : other ≠ name) :
    optional (skipNone other value fields) name = optional fields name := by
  simp only [optional, getField_skipNone_ne h]

@[simp] theorem optional_skipNone_self {value : Option Json} (h : getField fields name = .ok none) :
    optional (skipNone name value fields) name = .ok (arriving value) := by
  cases value with
  | none => simp [skipNone, optional, h, bind, Except.bind, arriving]
  | some json =>
    simp only [skipNone, optional, getField_cons_self h, bind, Except.bind, arriving]
    cases hn : json.isNull <;> simp [Option.filter, hn]

@[simp] theorem optionalAs_cons_ne (h : other ≠ name) :
    optionalAs decode ((other, value) :: fields) name = optionalAs decode fields name := by
  simp only [optionalAs, getField_cons_ne h]

@[simp] theorem optionalAs_skipNone_ne {value : Option Json} (h : other ≠ name) :
    optionalAs decode (skipNone other value fields) name = optionalAs decode fields name := by
  simp only [optionalAs, getField_skipNone_ne h]

theorem optionalAs_skipNone_self {encode : α → Json} {value : Option α}
    (hdecode : ∀ a, decode (encode a) = .ok a) (hnull : ∀ a, (encode a).isNull = false)
    (h : getField fields name = .ok none) :
    optionalAs decode (skipNone name (value.map encode) fields) name = .ok value := by
  cases value with
  | none => simp [skipNone, optionalAs, h, bind, Except.bind]
  | some a =>
    simp [skipNone, optionalAs, getField_cons_self h, hdecode, hnull, bind, Except.bind,
      Functor.map, Except.map]

end

theorem untag_tagged {tag variant : String} (h : getField fields tag = .ok none) :
    untag tag (tagged tag variant fields) = .ok (variant, fields) := by
  have hnone := getField_eq_none.mp h
  have hrest : fields.filter (fun field => field.1 != tag) = fields := by
    rw [List.filter_eq_self]
    intro field hf
    have hne := List.filter_eq_nil_iff.mp hnone field hf
    simpa using hne
  simp [untag, tagged, Json.asObject, h, hrest, bind, Except.bind, pure, Except.pure]

theorem arriving_eq_self {value : Option Json} : arriving value = value ↔ value ≠ some .null := by
  cases value with
  | none => simp [arriving]
  | some json => cases json <;> simp [arriving, Json.isNull]

end CashuService
