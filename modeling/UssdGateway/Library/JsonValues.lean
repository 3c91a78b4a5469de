import Mathlib.Data.List.Basic

/-!
JavaScript values as JSON carries them, and what is left of a value that is written with
`JSON.stringify` and read back with `JSON.parse`.
-/

namespace JsonValues

inductive JsValue where
  | undefined
  | null
  | bool (value : Bool)
  | number (value : Int)
  | text (value : String)
  | array (items : List JsValue)
  | object (fields : List (String × JsValue))

namespace JsValue

def truthy : JsValue → Bool
  | undefined | null => false
  | bool value => value
  | number value => decide (value ≠ 0)
  | text value => decide (value ≠ "")
  | array _ | object _ => true

def field (value : JsValue) (name : String) : JsValue :=
  match value with
  | object fields => (List.lookup name fields).getD undefined
  | _ => undefined

def itemAt (items : List JsValue) (index : Nat) : JsValue := (items[index]?).getD undefined

mutual

/-- An undefined member is not written, an undefined item is written as `null`. -/
def roundTrip : JsValue → JsValue
  | array items => array (roundTripItems items)
  | object fields => object (roundTripFields fields)
  | value => value

def roundTripItems : List JsValue → List JsValue
  | [] => []
  | undefined :: rest => null :: roundTripItems rest
  | item :: rest => roundTrip item :: roundTripItems rest

def roundTripFields : List (String × JsValue) → List (String × JsValue)
  | [] => []
  | (_, undefined) :: rest => roundTripFields rest
  | (name, value) :: rest => (name, roundTrip value) :: roundTripFields rest

end

inductive Defined : JsValue → Prop where
  | null : Defined null
  | bool (value : Bool) : Defined (bool value)
  | number (value : Int) : Defined (number value)
  | text (value : String) : Defined (text value)
  | array {items : List JsValue} (all : ∀ item ∈ items, Defined item) : Defined (array items)
  | object {fields : List (String × JsValue)} (all : ∀ entry ∈ fields, Defined entry.2) :
      Defined (object fields)

theorem roundTripItems_cons {item : JsValue} {rest : List JsValue} (defined : Defined item) :
    roundTripItems (item :: rest) = roundTrip item :: roundTripItems rest := by
  cases defined <;> rfl

theorem roundTripFields_cons {entry : String × JsValue} {rest : List (String × JsValue)}
    (defined : Defined entry.2) :
    roundTripFields (entry :: rest) = (entry.1, roundTrip entry.2) :: roundTripFields rest := by
  obtain ⟨name, value⟩ := entry
  cases defined <;> rfl

theorem roundTripItems_eq {items : List JsValue} (defined : ∀ item ∈ items, Defined item)
    (same : ∀ item ∈ items, roundTrip item = item) : roundTripItems items = items := by
  induction items with
  | nil => rfl
  | cons item rest ih =>
      rw [roundTripItems_cons (defined item List.mem_cons_self), same item List.mem_cons_self,
        ih (fun other member => defined other (List.mem_cons_of_mem _ member))
          (fun other member => same other (List.mem_cons_of_mem _ member))]

theorem roundTripFields_eq {fields : List (String × JsValue)}
    (defined : ∀ entry ∈ fields, Defined entry.2)
    (same : ∀ entry ∈ fields, roundTrip entry.2 = entry.2) : roundTripFields fields = fields := by
  induction fields with
  | nil => rfl
  | cons entry rest ih =>
      rw [roundTripFields_cons (defined entry List.mem_cons_self),
        same entry List.mem_cons_self,
        ih (fun other member => defined other (List.mem_cons_of_mem _ member))
          (fun other member => same other (List.mem_cons_of_mem _ member))]

theorem roundTrip_of_defined {value : JsValue} (defined : Defined value) :
    roundTrip value = value := by
  induction defined with
  | null => rfl
  | bool _ => rfl
  | number _ => rfl
  | text _ => rfl
  | array all same => rw [roundTrip, roundTripItems_eq all same]
  | object all same => rw [roundTrip, roundTripFields_eq all same]

theorem itemAt_map {α : Type} {items : List α} (wrap : α → JsValue) {index : Nat}
    (inside : index < items.length) : itemAt (items.map wrap) index = wrap items[index] := by
  simp [itemAt, inside]

end JsValue

end JsonValues
