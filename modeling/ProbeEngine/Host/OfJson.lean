import ProbeEngine.Host.Heap
import ProbeEngine.Json.Basic

/-!
# Values from JSON

JSON arrays and objects become new arrays and plain objects of the heap. The
items of an array are made before it, so an array holds older objects alone.
-/

namespace ProbeEngine.Host

mutual

/-- The value of a JSON value, and the heap with its objects. -/
def Heap.ofJson (h : Heap) : Json → Value × Heap
  | .null => (.null, h)
  | .bool b => (.bool b, h)
  | .integer n => (.number (Binary64.ofInt n), h)
  | .float x => (.number x, h)
  | .string s => (.string s, h)
  | .array items =>
    let (elements, h₁) := h.ofJsonItems items
    let (id, h₂) := h₁.allocateKind (.array elements)
    (.object id, h₂)
  | .object fields =>
    let (id, h₁) := h.allocateKind .ordinary
    let (values, h₂) := h₁.ofJsonFields fields
    (.object id, h₂.setAll id values)

/-- The values of the items of an array, and the heap with their objects. -/
def Heap.ofJsonItems (h : Heap) : List Json → List Value × Heap
  | [] => ([], h)
  | j :: js =>
    let (v, h₁) := h.ofJson j
    let (vs, h₂) := h₁.ofJsonItems js
    (v :: vs, h₂)

/-- The values of the fields of an object, and the heap with their objects. -/
def Heap.ofJsonFields (h : Heap) : List (String × Json) → List (String × Value) × Heap
  | [] => ([], h)
  | (name, j) :: fs =>
    let (v, h₁) := h.ofJson j
    let (vs, h₂) := h₁.ofJsonFields fs
    ((name, v) :: vs, h₂)

end

end ProbeEngine.Host
