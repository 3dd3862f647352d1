import ScopeGateway.Http.Field

/-!
Header sections: fields of which several may have one name.
-/
namespace ScopeGateway.Http

structure Field where
  name : FieldName
  value : FieldValue
deriving DecidableEq

/-- The fields of one name stand in their order. The order across names means nothing. -/
structure Headers where
  fields : List Field := []
deriving DecidableEq

namespace Headers

/-- The values of a name, in order. -/
def values (h : Headers) (n : FieldName) : List FieldValue :=
  (h.fields.filter (·.name = n)).map Field.value

def contains (h : Headers) (n : FieldName) : Bool := h.fields.any (·.name = n)

def append (h : Headers) (f : Field) : Headers := ⟨h.fields ++ [f]⟩

/-- Without the fields of the names. -/
def removeAll (h : Headers) (names : List FieldName) : Headers :=
  ⟨h.fields.filter (!names.contains ·.name)⟩

/-- One field of the name, in place of all that are there. -/
def set (h : Headers) (f : Field) : Headers := (h.removeAll [f.name]).append f

@[simp] theorem values_append (h : Headers) (f : Field) (n : FieldName) :
    (h.append f).values n = h.values n ++ if f.name = n then [f.value] else [] := by
  by_cases hn : f.name = n <;> simp [append, values, hn]

@[simp] theorem values_removeAll (h : Headers) (names : List FieldName) (n : FieldName) :
    (h.removeAll names).values n = if n ∈ names then [] else h.values n := by
  unfold removeAll values
  rw [List.filter_filter]
  split
  · rename_i hn
    rw [List.map_eq_nil_iff, List.filter_eq_nil_iff]
    intro f _
    by_cases hf : f.name = n <;> simp [hf, hn]
  · rename_i hn
    congr 1
    apply List.filter_congr
    intro f _
    by_cases hf : f.name = n <;> simp [hf, hn]

@[simp] theorem values_set (h : Headers) (f : Field) (n : FieldName) :
    (h.set f).values n = if f.name = n then [f.value] else h.values n := by
  by_cases hn : f.name = n
  · simp [set, hn]
  · simp [set, hn, Ne.symm hn]

/-- Fields by name, those of one name in their order. -/
def sorted (h : Headers) : List Field :=
  h.fields.mergeSort fun a b => a.name.text ≤ b.name.text

end Headers

end ScopeGateway.Http
