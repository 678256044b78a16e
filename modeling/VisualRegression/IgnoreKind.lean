/-!
# Kinds of ignored regions

Regions of a page are left out of a check either because an element is there or because of their
place. A check handles the two kinds in a fixed order and keeps, for each kind, an entry that may be
absent.
-/

namespace VisualRegression

/-- Why a region is ignored. -/
inductive IgnoreKind where
  /-- An element is there. -/
  | element
  /-- Of its place on the page. -/
  | area
deriving DecidableEq, Inhabited, Repr

namespace IgnoreKind

/-- Both kinds, in the order in which they are handled. -/
def ordered : List IgnoreKind := [element, area]

/-- The name of the kind. -/
def name : IgnoreKind → String
  | element => "ELEMENT"
  | area => "AREA"

/-- The kind with a name. -/
def ofName? (s : String) : Option IgnoreKind := ordered.find? (fun k => k.name == s)

theorem mem_ordered (k : IgnoreKind) : k ∈ ordered := by cases k <;> simp [ordered]

theorem ofName?_name (k : IgnoreKind) : ofName? k.name = some k := by cases k <;> rfl

end IgnoreKind

/-- An optional entry for each kind of ignored region. -/
structure PerKind (α : Type) where
  element : Option α
  area : Option α
deriving DecidableEq, Inhabited

namespace PerKind

variable {α β : Type}

instance : EmptyCollection (PerKind α) := ⟨⟨none, none⟩⟩

/-- The entry for a kind. -/
def get? (p : PerKind α) : IgnoreKind → Option α
  | .element => p.element
  | .area => p.area

/-- The entries with another one for a kind. -/
def set (p : PerKind α) : IgnoreKind → Option α → PerKind α
  | .element, a => { p with element := a }
  | .area, a => { p with area := a }

/-- The entries present, in the order of their kinds. -/
def toList (p : PerKind α) : List (IgnoreKind × α) :=
  IgnoreKind.ordered.filterMap fun k => (p.get? k).map fun a => (k, a)

/-- The entries that pass a test. -/
def filter (p : PerKind α) (keep : α → Bool) : PerKind α :=
  ⟨p.element.filter keep, p.area.filter keep⟩

@[simp] theorem get?_empty (k : IgnoreKind) : (∅ : PerKind α).get? k = none := by cases k <;> rfl

@[simp] theorem get?_set_self (p : PerKind α) (k : IgnoreKind) (a : Option α) :
    (p.set k a).get? k = a := by
  cases k <;> rfl

theorem get?_set_of_ne (p : PerKind α) {k k' : IgnoreKind} (a : Option α) (h : k' ≠ k) :
    (p.set k a).get? k' = p.get? k' := by
  cases k <;> cases k' <;> first | rfl | exact absurd rfl h

@[simp] theorem get?_filter (p : PerKind α) (keep : α → Bool) (k : IgnoreKind) :
    (p.filter keep).get? k = (p.get? k).filter keep := by
  cases k <;> rfl

/-- Two families with the same entry for each kind are the same. -/
theorem ext_get? {p q : PerKind α} (h : ∀ k, p.get? k = q.get? k) : p = q := by
  cases p; cases q
  simpa [get?] using And.intro (h .element) (h .area)

end PerKind

end VisualRegression
