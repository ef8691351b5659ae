import RxSteering.Text.Layout
import RxSteering.Text.Quoted

/-!
Values that can be shown to a developer. Numbers are shown in decimal, strings quoted.
-/
namespace RxSteering.Text

class Inspect (α : Type) where
  layout : α → Layout

def inspect {α : Type} [Inspect α] (value : α) : String := (Inspect.layout value).oneLine

def inspectIndented {α : Type} [Inspect α] (value : α) : String :=
  (Inspect.layout value).indented 0

instance : Inspect Nat := ⟨fun n => .word (toString n)⟩

instance : Inspect UInt32 := ⟨fun n => .word (toString n.toNat)⟩

instance : Inspect UInt64 := ⟨fun n => .word (toString n.toNat)⟩

instance : Inspect String := ⟨fun s => .word (quoted s)⟩

instance {α : Type} [Inspect α] : Inspect (Option α) where
  layout
    | none => .word "None"
    | some value => .tuple "Some" [Inspect.layout value]

instance {α β : Type} [Inspect α] [Inspect β] : Inspect (α × β) where
  layout pair := .tuple "" [Inspect.layout pair.1, Inspect.layout pair.2]

instance {α : Type} [Inspect α] : Inspect (List α) where
  layout items := .list (items.map Inspect.layout)

end RxSteering.Text
