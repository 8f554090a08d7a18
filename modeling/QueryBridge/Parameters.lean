import QueryBridge.Text.Basic

/-!
Parameter names in the order of their first appearance, each once.
-/

namespace QueryBridge

structure Parameters where
  names : List Text
  deriving DecidableEq, Repr

namespace Parameters

def empty : Parameters :=
  ⟨[]⟩

def contains (ps : Parameters) (name : Text) : Bool :=
  ps.names.contains name

/-- Records a name behind the others; a known one changes nothing. -/
def insert (ps : Parameters) (name : Text) : Parameters :=
  if ps.contains name then ps else ⟨ps.names ++ [name]⟩

def insertAll (ps : Parameters) (names : List Text) : Parameters :=
  names.foldl insert ps

def size (ps : Parameters) : Nat :=
  ps.names.length

def isEmpty (ps : Parameters) : Bool :=
  ps.size == 0

@[simp] theorem contains_iff {ps : Parameters} {name : Text} :
    ps.contains name = true ↔ name ∈ ps.names := by
  simp [contains]

theorem nodup_insert {ps : Parameters} (h : ps.names.Nodup) (name : Text) :
    (ps.insert name).names.Nodup := by
  by_cases hn : name ∈ ps.names
  · simpa [insert, hn] using h
  · have hd : ∀ a ∈ ps.names, ¬a = name := fun a ha e => hn (e ▸ ha)
    simpa [insert, hn, List.nodup_append, h] using hd

end Parameters

end QueryBridge
