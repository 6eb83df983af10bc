/-
Drafting: work that collects imports and notices.

What was collected before a failure is kept.
-/
import DataContract.Java.TypeTable
import DataContract.Notice

namespace DataContract.Java

/-- The outcome of drafting, which fails for the causes `ε`, with what was collected on the way. -/
structure Draft (ε α : Type) where
  outcome : Except ε α
  imports : List String
  notices : List Notice

namespace Draft

variable {ε : Type}

/-- A draft that collects nothing. -/
protected def pure {α : Type} (a : α) : Draft ε α := ⟨.ok a, [], []⟩

/-- One draft after another. -/
protected def bind {α β : Type} (x : Draft ε α) (f : α → Draft ε β) : Draft ε β :=
  match x.outcome with
  | .ok a => ⟨(f a).outcome, x.imports ++ (f a).imports, x.notices ++ (f a).notices⟩
  | .error e => ⟨.error e, x.imports, x.notices⟩

instance : Monad (Draft ε) where
  pure := Draft.pure
  bind := Draft.bind

/-- Import names. -/
def require (names : List String) : Draft ε Unit := ⟨.ok (), names, []⟩

/-- Give a notice. -/
def notify (n : Notice) : Draft ε Unit := ⟨.ok (), [], [n]⟩

/-- Go on with a result, or fail. -/
def ofExcept {α : Type} (result : Except ε α) : Draft ε α := ⟨result, [], []⟩

/-- The draft with another cause for its failure. -/
def mapError {ε' α : Type} (f : ε → ε') (x : Draft ε α) : Draft ε' α :=
  ⟨x.outcome.mapError f, x.imports, x.notices⟩

/-- The Java type of a reference, with its import. -/
def typeOf (t : TypeTable) (r : TypeRef) (member : String) : Draft UnsupportedType String :=
  match t.mapRef r member with
  | .ok mapped => ⟨.ok mapped.name, mapped.requiredImport.toList, []⟩
  | .error e => ⟨.error e, [], []⟩

end Draft

end DataContract.Java
