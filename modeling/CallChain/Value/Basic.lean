/-
# Host values

A receiver or an argument as the host program hands it over: a scalar, or a
handle to an object. Which object a handle denotes is its `serial`, the number
of its birth; where the object lies is its `address`, and an address may be used
again after the object there is gone.

Key definitions: `ObjectRef`, `Value`, `Value.objects`, `Failure`, `Answer`.
-/
import CallChain.Value.Scalar
import CallChain.Value.Shape

namespace CallChain

/-- A handle to an object of the host. -/
structure ObjectRef where
  /-- the number of the object's birth; no two objects share it -/
  serial : Nat
  /-- where the object lies -/
  address : Nat
  typeName : String
deriving DecidableEq, Inhabited

/-- Two handles denote the same object when they point to the same place. -/
def ObjectRef.sameObject (a b : ObjectRef) : Bool :=
  a.address = b.address

/-- A value of the host. -/
inductive Value where
  | scalar (s : Scalar)
  | object (o : ObjectRef)
deriving DecidableEq

namespace Value

instance : Inhabited Value := ⟨.scalar .null⟩

/-- The null value. -/
def null : Value := .scalar .null

/-- A text value. -/
def text (s : String) : Value := .scalar (.str s)

/-- Whether the value is a scalar. -/
def isSimple : Value → Bool
  | .scalar _ => true
  | .object _ => false

/-- The object that a value denotes. -/
def object? : Value → Option ObjectRef
  | .scalar _ => none
  | .object o => some o

/-- The objects among some values: as long as the values are held, these are. -/
def objects (vs : List Value) : List ObjectRef :=
  vs.filterMap object?

@[simp]
theorem mem_objects {vs : List Value} {o : ObjectRef} : o ∈ objects vs ↔ Value.object o ∈ vs := by
  simp only [objects, List.mem_filterMap]
  constructor
  · rintro ⟨v, hv, ho⟩
    cases v with
    | scalar s => cases ho
    | object p => cases ho; exact hv
  · intro h
    exact ⟨_, h, rfl⟩

end Value

/-- Why the structure of an object could not be read. -/
structure Failure where
  kind : String
  message : String
deriving DecidableEq, Inhabited

/-- The failure as one text. -/
def Failure.text (f : Failure) : String :=
  f.kind ++ ": " ++ f.message

/-- What an object answers when it is asked for its structure: a shape, a
failure, or a panic with the text that it carries, if it carries one. -/
inductive Answer where
  | shape (s : Shape Value)
  | failed (f : Failure)
  | panicked (text : Option String)
deriving DecidableEq

/-- The failure that stands for a panic. -/
def Failure.ofPanic (text : Option String) : Failure :=
  ⟨"panic", text.getD "value descriptor panicked"⟩

/-- The failure that an answer comes to, if it gives no shape. -/
def Answer.failure? : Answer → Option Failure
  | .shape _ => none
  | .failed f => some f
  | .panicked text => some (.ofPanic text)

end CallChain
