/-!
# Log records

A computation that reports what it does returns its value together with its records, oldest first.
-/

namespace Caret

/-- How important a record is, the most important first. -/
inductive Level
  | error
  | warn
  | info
  | debug
  | trace
deriving DecidableEq

namespace Level

/-- The name that log lines show. -/
def name : Level → String
  | error => "ERROR"
  | warn => "WARN"
  | info => "INFO"
  | debug => "DEBUG"
  | trace => "TRACE"

/-- The rank of a level: a larger one is less important. -/
def rank : Level → Nat
  | error => 1
  | warn => 2
  | info => 3
  | debug => 4
  | trace => 5

end Level

/-- One log record: a fixed message, and the values that belong to it by key. -/
structure Record where
  level : Level
  message : String
  fields : List (String × String)
deriving DecidableEq

/-- A value and the records written while it was computed. -/
structure Logged (α : Type) where
  value : α
  records : List Record

namespace Logged

variable {α β : Type}

instance : Monad Logged where
  pure a := ⟨a, []⟩
  bind x f := ⟨(f x.value).value, x.records ++ (f x.value).records⟩

/-- Writes one record. -/
def write (r : Record) : Logged Unit := ⟨(), [r]⟩

/-- Writes one record, given by its parts. -/
def note (level : Level) (message : String) (fields : List (String × String)) : Logged Unit :=
  write ⟨level, message, fields⟩

@[simp] theorem value_pure (a : α) : (pure a : Logged α).value = a := rfl
@[simp] theorem records_pure (a : α) : (pure a : Logged α).records = [] := rfl

@[simp] theorem value_bind (x : Logged α) (f : α → Logged β) :
    (x >>= f).value = (f x.value).value := rfl

@[simp] theorem records_bind (x : Logged α) (f : α → Logged β) :
    (x >>= f).records = x.records ++ (f x.value).records := rfl

@[simp] theorem records_write (r : Record) : (write r).records = [r] := rfl

@[simp] theorem records_note (level : Level) (message : String) (fields : List (String × String)) :
    (note level message fields).records = [⟨level, message, fields⟩] := rfl

end Logged

end Caret
