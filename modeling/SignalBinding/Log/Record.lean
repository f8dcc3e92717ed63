import SignalBinding.Log.Topic

/-!
# Log records

What the parts of the library report while they work, and computations that report as they go.

## Main definitions

- `Record`: a message with its level, its topic and the object that it is about
- `Reporter`: what records come from
- `Journaled`: a result together with the records made on the way, which stay when it fails
-/

namespace SignalBinding

/-- How important a record is, from details up to failures. -/
inductive Level
  | debug
  | info
  | warning
  | error
  | critical
  deriving DecidableEq, Repr, Inhabited

namespace Level

/-- Levels in order, with room between neighbours. -/
def rank : Level → Nat
  | debug => 10
  | info => 20
  | warning => 30
  | error => 40
  | critical => 50

def name : Level → String
  | debug => "DEBUG"
  | info => "INFO"
  | warning => "WARNING"
  | error => "ERROR"
  | critical => "CRITICAL"

def ofName? : String → Option Level
  | "DEBUG" => some debug
  | "INFO" => some info
  | "WARNING" => some warning
  | "ERROR" => some error
  | "CRITICAL" => some critical
  | _ => none

end Level

/-- A message to the user. -/
structure Record where
  level : Level
  topic : String
  /-- The object whose signals the message is about. -/
  owner : Option String := none
  message : String
  deriving DecidableEq, Repr, Inhabited

/-- What records come from: a part of the library, and the object that it is at work on. -/
structure Reporter where
  name? : Option String := none
  owner? : Option String := none
  deriving DecidableEq, Repr, Inhabited

/-- A record of the reporter; it is about the reporter's object unless it names another one. -/
def Reporter.record (r : Reporter) (level : Level) (message : String)
    (owner? : Option String := none) : Record where
  level := level
  topic := topic r.name?
  owner := owner?.or r.owner?
  message := message

/-- A result and the records made on the way to it, which a failure does not take back. -/
structure Journaled (ε α : Type) where
  records : List Record
  result : Except ε α

namespace Journaled

variable {ε α β : Type}

/-- A result without records. -/
def ofExcept (result : Except ε α) : Journaled ε α := ⟨[], result⟩

/-- Makes one record. -/
def tell (r : Record) : Journaled ε Unit := ⟨[r], .ok ()⟩

/-- Goes on with a result if there is one. -/
def andThen (x : Journaled ε α) (f : α → Journaled ε β) : Journaled ε β :=
  match x.result with
  | .ok a => ⟨x.records ++ (f a).records, (f a).result⟩
  | .error e => ⟨x.records, .error e⟩

instance : Monad (Journaled ε) where
  pure a := ⟨[], .ok a⟩
  bind := andThen

instance : MonadLift (Except ε) (Journaled ε) where
  monadLift := ofExcept

@[simp] theorem records_pure (a : α) : (pure a : Journaled ε α).records = [] := rfl
@[simp] theorem result_pure (a : α) : (pure a : Journaled ε α).result = .ok a := rfl
@[simp] theorem records_tell (r : Record) : (tell r : Journaled ε Unit).records = [r] := rfl
@[simp] theorem result_tell (r : Record) : (tell r : Journaled ε Unit).result = .ok () := rfl

theorem bind_of_ok {x : Journaled ε α} {a : α} (f : α → Journaled ε β) (h : x.result = .ok a) :
    x >>= f = ⟨x.records ++ (f a).records, (f a).result⟩ := by
  simp [bind, andThen, h]

theorem bind_of_error {x : Journaled ε α} {e : ε} (f : α → Journaled ε β)
    (h : x.result = .error e) : x >>= f = ⟨x.records, .error e⟩ := by
  simp [bind, andThen, h]

theorem result_bind_of_ok {x : Journaled ε α} {a : α} {f : α → Journaled ε β}
    (h : x.result = .ok a) : (x >>= f).result = (f a).result := by
  rw [bind_of_ok f h]

end Journaled

end SignalBinding
