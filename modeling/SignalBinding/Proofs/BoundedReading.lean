import SignalBinding.TypeExpr.Reading

/-!
# Reading with a bound

The readers of type expressions once more, with a bound on their recursion and with a record of what
they do. The bound goes down by one with each type inside another one and with each round of a loop.
They are told nothing about the lengths of token lists, and they answer with any list of tokens.

## Main definitions

- `Event`: what happens while a type is read
- `Event.Forward`: reading that moves on from token to token
- `Event.depth`: how deep types are nested in each other
- `Run`: a record, and an outcome unless the bound is exhausted
- `typeWithin`: reads a type within a bound
-/

namespace SignalBinding.TypeExpr

/-- The tokens `us` are what is left of `ts` when some of them, at least one, are read. -/
structure Later (us ts : List Token) : Prop where
  suffix : us <:+ ts
  length_lt : us.length < ts.length

/-- What happens while types are read. Places are told by the tokens that are ahead. -/
inductive Event
  /-- A type is read, and while it is read, all that is told in `inside` happens. -/
  | type (start : List Token) (inside : List Event)
  /-- A segment of a path or an argument of a name is read. -/
  | round (start stop : List Token)

namespace Event

/-- Types are told where they start, and rounds where they end. -/
def place : Event → List Token
  | type start _ => start
  | round _ stop => stop

mutual

/-- How many types are nested in each other, the outermost one included. -/
def depth : Event → Nat
  | type _ inside => depths inside + 1
  | round _ _ => 0

def depths : List Event → Nat
  | [] => 0
  | e :: es => max e.depth (depths es)

end

/--
A type moves on if all that happens inside it is later than its start, and each later than the last.
A round moves on if it ends later than it starts.
-/
inductive Forward : Event → Prop
  | type {start : List Token} {inside : List Event} (later : ∀ e ∈ inside, Later e.place start)
      (ordered : inside.Pairwise fun e e' => Later e'.place e.place)
      (inner : ∀ e ∈ inside, e.Forward) : Forward (.type start inside)
  | round {start stop : List Token} (later : Later stop start) : Forward (.round start stop)

end Event

/-- What a reader does. There is no outcome if its bound is exhausted. -/
structure Run (α : Type) where
  outcome : Option (Except Fault α)
  events : List Event := []

namespace Run

variable {α β γ : Type}

def exhausted : Run α := { outcome := none }

def ofExcept (e : Except Fault α) : Run α := { outcome := some e }

instance : Monad Run where
  pure a := ofExcept (.ok a)
  bind x f :=
    match x.outcome with
    | some (.ok a) => { outcome := (f a).outcome, events := x.events ++ (f a).events }
    | some (.error fault) => { outcome := some (.error fault), events := x.events }
    | none => { outcome := none, events := x.events }

/-- Tells of a round that starts at `ts`, if it comes to its end. -/
def round (x : Run (α × List Token)) (ts : List Token) : Run (α × List Token) := do
  let (a, us) ← x
  { outcome := some (.ok (a, us)), events := [.round ts us] }

variable {x : Run α} {f : α → Run β}

theorem bind_of_ok {a : α} (h : x.outcome = some (.ok a)) :
    x >>= f = { outcome := (f a).outcome, events := x.events ++ (f a).events } := by
  simp [Bind.bind, h]

theorem bind_of_error {fault : Fault} (h : x.outcome = some (.error fault)) :
    x >>= f = { outcome := some (.error fault), events := x.events } := by
  simp [Bind.bind, h]

theorem bind_assoc (x : Run α) (f : α → Run β) (g : β → Run γ) :
    x >>= f >>= g = x >>= fun a => f a >>= g := by
  obtain ⟨outcome, events⟩ := x
  rcases outcome with _ | fault | a
  · rfl
  · rfl
  · simp only [Bind.bind]
    split <;> simp [*]

end Run

mutual

/-- Reads a type. -/
def typeWithin (n : Nat) (ts : List Token) : Run (TypeExpr × List Token) :=
  match ts with
  | .amp :: us =>
    match afterAmp us with
    | (mutable, .lbracket :: vs) => do
      let (elem, ws) ← innerWithin n vs
      let rest ← Run.ofExcept (expect .rbracket ws)
      return (.slice mutable elem, rest)
    | (false, .ident "str" :: vs) => return (.str, vs)
    | (mutable, vs) => do
      let (target, rest) ← innerWithin n vs
      return (.reference mutable target, rest)
  | .star :: .ident "const" :: us => do
    let (target, rest) ← innerWithin n us
    return (.pointer false target, rest)
  | .star :: .ident "mut" :: us => do
    let (target, rest) ← innerWithin n us
    return (.pointer true target, rest)
  | .star :: _ => .ofExcept (.error .bareRawPointer)
  | .lbracket :: us => do
    let (elem, vs) ← innerWithin n us
    let ws ← Run.ofExcept (expect .semicolon vs)
    let (length, xs) ← Run.ofExcept (parseLength ws)
    let rest ← Run.ofExcept (expect .rbracket xs)
    return (.array elem length, rest)
  | .lparen :: .rparen :: rest => return (.unit, rest)
  | .lparen :: _ => .ofExcept (.error .tuple)
  | .pathSep :: us => pathWithin n us
  | ts => pathWithin n ts
  termination_by (n, 4)

/-- Reads the segments of a path. -/
def pathWithin (n : Nat) (ts : List Token) : Run (TypeExpr × List Token) := do
  let ((ident, args), us) ← (segmentWithin n ts).round ts
  match accept? .pathSep us, n with
  | some _, 0 => .exhausted
  | some vs, n + 1 => pathWithin n vs
  | none, _ => do
    let t ← Run.ofExcept (resolve ident args)
    return (t, us)
  termination_by (n, 3)

/-- Reads a name and its generic arguments, if there are any. -/
def segmentWithin (n : Nat) (ts : List Token) : Run ((String × List TypeExpr) × List Token) :=
  match ts with
  | [] => .ofExcept (.error .unexpectedEnd)
  | .ident name :: us =>
    if isReserved name then .ofExcept (.error (.reserved name))
    else
      match accept? .less us with
      | some vs => do
        let (args, ws) ← argumentsWithin n vs
        let rest ← Run.ofExcept (expect .greater ws)
        return ((name, args), rest)
      | none => return ((name, []), us)
  | t :: _ => .ofExcept (.error (.notAName t))
  termination_by (n, 2)

/-- Reads one or more types with commas between them. -/
def argumentsWithin (n : Nat) (ts : List Token) : Run (List TypeExpr × List Token) := do
  let (arg, us) ← (innerWithin n ts).round ts
  match accept? .comma us, n with
  | some _, 0 => .exhausted
  | some vs, n + 1 => do
    let (args, rest) ← argumentsWithin n vs
    return (arg :: args, rest)
  | none, _ => return ([arg], us)
  termination_by (n, 1)

/-- Reads a type inside another one, and tells so. -/
def innerWithin (n : Nat) (ts : List Token) : Run (TypeExpr × List Token) :=
  match n with
  | 0 => .exhausted
  | n + 1 =>
    { outcome := (typeWithin n ts).outcome, events := [.type ts (typeWithin n ts).events] }
  termination_by (n, 0)

end

end SignalBinding.TypeExpr
