import SignalBinding.Template.Writer
import SignalBinding.Text.Quoted

/-!
# Templates

Texts with places to fill in. A template is a list of nodes; rendering gives a text, or says that
a name has no value. What is filled in may also change the parameter lists, which counts from there
on.

## Main definitions

- `Datum`: what a name in a template stands for, and its parts
- `Expr`, `Node`, `Template`: templates
- `Scope`: the names that a template may use
- `Template.render`: the text of a template
- `Template.write`: what a template does with a signal
-/

namespace SignalBinding

open TemplateSet (Subject)

/-- One of the three parameter lists. -/
inductive ParameterList
  | signalTypes
  | closureTypes
  | forwardedValues
  deriving DecidableEq, Repr, Inhabited

/-- A change of a list of texts. -/
inductive Change
  | append (s : String)
  | clear
  | reverse
  deriving DecidableEq, Repr, Inhabited

def Change.apply : Change → List String → List String
  | append s, items => items ++ [s]
  | clear, _ => []
  | reverse, items => items.reverse

namespace Parameters

def items (p : Parameters) : ParameterList → List String
  | .signalTypes => p.signalTypes
  | .closureTypes => p.closureTypes
  | .forwardedValues => p.forwardedValues

def change (p : Parameters) (c : Change) : ParameterList → Parameters
  | .signalTypes => { p with signalTypes := c.apply p.signalTypes }
  | .closureTypes => { p with closureTypes := c.apply p.closureTypes }
  | .forwardedValues => { p with forwardedValues := c.apply p.forwardedValues }

end Parameters

/-- What a name or an expression in a template stands for. -/
inductive Datum
  | nothing
  | text (s : String)
  | flag (b : Bool)
  | number (n : Nat)
  /-- The parameter lists, as they are where they are looked at. -/
  | parameters
  /-- One of the parameter lists, as it is where it is looked at. -/
  | list (l : ParameterList)
  | selfValue (v : SelfValue)
  /-- The round `index`, counted from zero, of a repetition of `count` rounds. -/
  | round (index count : Nat)
  deriving DecidableEq, Repr, Inhabited

namespace Datum

/-! Data are looked at while the parameter lists are `p`. -/

/-- The part `name` of a datum. -/
def part? (p : Parameters) : Datum → String → Option Datum
  | parameters, "signal_types" => some (list .signalTypes)
  | parameters, "closure_types" => some (list .closureTypes)
  | parameters, "forwarded_values" => some (list .forwardedValues)
  | parameters, "types_signal" => some (text p.signalText)
  | parameters, "types_closure" => some (text p.closureText)
  | parameters, "values_closure" => some (text p.valuesText)
  | selfValue v, "ty" => some (text v.type)
  | selfValue v, "ident" => some (text v.ident)
  | round i n, "last" => some (flag (i + 1 == n))
  | round i _, "first" => some (flag (i == 0))
  | round i _, "index" => some (number (i + 1))
  | round i _, "index0" => some (number i)
  | round i n, "revindex" => some (number (n - i))
  | round i n, "revindex0" => some (number (n - i - 1))
  | round _ n, "length" => some (number n)
  | round _ _, "depth" => some (number 1)
  | round _ _, "depth0" => some (number 0)
  | _, _ => none

/-- The item `i` of a datum, counted from zero. -/
def item? (p : Parameters) : Datum → Nat → Option Datum
  | text s, i => s.toList[i]?.map fun c => text c.toString
  | list l, i => (p.items l)[i]?.map text
  | _, _ => none

/-- Whether a condition on the datum holds: nothing, empty texts and lists, zero and `false` do
not. -/
def holds (p : Parameters) : Datum → Bool
  | nothing => false
  | text s => s != ""
  | list l => !(p.items l).isEmpty
  | flag b => b
  | number n => n != 0
  | parameters | selfValue _ | round _ _ => true

/-- A list of texts between brackets, each text in quotes. -/
def quotedList (items : List String) : String :=
  "[" ++ ", ".intercalate (items.map Text.quote) ++ "]"

/-- The datum as a text. -/
def print (p : Parameters) : Datum → String
  | nothing => "None"
  | text s => s
  | list l => quotedList (p.items l)
  | flag true => "True"
  | flag false => "False"
  | number n => toString n
  | parameters =>
    "Parameters(signal_types=" ++ quotedList p.signalTypes ++
      ", closure_types=" ++ quotedList p.closureTypes ++
      ", forwarded_values=" ++ quotedList p.forwardedValues ++ ")"
  | selfValue (.member type) => "MemberSelf(ty=" ++ Text.quote type ++ ")"
  | selfValue (.foreign type) => "ForeignSelf(ty=" ++ Text.quote type ++ ")"
  | round i n => "<LoopContext " ++ toString (i + 1) ++ "/" ++ toString n ++ ">"

/-- The items that a repetition over the datum runs through. -/
def items? (p : Parameters) : Datum → Option (List Datum)
  | text s => some (s.toList.map fun c => text c.toString)
  | list l => some ((p.items l).map text)
  | _ => none

end Datum

/-- The names that a template may use, the innermost first. -/
abbrev Scope : Type := List (String × Datum)

/-- An expression in a template. -/
inductive Expr
  | literal (d : Datum)
  | name (ident : String)
  | part (e : Expr) (ident : String)
  | item (e : Expr) (i : Nat)
  /-- Changes the list that the operand stands for, and stands for nothing itself. -/
  | change (e : Expr) (c : Change)
  | not (e : Expr)
  /-- The first operand if it does not hold, else the second. -/
  | and (e f : Expr)
  /-- The first operand if it holds, else the second. -/
  | or (e f : Expr)
  deriving DecidableEq, Repr, Inhabited

namespace Expr

/-- The datum that an expression stands for, and the parameter lists behind it; none if some name in
it has no value. -/
def eval? (scope : Scope) : Expr → Parameters → Option (Datum × Parameters)
  | literal d, p => some (d, p)
  | name ident, p => (scope.lookup ident).map (·, p)
  | part e ident, p => do
    let (d, p) ← e.eval? scope p
    return (← d.part? p ident, p)
  | item e i, p => do
    let (d, p) ← e.eval? scope p
    return (← d.item? p i, p)
  | change e c, p => do
    match ← e.eval? scope p with
    | (.list l, p) => return (.nothing, p.change c l)
    | _ => none
  | not e, p => do
    let (d, p) ← e.eval? scope p
    return (.flag !d.holds p, p)
  | and e f, p => do
    let (d, p) ← e.eval? scope p
    if d.holds p then f.eval? scope p else return (d, p)
  | or e f, p => do
    let (d, p) ← e.eval? scope p
    if d.holds p then return (d, p) else f.eval? scope p

/-- Whether no list is changed in an expression. -/
def isPure : Expr → Bool
  | literal _ | name _ => true
  | change _ _ => false
  | part e _ | item e _ | not e => e.isPure
  | and e f | or e f => e.isPure && f.isPure

end Expr

/-- A piece of a template. -/
inductive Node
  | text (s : String)
  | output (e : Expr)
  /-- One of two parts, by a condition. -/
  | choice (condition : Expr) (yes no : List Node)
  /-- A part once for each item, which `ident` stands for, or another part if there is no item. -/
  | repetition (ident : String) (items : Expr) (body otherwise : List Node)
  deriving Repr, Inhabited

/-- A text with places to fill in. -/
abbrev Template : Type := List Node

namespace Template

mutual

/-- Whether no list is changed in a node. -/
def isPureNode : Node → Bool
  | .text _ => true
  | .output e => e.isPure
  | .choice condition yes no => condition.isPure && isPure yes && isPure no
  | .repetition _ items body otherwise => items.isPure && isPure body && isPure otherwise

def isPure : List Node → Bool
  | [] => true
  | node :: rest => isPureNode node && isPure rest

end

/-- Writing a text while the parameter lists may change. -/
abbrev Writing : Type → Type := StateT Parameters (Except TemplateError)

/-- The value of an expression that needs one. -/
def value (scope : Scope) (e : Expr) : Writing Datum := fun p =>
  match e.eval? scope p with
  | some r => .ok r
  | none => .error .undefined

/-- The texts that `body` gives for each item, one after the other. -/
def renderRounds (body : Nat → Datum → Writing String) : Nat → List Datum → Writing String
  | _, [] => return ""
  | i, d :: ds => do
    let s ← body i d
    return s ++ (← renderRounds body (i + 1) ds)

mutual

def renderNode (scope : Scope) : Node → Writing String
  | .text s => return s
  | .output e => do
    let d ← value scope e
    return d.print (← get)
  | .choice condition yes no => do
    let d ← value scope condition
    if d.holds (← get) then render scope yes else render scope no
  | .repetition ident items body otherwise => do
    let d ← value scope items
    match d.items? (← get) with
    | none => throw .notRepeatable
    | some [] => render scope otherwise
    | some ds =>
      renderRounds
        (fun i d => render ((ident, d) :: ("loop", .round i ds.length) :: scope) body) 0 ds

/-- The text of a template; the first fault from the left decides if there is one. -/
def render (scope : Scope) : List Node → Writing String
  | [] => return ""
  | node :: rest => do
    let s ← renderNode scope node
    return s ++ (← render scope rest)

end

/-- The names that the templates of a signal may use. -/
def scopeOf (s : Subject) : Scope :=
  [("qobject_ident", .text s.objectIdent), ("signal_ident", .text s.name.cpp),
    ("connect_ident", .text s.name.connect.cpp), ("parameters", .parameters),
    ("self_value", .selfValue s.self)]

/-- What a template does with a signal. -/
def write (t : Template) : Writer := fun s =>
  render (scopeOf s) t s.parameters

/-- The text of a node that is a text, or that puts out a name or a part of one. -/
def fill (scope : Scope) (p : Parameters) : Node → Option String
  | .text s => some s
  | .output (.name ident) => (scope.lookup ident).map (·.print p)
  | .output (.part (.name ident) part) => do
    return (← (← scope.lookup ident).part? p part).print p
  | _ => none

/-- Texts one after the other. -/
def concat (texts : List String) : String :=
  texts.foldr (· ++ ·) ""

theorem concat_singleton (s : String) : concat [s] = s :=
  String.append_empty

theorem concat_cons_cons (s t : String) (texts : List String) :
    concat (s :: t :: texts) = s ++ concat (t :: texts) :=
  rfl

variable {scope : Scope} {p : Parameters}

/-- An output that changes nothing. -/
theorem renderNode_of_eval {e : Expr} {d : Datum} (h : e.eval? scope p = some (d, p)) :
    renderNode scope (.output e) p = .ok (d.print p, p) := by
  have hvalue : value scope e p = .ok (d, p) := by rw [value, h]
  rw [renderNode]
  change (value scope e p >>= _) = _
  rw [hvalue]
  rfl

theorem renderNode_of_fill {node : Node} {s : String} (h : fill scope p node = some s) :
    renderNode scope node p = .ok (s, p) := by
  unfold fill at h
  split at h
  next =>
    obtain rfl := Option.some.inj h
    rw [renderNode]
    rfl
  next ident =>
    obtain ⟨d, hd, rfl⟩ := Option.map_eq_some_iff.1 h
    exact renderNode_of_eval (by rw [Expr.eval?, hd]; rfl)
  next ident part =>
    obtain ⟨d, hd, h⟩ := Option.bind_eq_some_iff.1 h
    obtain ⟨d', hd', h⟩ := Option.bind_eq_some_iff.1 h
    obtain rfl := Option.some.inj h
    refine renderNode_of_eval ?_
    rw [Expr.eval?, Expr.eval?, hd]
    change (d.part? p part >>= _) = _
    rw [hd']
    rfl
  next => cases h

/-- A template of texts and outputs gives their texts one after the other, and leaves the parameter
lists as they are. -/
theorem render_of_fill {nodes : List Node} {texts : List String}
    (h : nodes.map (fill scope p) = texts.map some) :
    render scope nodes p = .ok (concat texts, p) := by
  induction nodes generalizing texts with
  | nil =>
    obtain rfl : texts = [] := by simpa using h.symm
    rw [render]
    rfl
  | cons node nodes ih =>
    cases texts with
    | nil => cases h
    | cons s texts =>
      obtain ⟨hnode, hnodes⟩ := List.cons.inj h
      rw [render]
      change (renderNode scope node p >>= _) = _
      rw [renderNode_of_fill hnode]
      change (render scope nodes p >>= _) = _
      rw [ih hnodes]
      rfl

end Template

end SignalBinding
