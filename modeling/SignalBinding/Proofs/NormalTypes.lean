import SignalBinding.Proofs.TypeMeanings

/-!
# Normal forms of written types

A type may be written in many ways. Lifetimes, a path to a name, what stands in the segments of that
path, and `Pin` around a type say nothing about the C++ type, so the normal form of a tree goes
without them. Trees with a meaning have the same normal form if and only if they mean the same.

## Main definitions

- `Written.normal`: the normal form of a tree
- `TypeExpr.written`: the tree in normal form that means a type

## Main statements

- `Written.normal_eq_written`: normal forms of trees with a meaning
- `Written.normal_eq_iff`: trees with the same normal form
-/

namespace SignalBinding.TypeExpr

/-- A name with its arguments; the argument alone if the name is `Pin`. -/
def unpinned (name : String) (args : List Written) : Written :=
  match args with
  | [a] => if name = "Pin" then a else .path false (.last name [a])
  | _ => .path false (.last name args)

mutual

/--
The tree without lifetimes, without `Pin`, and with nothing left of a path but its last segment.
All else stays: what refers to what and if it may change it, names, arguments, and lengths digit by
digit.
-/
def Written.normal : Written → Written
  | .unit => .unit
  | .str _ => .str none
  | .slice _ m elem => .slice none m elem.normal
  | .reference _ m target => .reference none m target.normal
  | .pointer m target => .pointer m target.normal
  | .array elem length => .array elem.normal length
  | .path _ segments => segments.normal

def Segments.normal : Segments → Written
  | .last name args => unpinned name (normals args)
  | .next _ _ rest => rest.normal

def normals : List Written → List Written
  | [] => []
  | a :: as => a.normal :: normals as

end

theorem Segments.normal_eq (p : Segments) : p.normal = unpinned p.final.1 (normals p.final.2) := by
  cases p with
  | last name args => rfl
  | next name args rest => exact rest.normal_eq

/-! ### The tree of a type -/

/-- The type as it is written in the least words. -/
def written : TypeExpr → Written
  | unit => .unit
  | str => .str none
  | builtin b => .path false (.last b.ident [])
  | named ident => .path false (.last ident [])
  | wrapped w arg => .path false (.last w.ident [arg.written])
  | slice m elem => .slice none m elem.written
  | reference m target => .reference none m target.written
  | pointer m target => .pointer m target.written
  | array elem length => .array elem.written length

/-- The normal form of a tree is settled by what the tree means. -/
theorem compositional_normal : Compositional fun w t => w.normal = t.written where
  unit := rfl
  str _ := rfl
  slice l m _ ih := by rw [Written.normal, ih, written]
  reference l m _ ih := by rw [Written.normal, ih, written]
  pointer m _ ih := by rw [Written.normal, ih, written]
  array length _ ih := by rw [Written.normal, ih, written]
  path {p name as args t} root hp ih h := by
    rw [Written.normal, p.normal_eq, hp]
    cases h with
    | pinned _ =>
      obtain ⟨a, _, ha, hnil, rfl⟩ := List.forall₂_cons_right_iff.1 ih
      obtain rfl := List.forall₂_nil_right_iff.1 hnil
      exact ha
    | wrapper arg hw =>
      obtain ⟨a, _, ha, hnil, rfl⟩ := List.forall₂_cons_right_iff.1 ih
      obtain rfl := List.forall₂_nil_right_iff.1 hnil
      have hpin : name ≠ "Pin" := by rintro rfl; cases hw
      simp [unpinned, normals, hpin, ha, written, Wrapper.ident_eq_of_ofIdent? hw]
    | builtin hb =>
      obtain rfl := List.forall₂_nil_right_iff.1 ih
      simp [unpinned, normals, written, Builtin.ident_eq_of_ofIdent? hb]
    | user _ =>
      obtain rfl := List.forall₂_nil_right_iff.1 ih
      rfl

theorem Written.normal_eq_written {w : Written} {t : TypeExpr} (h : w.meaning? = some t) :
    w.normal = t.written :=
  compositional_normal.of_meaning? h

theorem resolve_of_isUserName {name : String} (h : IsUserName name) :
    resolve name [] = .ok (.named name) := by
  simp [resolve, h.pin, h.str, h.wrapper, h.builtin]

/-- The tree of a type means the type, if the names in it may be the user's. -/
theorem meaning?_written {t : TypeExpr} (h : ∀ i, .ident i ∈ t.words → IsUserName i) :
    t.written.meaning? = some t := by
  induction t with
  | unit => rfl
  | str => rfl
  | builtin b => cases b <;> rfl
  | named ident =>
    have hname := h ident (by simp [words])
    simp [written, Written.meaning?, Segments.meaning?, meanings?, resolve_of_isUserName hname,
      Except.toOption]
  | wrapped w arg ih =>
    have hresolve : resolve w.ident [arg] = .ok (.wrapped w arg) := by cases w <;> rfl
    simp [written, Written.meaning?, Segments.meaning?, meanings?, ih h, hresolve,
      Except.toOption]
  | slice m elem ih => simp [written, Written.meaning?, ih h]
  | reference m target ih => simp [written, Written.meaning?, ih h]
  | pointer m target ih => simp [written, Written.meaning?, ih h]
  | array elem length ih =>
    simp [written, Written.meaning?, ih fun i hi => h i (List.mem_cons_of_mem _ hi)]

/-- A tree and its normal form mean the same. -/
theorem Written.meaning?_normal {w : Written} {t : TypeExpr} (h : w.meaning? = some t) :
    w.normal.meaning? = some t := by
  rw [normal_eq_written h]
  exact meaning?_written (compositional_isUserName.of_meaning? h)

/-- Trees have the same normal form if and only if they mean the same. -/
theorem Written.normal_eq_iff {w w' : Written} {t t' : TypeExpr} (h : w.meaning? = some t)
    (h' : w'.meaning? = some t') : w.normal = w'.normal ↔ t = t' := by
  constructor
  · intro hnormal
    have hmeaning := meaning?_normal h
    rw [hnormal, meaning?_normal h'] at hmeaning
    exact (Option.some.inj hmeaning).symm
  · rintro rfl
    rw [normal_eq_written h, normal_eq_written h']

end SignalBinding.TypeExpr
