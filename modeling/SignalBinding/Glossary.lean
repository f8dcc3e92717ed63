/-!
# Glossaries

A glossary gives texts to names. It keeps its names in the order of their first entry, each name
once; a later entry for a name changes the text and not the place.

## Main definitions

- `Glossary.get?`: the text of a name
- `Glossary.insert`, `Glossary.ofList`: entries one after the other
- `Glossary.merge`: one glossary laid over another
-/

namespace SignalBinding

/-- Texts for names, in the order in which the names came. -/
structure Glossary where
  entries : List (String × String)
  nodup : (entries.map Prod.fst).Nodup

namespace Glossary

/-- The entries after `name` is given `text`. -/
def put (name text : String) : List (String × String) → List (String × String)
  | [] => [(name, text)]
  | (n, t) :: rest => if n = name then (name, text) :: rest else (n, t) :: put name text rest

theorem mem_map_fst_put {name text n : String} {es : List (String × String)} :
    n ∈ (put name text es).map Prod.fst ↔ n = name ∨ n ∈ es.map Prod.fst := by
  induction es with
  | nil => simp [put]
  | cons e rest ih =>
    obtain ⟨m, t⟩ := e
    by_cases h : m = name
    · subst h; simp [put]
    · rw [put, if_neg h, List.map_cons, List.mem_cons, ih, List.map_cons, List.mem_cons]
      constructor
      · rintro (h | h | h) <;> simp [h]
      · rintro (h | h | h) <;> simp [h]

theorem nodup_put {name text : String} {es : List (String × String)}
    (h : (es.map Prod.fst).Nodup) : ((put name text es).map Prod.fst).Nodup := by
  induction es with
  | nil => simp [put]
  | cons e rest ih =>
    obtain ⟨m, t⟩ := e
    rw [List.map_cons, List.nodup_cons] at h
    by_cases hm : m = name
    · subst hm
      simpa [put] using h
    · rw [put, if_neg hm, List.map_cons, List.nodup_cons]
      refine ⟨fun hmem => ?_, ih h.2⟩
      rcases mem_map_fst_put.1 hmem with rfl | hmem
      · exact hm rfl
      · exact h.1 hmem

def empty : Glossary := ⟨[], List.nodup_nil⟩

instance : EmptyCollection Glossary := ⟨empty⟩
instance : Inhabited Glossary := ⟨empty⟩

/-- The text of `name`. -/
def get? (g : Glossary) (name : String) : Option String :=
  g.entries.lookup name

/-- Gives `name` the text `text`. -/
def insert (g : Glossary) (name text : String) : Glossary :=
  ⟨put name text g.entries, nodup_put g.nodup⟩

/-- Lays the entries `es` over `g`, one after the other. -/
def insertMany (g : Glossary) (es : List (String × String)) : Glossary :=
  es.foldl (fun g e => g.insert e.1 e.2) g

/-- The glossary of a list of entries, in which the last entry for a name counts. -/
def ofList (es : List (String × String)) : Glossary :=
  empty.insertMany es

/-- Lays `h` over `g`: a name of both has the text of `h`. -/
def merge (g h : Glossary) : Glossary :=
  g.insertMany h.entries

theorem lookup_put (name text n : String) (es : List (String × String)) :
    (put name text es).lookup n = if n = name then some text else es.lookup n := by
  induction es with
  | nil =>
    by_cases h : n = name
    · simp [put, h]
    · have hb : (n == name) = false := by simpa using h
      simp [put, List.lookup_cons, hb, h]
  | cons e rest ih =>
    obtain ⟨m, t⟩ := e
    by_cases hm : m = name
    · subst hm
      by_cases h : n = m
      · simp [put, h]
      · have hb : (n == m) = false := by simpa using h
        simp [put, List.lookup_cons, hb, h]
    · by_cases h : n = m
      · subst h; simp [put, hm]
      · have hb : (n == m) = false := by simpa using h
        rw [put, if_neg hm, List.lookup_cons, hb, List.lookup_cons, hb]
        exact ih

@[simp] theorem get?_empty (name : String) : empty.get? name = none := rfl

theorem get?_insert (g : Glossary) (name text n : String) :
    (g.insert name text).get? n = if n = name then some text else g.get? n :=
  lookup_put name text n g.entries

end Glossary

end SignalBinding
