import SignalBinding.CommandLine.Arguments

/-!
# The verbose flag

Reading a command line never looks at whether users have asked for details. So what a command line
asks for is not changed by a verbose flag in front of it, apart from the details.

## Main definitions

- `Request.loud`: the same request, with details

## Main statements

- `CommandLine.ofArguments_verbose`: a verbose flag in front of a command line
-/

namespace SignalBinding.CommandLine

/-- The same progress, with details. -/
def Progress.loud (p : Progress) : Progress :=
  { p with verbose := true }

/-- The same arguments, with details. -/
def Generate.loud (g : Generate) : Generate :=
  { g with verbose := true }

/-- The same request, with details. -/
def Request.loud : Request → Request
  | .generate g => .generate g.loud
  | r => r

variable {arguments : List String} {g : Generate}

theorem doFlags_loud (p : Progress) (flags : List Flag) :
    doFlags p.loud flags = (doFlags p flags).map Progress.loud := by
  induction flags generalizing p with
  | nil => rfl
  | cons flag rest ih =>
    cases flag with
    | help => rfl
    | verbose | config | header | source => exact ih { p with verbose := true }

theorem setValue_loud (p : Progress) (flag : Flag) (value? : Option String) :
    setValue p.loud flag value? = (setValue p flag value?).loud := by
  cases flag <;> rfl

theorem doOption_loud (known : Vocabulary) (p : Progress) (flag : Flag) (long : Bool)
    (attached? : Option String) (rest : List Word) :
    doOption known p.loud flag long attached? rest =
      (doOption known p flag long attached? rest).map fun (p, usesNext) => (p.loud, usesNext) := by
  have hflags (flags : List Flag) :
      (doFlags p.loud flags).map (·, false) =
        ((doFlags p flags).map (·, false)).map fun (p, usesNext) => (p.loud, usesNext) := by
    rw [doFlags_loud]
    cases doFlags p flags <;> rfl
  unfold doOption
  split
  · simp only [setValue_loud]
    split <;> rfl
  · split
    · exact hflags [flag]
    · split
      · rfl
      · split
        · rfl
        · exact hflags _

/-- What reading an option leaves to be read. -/
theorem readGenerate_option (p : Progress) (flag : Flag) (long : Bool) (attached? : Option String)
    (rest : List Word) :
    readGenerate p (.option flag long attached? :: rest) =
      match doOption generateFlags p flag long attached? rest with
      | .error e => .error e
      | .ok (p, usesNext) => readGenerate p (if usesNext then rest.tail else rest) := by
  rw [readGenerate.eq_def]
  dsimp only
  rcases doOption generateFlags p flag long attached? rest with e | ⟨p', _ | _⟩
  · rfl
  · rfl
  · cases rest <;> rfl

theorem readGenerate_loud (p : Progress) (words : List Word) :
    readGenerate p.loud words = (readGenerate p words).map Progress.loud := by
  induction p, words using readGenerate.induct with
  | case1 p => rfl
  | case2 p s rest ih =>
    rw [readGenerate, readGenerate]
    exact ih
  | case3 p flag long attached? rest e h =>
    rw [readGenerate_option, readGenerate_option, doOption_loud, h]
    rfl
  | case4 p flag long attached? p' next rest h ih =>
    rw [readGenerate_option, readGenerate_option, doOption_loud, h]
    exact ih
  | case5 p flag long attached? p' usesNext rest hrest h ih =>
    rw [readGenerate_option, readGenerate_option, doOption_loud, h]
    cases usesNext with
    | false => exact ih
    | true =>
      cases rest with
      | nil => exact ih
      | cons next rest => exact (hrest next rest rfl rfl).elim
  | case6 p s rest hbridge ih | case8 p s rest hbridge ih =>
    rw [readGenerate, readGenerate, if_pos hbridge]
    exact (if_pos hbridge).trans ih
  | case7 p s rest hbridge ih | case9 p s rest hbridge ih =>
    rw [readGenerate, readGenerate, if_neg hbridge]
    exact (if_neg hbridge).trans ih
  | case10 p s rest hrest hbridge ih =>
    rw [readGenerate, readGenerate, if_pos hbridge]
    exact (if_pos hbridge).trans ih
    all_goals exact hrest
  | case11 p s rest hrest hbridge ih =>
    rw [readGenerate, readGenerate, if_neg hbridge]
    exact (if_neg hbridge).trans ih
    all_goals exact hrest
  | case12 p rest hrest ih =>
    rw [readGenerate, readGenerate]
    exact ih
    all_goals exact hrest

theorem requestOf_loud (before : Progress) (arguments : List String) :
    requestOf before.loud arguments = (requestOf before arguments).loud := by
  rw [requestOf, requestOf]
  split
  · rfl
  next words _ =>
    rw [readGenerate_loud]
    rcases readGenerate before words with (_ | _) | p
    · rfl
    · rfl
    · dsimp only [Except.map, Progress.loud]
      split <;> rfl

theorem readGlobal_loud (p : Progress) (words : List (Word × String)) :
    readGlobal p.loud words = (readGlobal p words).loud := by
  induction p, words using readGlobal.induct with
  | case1 p => rfl
  | case2 p s argument rest ih => exact ih
  | case3 p flag long attached? argument rest h
  | case4 p flag long attached? argument rest h =>
    rw [readGlobal, readGlobal, doOption_loud, h]
    rfl
  | case5 p flag long attached? argument rest p' usesNext h ih =>
    rw [readGlobal, readGlobal, doOption_loud, h]
    exact ih
  | case6 p argument rest => exact requestOf_loud p _
  | case7 p s argument rest h =>
    rw [readGlobal, readGlobal]
    · rfl
    · exact h
    · exact h
  | case8 p argument rest => rfl

/-- A verbose flag in front of a command line only asks for details. -/
theorem ofArguments_verbose (h : Request.ofArguments arguments = .generate g) {flag : String}
    (hflag : flag ∈ ["-v", "--verbose"]) :
    Request.ofArguments (flag :: arguments) = .generate g.loud := by
  obtain ⟨hne, long, hword⟩ : flag ≠ "--" ∧
      ∃ long, classifyWord? globalFlags flag = some (.option .verbose long none) := by
    obtain rfl | rfl : flag = "-v" ∨ flag = "--verbose" := by simpa using hflag
    · exact ⟨by decide, false, by decide +kernel⟩
    · exact ⟨by decide, true, by decide +kernel⟩
  rw [Request.ofArguments] at h ⊢
  cases hwords : classify globalFlags arguments with
  | none =>
    rw [hwords] at h
    cases h
  | some words =>
    have hclassify : classify globalFlags (flag :: arguments) =
        some (.option .verbose long none :: words) := by
      rw [classify, if_neg hne, hword, hwords]
      rfl
    rw [hwords] at h
    replace h : readGlobal {} (words.zip arguments) = .generate g := h
    rw [hclassify]
    change readGlobal (Progress.loud {}) (words.zip arguments) = _
    rw [readGlobal_loud, h]
    rfl

end SignalBinding.CommandLine
