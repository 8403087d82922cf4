import LinksBinding.Highlight.Tokens
import LinksBinding.Interpreter
import LinksBinding.Outline
import LinksBinding.Proofs.Findings
import LinksBinding.Proofs.Substitution
import LinksBinding.Rename

/-!
# Names that count as library functions

A project may list names that count as library functions besides the catalogue. Listing more of them
silences what is said of their undefined uses, and has no other effect
(`Analysis.quieter_of_adds`).

Only one check reads the list, and it reads it for one use at a time: with the longer list it finds
what it found before, but for the uses of the added names. To see that this carries over to what is
shown, two things are needed. Sorting commutes with leaving out (`filter_mergeSort_eq`), and the
message tells the name (`message_undefinedFinding`), so that what is left out can be told by looking
at what is shown.
-/

namespace LinksBinding

open Text

/-! ## Options -/

/-- `wider` is like `options`, but that the names `added` count as library functions besides. -/
structure Options.Adds (options : Options) (added : List String) (wider : Options) : Prop where
  /-- positions are shifted alike -/
  positionShift : wider.positionShift = options.positionShift
  /-- the wrapper has the same name -/
  wrapperName : wider.wrapperName = options.wrapperName
  /-- documents are run alike -/
  runtimeCheck : wider.runtimeCheck = options.runtimeCheck
  /-- nothing else is added to the list, and nothing is taken off it -/
  extraBuiltins : ∀ name, name ∈ wider.extraBuiltins ↔ name ∈ options.extraBuiltins ∨ name ∈ added

theorem Options.Adds.isExtraBuiltin {options wider : Options} {added : List String}
    (adds : options.Adds added wider) (name : String) :
    wider.isExtraBuiltin name = (options.isExtraBuiltin name || added.contains name) := by
  rw [Bool.eq_iff_iff, Bool.or_eq_true]
  simp only [Options.isExtraBuiltin, List.contains_iff_mem]
  exact adds.extraBuiltins name

namespace Analysis

/-! ## What is silenced -/

theorem message_undefinedFinding (occurrence : Occurrence) :
    (undefinedFinding occurrence).message =
      (if occurrence.kind = .variable then "Variable '" else "Function '") ++ occurrence.name ++
        "' is not defined." := by
  have ofVariable : fill MessageTemplate.undefinedVariable.message [occurrence.name] =
      "Variable '" ++ occurrence.name ++ "' is not defined." :=
    fill_around (by decide +kernel) (by decide +kernel) (by decide +kernel) _
  have ofFunction : fill MessageTemplate.undefinedFunction.message [occurrence.name] =
      "Function '" ++ occurrence.name ++ "' is not defined." :=
    fill_around (by decide +kernel) (by decide +kernel) (by decide +kernel) _
  rw [undefinedFinding]
  cases occurrence.kind
  · exact ofVariable
  · exact ofFunction
  · exact ofFunction

/-- The name is told by the message. -/
theorem name_eq_of_undefinedFinding {occurrence other : Occurrence}
    (code : (undefinedFinding occurrence).code = (undefinedFinding other).code)
    (message : (undefinedFinding occurrence).message = (undefinedFinding other).message) :
    occurrence.name = other.name := by
  -- the codes tell which of the two wordings is used
  have kind : occurrence.kind = .variable ↔ other.kind = .variable := by
    rw [code_undefinedFinding, code_undefinedFinding] at code
    by_cases first : occurrence.kind = .variable <;> by_cases second : other.kind = .variable <;>
      simp_all
  rw [message_undefinedFinding, message_undefinedFinding] at message
  simp only [kind] at message
  rw [← String.toList_inj] at message ⊢
  simpa [String.toList_append] using message

/-- Whether a diagnostic is what is said of an undefined use of one of the names `added`. -/
def silences (analysis : Analysis) (added : List String) (d : Diagnostic) : Bool :=
  analysis.index.unresolved.any fun occurrence =>
    added.contains occurrence.name && analysis.toDiagnostic (undefinedFinding occurrence) == d

variable {analysis : Analysis} {added : List String}

theorem silences_eq_true_iff {d : Diagnostic} : analysis.silences added d = true ↔
    ∃ occurrence ∈ analysis.index.unresolved, occurrence.name ∈ added ∧
      analysis.toDiagnostic (undefinedFinding occurrence) = d := by
  simp only [silences, List.any_eq_true, Bool.and_eq_true, List.contains_iff_mem, beq_iff_eq]

/-- Only diagnostics of two kinds are silenced. -/
theorem code_of_silences {d : Diagnostic} (silenced : analysis.silences added d = true) :
    d.code = some 1001 ∨ d.code = some 1002 := by
  obtain ⟨occurrence, -, -, rfl⟩ := silences_eq_true_iff.mp silenced
  have code : (analysis.toDiagnostic (undefinedFinding occurrence)).code =
      some (undefinedFinding occurrence).code := rfl
  rw [code, code_undefinedFinding]
  split
  · exact .inl rfl
  · exact .inr rfl

theorem silences_toDiagnostic_of_code {finding : Finding}
    (code : finding.code ≠ 1001 ∧ finding.code ≠ 1002) :
    analysis.silences added (analysis.toDiagnostic finding) = false := by
  rw [← Bool.not_eq_true]
  intro silenced
  rcases code_of_silences silenced with same | same
  · exact code.1 (Option.some.inj same)
  · exact code.2 (Option.some.inj same)

/-- What is said of an undefined use is silenced exactly if its name is. -/
theorem silences_undefinedFinding {occurrence : Occurrence}
    (mem : occurrence ∈ analysis.index.unresolved) :
    analysis.silences added (analysis.toDiagnostic (undefinedFinding occurrence)) =
      added.contains occurrence.name := by
  rw [Bool.eq_iff_iff, silences_eq_true_iff, List.contains_iff_mem]
  constructor
  · rintro ⟨other, -, named, same⟩
    have code : (undefinedFinding other).code = (undefinedFinding occurrence).code :=
      Option.some.inj (congrArg (·.code) same)
    have message : (undefinedFinding other).message = (undefinedFinding occurrence).message :=
      congrArg (·.message) same
    rwa [← name_eq_of_undefinedFinding code message]
  · exact fun named => ⟨occurrence, mem, named, rfl⟩

theorem code_of_mem_duplicateDeclarations {finding : Finding}
    (mem : finding ∈ analysis.duplicateDeclarations) : finding.code = 2001 := by
  rw [duplicateDeclarations, duplicatesIn, List.mem_mergeSort] at mem
  obtain ⟨⟨⟨name, stop⟩, nodes⟩, -, mem⟩ := List.mem_flatMap.mp mem
  rw [groupFindings] at mem
  split at mem
  · obtain ⟨node, -, rfl⟩ := List.mem_map.mp mem
    rfl
  · cases mem

theorem code_of_mem_argumentCountMismatches {finding : Finding}
    (mem : finding ∈ analysis.argumentCountMismatches) : finding.code = 3001 := by
  obtain ⟨occurrence, -, found⟩ := List.mem_filterMap.mp mem
  obtain ⟨declaration, expected, actual, -, -, -, -, -, -, rfl⟩ :=
    argumentCountFinding?_eq_some_iff.mp found
  rfl

section

variable {wider : Options} (adds : analysis.options.Adds added wider)

include adds

theorem undefinedNames_of_adds :
    ({ analysis with options := wider } : Analysis).undefinedNames =
      analysis.undefinedNames.filter fun finding =>
        !analysis.silences added (analysis.toDiagnostic finding) := by
  have fewer : ({ analysis with options := wider } : Analysis).isUndefined =
      fun occurrence => !added.contains occurrence.name && analysis.isUndefined occurrence := by
    funext occurrence
    simp only [isUndefined, adds.isExtraBuiltin, Bool.not_or]
    ac_rfl
  have named : ∀ occurrence ∈ analysis.index.unresolved.filter analysis.isUndefined,
      (!analysis.silences added (analysis.toDiagnostic (undefinedFinding occurrence))) =
        !added.contains occurrence.name :=
    fun occurrence mem => congrArg _ (silences_undefinedFinding (List.mem_of_mem_filter mem))
  rw [undefinedNames, undefinedNames, List.filter_map, fewer, ← List.filter_filter]
  exact congrArg _ (List.filter_congr named).symm

/-- The findings of the other checks stay. -/
theorem findings_of_adds :
    ({ analysis with options := wider } : Analysis).findings =
      analysis.findings.filter fun finding =>
        !analysis.silences added (analysis.toDiagnostic finding) := by
  -- their codes are none of the two that are silenced
  have stay : ∀ finding ∈ analysis.duplicateDeclarations ++ analysis.argumentCountMismatches,
      (!analysis.silences added (analysis.toDiagnostic finding)) = true := by
    intro finding mem
    rw [Bool.not_eq_true', silences_toDiagnostic_of_code]
    rcases List.mem_append.mp mem with mem | mem
    · rw [code_of_mem_duplicateDeclarations mem]
      decide
    · rw [code_of_mem_argumentCountMismatches mem]
      decide
  rw [findings, findings, List.append_assoc, List.append_assoc, List.filter_append,
    List.filter_eq_self.mpr stay, undefinedNames_of_adds adds]
  rfl

/-- The diagnostics with further names are those without them that are not silenced, in their
order. -/
theorem diagnostics_of_adds :
    ({ analysis with options := wider } : Analysis).diagnostics =
      analysis.diagnostics.filter fun d => !analysis.silences added d := by
  rw [diagnostics, diagnostics, Diagnostic.inOrder, Diagnostic.inOrder,
    filter_mergeSort_eq Diagnostic.precedesOrEquals_trans Diagnostic.precedesOrEquals_total,
    List.filter_map, findings_of_adds adds]
  rfl

end

/-! ## Two analyses -/

/-- `second` answers everything like `first`, and shows what `first` shows but for what is said of
undefined uses of the names `added`. -/
structure Quieter (added : List String) (first second : Analysis) : Prop where
  uri : second.uri = first.uri
  view : second.view = first.view
  tree : second.tree = first.tree
  index : second.index = first.index
  identifierAt? : second.identifierAt? = first.identifierAt?
  definition? : second.definition? = first.definition?
  references : second.references = first.references
  prepareRename? : second.prepareRename? = first.prepareRename?
  rename : second.rename = first.rename
  hover? : second.hover? = first.hover?
  outline : second.outline = first.outline
  highlights : second.highlights = first.highlights
  semanticTokens : second.semanticTokens = first.semanticTokens
  runtimeCheck? : second.runtimeCheck? = first.runtimeCheck?
  /-- what is left out says that a variable or a function is not defined -/
  kinds : ∀ d, first.silences added d = true → d.code = some 1001 ∨ d.code = some 1002
  /-- it is left out, and all else stays in its order -/
  diagnostics : second.diagnostics = first.diagnostics.filter fun d => !first.silences added d

theorem outline_options (analysis : Analysis) (options : Options) :
    ({ analysis with options } : Analysis).outline = analysis.outline := by
  have same : ∀ fuel, ({ analysis with options } : Analysis).collect fuel =
      analysis.collect fuel := by
    intro fuel
    induction fuel with
    | zero => rfl
    | succ fuel ih =>
      funext container id
      simp only [collect, ih]
      rfl
  rw [outline, same]
  rfl

/-- Besides the check for undefined names nothing reads the list. -/
theorem quieter_options {wider : Options} (adds : analysis.options.Adds added wider) :
    Quieter added analysis { analysis with options := wider } where
  uri := rfl
  view := rfl
  tree := rfl
  index := rfl
  identifierAt? := rfl
  definition? := rfl
  references := rfl
  prepareRename? := rfl
  rename := rfl
  hover? := rfl
  outline := outline_options analysis wider
  highlights := rfl
  semanticTokens := rfl
  runtimeCheck? := by
    funext interpreter
    rw [Analysis.runtimeCheck?, Analysis.runtimeCheck?, runtimeDiagnostics, adds.runtimeCheck]
    rfl
  kinds _ := code_of_silences
  diagnostics := diagnostics_of_adds adds

/-- When more names count as library functions, a document is analysed as before, and of what is
shown nothing but the diagnostics about undefined uses of these names is missing. This holds for every
tree, and so for what is built of the parser's output, which is refused as before. -/
theorem quieter_of_adds {options wider : Options} {added : List String}
    (adds : options.Adds added wider) (uri source : String) :
    (∀ tree, Quieter added (ofTree uri (.ofSource source options.positionShift) tree options)
        (ofTree uri (.ofSource source wider.positionShift) tree wider)) ∧
      ∀ raw,
        (∀ e, ofRaw uri source raw options = .error e ↔ ofRaw uri source raw wider = .error e) ∧
        ∀ first, ofRaw uri source raw options = .ok first →
          ∃ second, ofRaw uri source raw wider = .ok second ∧ Quieter added first second := by
  have ofTrees : ∀ tree,
      Quieter added (ofTree uri (.ofSource source options.positionShift) tree options)
        (ofTree uri (.ofSource source wider.positionShift) tree wider) := by
    intro tree
    rw [ofTree, ofTree, adds.positionShift, adds.wrapperName]
    exact quieter_options adds
  refine ⟨ofTrees, fun raw => ?_⟩
  rw [ofRaw, ofRaw, adds.positionShift]
  cases SyntaxTree.build (.ofSource source options.positionShift) raw with
  | error e =>
    refine ⟨fun _ => .rfl, fun first analysed => ?_⟩
    cases analysed
  | ok tree =>
    have quieter := ofTrees tree
    rw [adds.positionShift] at quieter
    constructor
    · intro e
      constructor <;> intro refused <;> cases refused
    · intro first analysed
      cases analysed
      exact ⟨_, rfl, quieter⟩

/-- When `g` counts as a library function, it is no longer said that `g` is not defined, but it is
still said that `b` is not. -/
theorem quieter_troubledAnalysis :
    Options.Adds {} ["g"] { extraBuiltins := ["g"] } ∧
      (∃ second, ofRaw "file:///troubled.links" "fun f(a, a) { b }\nf();\ng();\n" troubled
          { extraBuiltins := ["g"] } = .ok second ∧ Quieter ["g"] troubledAnalysis second) ∧
      troubledAnalysis.undefinedNames.map (fun finding =>
        (finding.anchor, troubledAnalysis.silences ["g"] (troubledAnalysis.toDiagnostic finding))) =
          [(7, false), (11, true)] := by
  have adds : Options.Adds {} ["g"] { extraBuiltins := ["g"] } :=
    ⟨rfl, rfl, rfl, fun name => by simp⟩
  obtain ⟨-, analysed⟩ :=
    quieter_of_adds adds "file:///troubled.links" "fun f(a, a) { b }\nf();\ng();\n"
  exact ⟨adds, (analysed troubled).2 _ ofRaw_troubled, by decide +kernel⟩

end Analysis

end LinksBinding
