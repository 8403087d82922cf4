import LinksBinding.Message

/-!
# Filling templates

A template is filled by replacing its placeholders one number after the other, in the text as it has
become. What one would expect is that the template is read once and each placeholder in it gives way
to its argument (`substitute`). The two can differ where a placeholder of a later argument can be read in
what has been put in: in an argument, or across the end of one (`not_putsIn_fill`). Otherwise they do
the same (`putsIn_fill`). With one argument there is no later one, and the report of a wrong number of
arguments, the only message with more, is wrong only about a name with a placeholder in it
(`readsApart_argumentCountMismatch`).

Both ways act on the pieces of the template. When the turn of a number comes, the text is that of the
pieces with the arguments before it put in (`fillFrom_written`), as long as each placeholder, at its
turn, starts in no piece but its own (`Untouched`).
-/

namespace LinksBinding

open Text

/-! ## Pieces of a template -/

/-- A piece of a template. -/
inductive TemplatePiece where
  /-- a character that stands for itself -/
  | char (c : Char)
  /-- the placeholder of an argument -/
  | hole (index : Nat)
  deriving DecidableEq, Repr

namespace TemplatePiece

/-- The text of a piece with arguments put in. A placeholder without an argument stays. -/
def filled (arguments : List (List Char)) : TemplatePiece → List Char
  | char c => [c]
  | hole index => arguments[index]?.getD (placeholder index)

/-- The text of several pieces with arguments put in. -/
def written (arguments : List (List Char)) (pieces : List TemplatePiece) : List Char :=
  pieces.flatMap (filled arguments)

end TemplatePiece

/-- The pieces of a template for `count` arguments, read from left to right. The first `skip`
characters, the rest of a placeholder, are passed over. -/
def piecesAfter (count : Nat) : (skip : Nat) → (template : List Char) → List TemplatePiece
  | _, [] => []
  | skip + 1, _ :: rest => piecesAfter count skip rest
  | 0, c :: rest =>
    match (List.range count).find? fun index => (placeholder index).isPrefixOf (c :: rest) with
    | some index => .hole index :: piecesAfter count ((placeholder index).length - 1) rest
    | none => .char c :: piecesAfter count 0 rest

/-- A template with all its placeholders replaced at once. What is put in is not read again. -/
def substitute (template : List Char) (arguments : List (List Char)) : List Char :=
  TemplatePiece.written arguments (piecesAfter arguments.length 0 template)

/-! ## Replacing -/

namespace Text

variable {target replacement front back : List Char}

/-- `target` does not start in `front`, not even to go on in `back`. -/
def NoStart (target front back : List Char) : Prop :=
  ∀ start, start ≠ [] → start <:+ front → ¬ target <+: start ++ back

theorem replaceAfter_length (target : List Char) :
    replaceAfter target replacement front.length (front ++ back) =
      replaceAfter target replacement 0 back := by
  induction front with
  | nil => rfl
  | cons c front ih => exact ih

/-- Where the target does not start, a text is left alone. -/
theorem replaceAll_append_of_noStart (free : NoStart target front back) :
    replaceAll target replacement (front ++ back) =
      front ++ replaceAll target replacement back := by
  induction front with
  | nil => rfl
  | cons c front ih =>
    have here : ¬ target <+: c :: (front ++ back) :=
      free (c :: front) (List.cons_ne_nil _ _) List.suffix_rfl
    have behind : NoStart target front back := fun start nonempty ends =>
      free start nonempty (ends.trans (List.suffix_cons ..))
    rw [List.cons_append, replaceAll, replaceAfter, if_neg (mt List.isPrefixOf_iff_prefix.mp here)]
    exact congrArg (c :: ·) (ih behind)

theorem replaceAll_eq_self (free : NoStart target front []) :
    replaceAll target replacement front = front := by
  have alone : replaceAll target replacement (front ++ []) = front ++ [] :=
    replaceAll_append_of_noStart free
  rwa [List.append_nil] at alone

theorem noStart_of_notMem {c : Char} {rest : List Char} (free : c ∉ front) :
    NoStart (c :: rest) front back := by
  intro start nonempty ends starts
  obtain ⟨d, start, rfl⟩ := List.exists_cons_of_ne_nil nonempty
  rw [List.cons_append, List.cons_prefix_cons] at starts
  exact free (ends.mem (starts.1 ▸ List.mem_cons_self))

/-- The target is replaced where it stands. -/
theorem replaceAll_target_append (c : Char) (rest : List Char) :
    replaceAll (c :: rest) replacement (c :: rest ++ back) =
      replacement ++ replaceAll (c :: rest) replacement back := by
  have here : (c :: rest).isPrefixOf (c :: (rest ++ back)) = true :=
    List.isPrefixOf_iff_prefix.mpr (List.prefix_append (c :: rest) back)
  rw [List.cons_append, replaceAll, replaceAfter, if_pos here, List.length_cons,
    Nat.add_sub_cancel, replaceAfter_length, replaceAll]

end Text

/-! ## Placeholders -/

section Placeholder

variable {index other : Nat} {text front back : List Char}

/-- What follows the opening brace of a placeholder. -/
def placeholderTail (index : Nat) : List Char := digits index ++ ['\x7d']

theorem placeholder_eq_cons (index : Nat) : placeholder index = '\x7b' :: placeholderTail index :=
  rfl

theorem drop_placeholderTail (index : Nat) (back : List Char) :
    (placeholderTail index ++ back).drop ((placeholder index).length - 1) = back := by
  rw [placeholder_eq_cons, List.length_cons, Nat.add_sub_cancel, List.drop_left]

theorem brace_notMem_placeholderTail (index : Nat) : '\x7b' ∉ placeholderTail index := by
  intro mem
  rcases List.mem_append.mp mem with digit | closing
  · exact absurd (isAsciiDigit_of_mem_digits digit) (by decide)
  · exact absurd (List.mem_singleton.mp closing) (by decide)

/-- No placeholder starts as another one. -/
theorem eq_of_startsWith_placeholder (starts : placeholder index <+: placeholder other ++ text) :
    index = other := by
  obtain ⟨rest, same⟩ := starts
  have closing (n : Nat) : '\x7d' ∉ digits n := fun mem =>
    absurd (isAsciiDigit_of_mem_digits mem) (by decide)
  have same : digits index ++ '\x7d' :: rest = digits other ++ '\x7d' :: text := by
    simpa [placeholder] using same
  -- both are cut at their first closing brace
  have cut := congrArg (cutAt '\x7d') same
  rw [cutAt_append (closing index), cutAt_append (closing other)] at cut
  have equal : digits index = digits other := congrArg Prod.fst (Option.some_inj.mp cut)
  have read := congrArg readDigits? equal
  rwa [readDigits?_digits, readDigits?_digits, Option.some_inj] at read

/-- A placeholder starts in another one neither at its opening brace nor behind it. -/
theorem noStart_placeholder (differ : index ≠ other) :
    NoStart (placeholder index) (placeholder other) back := by
  intro start nonempty ends starts
  rcases List.suffix_cons_iff.mp ends with whole | ends
  · rw [whole] at starts
    exact differ (eq_of_startsWith_placeholder starts)
  · exact noStart_of_notMem (brace_notMem_placeholderTail other) start nonempty ends starts

end Placeholder

/-- A template with one placeholder puts the argument between two texts. -/
theorem fill_around {template before after : String}
    (is : template.toList = before.toList ++ (placeholder 0 ++ after.toList))
    (free : '\x7b' ∉ before.toList) (free' : '\x7b' ∉ after.toList) (argument : String) :
    fill template [argument] = before ++ argument ++ after := by
  have replaced : replaceAll (placeholder 0) argument.toList
      (before.toList ++ (placeholder 0 ++ after.toList)) =
        before.toList ++ (argument.toList ++ after.toList) := by
    rw [placeholder_eq_cons, replaceAll_append_of_noStart (noStart_of_notMem free),
      replaceAll_target_append, replaceAll_eq_self (noStart_of_notMem free')]
  rw [fill, is, ← String.toList_inj]
  simp only [List.map_cons, List.map_nil, fillFrom, replaced, String.toList_ofList,
    String.toList_append, List.append_assoc]

/-! ## Arguments put in one after the other -/

namespace TemplatePiece

variable {arguments more : List (List Char)} {argument q : List Char} {piece : TemplatePiece}
  {pieces : List TemplatePiece}

theorem written_cons (arguments : List (List Char)) (piece : TemplatePiece)
    (pieces : List TemplatePiece) :
    written arguments (piece :: pieces) = piece.filled arguments ++ written arguments pieces :=
  List.flatMap_cons

theorem written_append (arguments : List (List Char)) (front back : List TemplatePiece) :
    written arguments (front ++ back) = written arguments front ++ written arguments back :=
  List.flatMap_append

/-- With more arguments, a piece is the same, or was a placeholder without one. -/
theorem filled_append (arguments more : List (List Char)) (piece : TemplatePiece) :
    piece.filled (arguments ++ more) = piece.filled arguments ∨
      ∃ index, piece = .hole index ∧ arguments.length ≤ index := by
  cases piece with
  | char c => exact .inl rfl
  | hole index =>
    rcases Nat.lt_or_ge index arguments.length with inside | outside
    · exact .inl (by rw [filled, filled, List.getElem?_append_left inside])
    · exact .inr ⟨index, rfl, outside⟩

theorem filled_hole_of_le {index : Nat} (outside : arguments.length ≤ index) :
    filled arguments (.hole index) = placeholder index := by
  rw [filled, List.getElem?_eq_none outside, Option.getD_none]

/-- In what is made of several pieces, the next placeholder starts in no piece but its own. -/
def Untouched (arguments : List (List Char)) (pieces : List TemplatePiece) : Prop :=
  ∀ piece back, piece :: back <:+ pieces → piece ≠ .hole arguments.length →
    NoStart (placeholder arguments.length) (piece.filled arguments) (written arguments back)

/-- Replacing the next placeholder puts its argument into its pieces. -/
theorem replaceAll_written (untouched : Untouched arguments pieces) (argument : List Char) :
    replaceAll (placeholder arguments.length) argument (written arguments pieces) =
      written (arguments ++ [argument]) pieces := by
  induction pieces with
  | nil => rfl
  | cons piece back ih =>
    have behind : Untouched arguments back := fun other rest ends =>
      untouched other rest (ends.trans (List.suffix_cons ..))
    rw [written_cons, written_cons, ← ih behind]
    by_cases own : piece = .hole arguments.length
    · rw [own, filled_hole_of_le (Nat.le_refl _), placeholder_eq_cons, replaceAll_target_append,
        filled, List.getElem?_concat_length, Option.getD_some]
    · rw [replaceAll_append_of_noStart (untouched piece back List.suffix_rfl own)]
      rcases filled_append arguments [argument] piece with same | ⟨index, rfl, outside⟩
      · rw [same]
      · have further : (arguments ++ [argument]).length ≤ index := by
          have differ : index ≠ arguments.length := fun same => own (by rw [same])
          rw [List.length_append, List.length_singleton]
          omega
        rw [filled_hole_of_le outside, filled_hole_of_le further]

/-- If no placeholder is touched, the arguments are put in one after the other. -/
theorem fillFrom_written {done rest : List (List Char)}
    (untouched : ∀ front argument, done <+: front → front ++ [argument] <+: done ++ rest →
      Untouched front pieces) :
    fillFrom done.length (written done pieces) rest = written (done ++ rest) pieces := by
  induction rest generalizing done with
  | nil => rw [fillFrom, List.append_nil]
  | cons argument rest ih =>
    have whole : done ++ [argument] ++ rest = done ++ argument :: rest := by
      rw [List.append_assoc, List.singleton_append]
    have next : Untouched done pieces :=
      untouched done argument List.prefix_rfl ⟨rest, whole⟩
    have behind := @ih (done ++ [argument]) fun front other above below =>
      untouched front other ((List.prefix_append ..).trans above) (whole ▸ below)
    rw [List.length_append, List.length_singleton, whole] at behind
    rw [fillFrom, replaceAll_written next, behind]

end TemplatePiece

/-! ## What can be read in what was put in -/

open TemplatePiece

section Reading

variable {arguments more : List (List Char)} {text text' q : List Char} {pieces : List TemplatePiece}
  {count : Nat}

/-- As far as its first opening brace, a text goes on like another one. -/
def Agrees (text text' : List Char) : Prop := ∀ q : List Char, '\x7b' ∉ q → q <+: text → q <+: text'

theorem Agrees.append_left (agrees : Agrees text text') (front : List Char) :
    Agrees (front ++ text) (front ++ text') := by
  induction front with
  | nil => exact agrees
  | cons c front ih =>
    intro q plain starts
    cases q with
    | nil => exact List.nil_prefix
    | cons d q =>
      rw [List.cons_append, List.cons_prefix_cons] at starts ⊢
      exact ⟨starts.1, ih q (List.not_mem_of_not_mem_cons plain) starts.2⟩

/-- Putting in more arguments changes a text from an opening brace on. -/
theorem agrees_written (arguments more : List (List Char)) (pieces : List TemplatePiece) :
    Agrees (written arguments pieces) (written (arguments ++ more) pieces) := by
  induction pieces with
  | nil => exact fun _ _ starts => starts
  | cons piece back ih =>
    rw [written_cons, written_cons]
    rcases filled_append arguments more piece with same | ⟨index, rfl, outside⟩
    · rw [same]
      exact ih.append_left _
    · intro q plain starts
      rw [filled_hole_of_le outside, placeholder_eq_cons, List.cons_append] at starts
      cases q with
      | nil => exact List.nil_prefix
      | cons c q => exact absurd ((List.cons_prefix_cons.mp starts).1 ▸ List.mem_cons_self) plain

theorem written_suffix {back : List TemplatePiece} (ends : back <:+ pieces) :
    written arguments back <:+ written arguments pieces := by
  obtain ⟨front, rfl⟩ := ends
  exact ⟨written arguments front, (written_append ..).symm⟩

/-- If the next placeholder started in another piece, it could still be read in the end. -/
theorem untouched_of_not_infix (more : List (List Char))
    (free : ¬ placeholder arguments.length <:+: written (arguments ++ more) pieces) :
    Untouched arguments pieces := by
  intro piece back ends own
  rcases filled_append arguments more piece with same | ⟨index, rfl, outside⟩
  · intro start nonempty within starts
    obtain ⟨c, start, rfl⟩ := List.exists_cons_of_ne_nil nonempty
    rw [placeholder_eq_cons, List.cons_append, List.cons_prefix_cons] at starts
    have rest : placeholderTail arguments.length <+: start ++ written (arguments ++ more) back :=
      (agrees_written arguments more back).append_left start _
        (brace_notMem_placeholderTail _) starts.2
    have still : placeholder arguments.length <+:
        c :: start ++ written (arguments ++ more) back := by
      rw [placeholder_eq_cons, List.cons_append, List.cons_prefix_cons]
      exact ⟨starts.1, rest⟩
    have inside : c :: start ++ written (arguments ++ more) back <:+
        written (arguments ++ more) (piece :: back) := by
      obtain ⟨front, whole⟩ := within
      exact ⟨front, by rw [written_cons, same, ← whole, List.append_assoc]⟩
    exact free (still.isInfix.trans (inside.trans (written_suffix ends)).isInfix)
  · rw [filled_hole_of_le outside]
    exact noStart_placeholder fun same => own (by rw [same])

/-- Without arguments, the pieces of a template are the template. -/
theorem written_nil_piecesAfter (count skip : Nat) (template : List Char) :
    written [] (piecesAfter count skip template) = template.drop skip := by
  fun_induction piecesAfter count skip template with
  | case1 skip => exact List.drop_nil.symm
  | case2 skip c rest ih => exact ih
  | case3 c rest index found ih =>
    have starts : placeholder index <+: c :: rest :=
      List.isPrefixOf_iff_prefix.mp (List.find?_some found :)
    obtain ⟨back, whole⟩ := starts
    rw [placeholder_eq_cons, List.cons_append, List.cons.injEq] at whole
    rw [written_cons, filled_hole_of_le (Nat.zero_le _), ih, ← whole.1, ← whole.2,
      drop_placeholderTail]
    rfl
  | case4 c rest missing ih =>
    rw [written_cons, ih]
    rfl

/-- A character of a template that stands for itself does not start a placeholder. -/
theorem not_prefix_of_char_mem {skip : Nat} {template : List Char} {c : Char}
    {back : List TemplatePiece} (ends : .char c :: back <:+ piecesAfter count skip template)
    {index : Nat} (below : index < count) : ¬ placeholder index <+: c :: written [] back := by
  fun_induction piecesAfter count skip template with
  | case1 => exact absurd ends.length_le (by simp)
  | case2 skip _ rest ih => exact ih ends
  | case3 d rest other found ih =>
    rcases List.suffix_cons_iff.mp ends with whole | ends
    · cases whole
    · exact ih ends
  | case4 d rest missing ih =>
    rcases List.suffix_cons_iff.mp ends with whole | ends
    · cases whole
      rw [written_nil_piecesAfter, List.drop_zero]
      intro starts
      exact List.find?_eq_none.mp missing index (List.mem_range.mpr below)
        (List.isPrefixOf_iff_prefix.mpr starts)
    · exact ih ends

theorem infix_of_infix_append {c : Char} {front back : List Char} (free : c ∉ front)
    (inside : c :: q <:+: front ++ back) : c :: q <:+: back := by
  induction front with
  | nil => exact inside
  | cons d front ih =>
    rcases List.infix_cons_iff.mp inside with starts | behind
    · exact absurd (List.cons_prefix_cons.mp starts).1 (List.ne_of_not_mem_cons free)
    · exact ih (List.not_mem_of_not_mem_cons free) behind

/-- Every placeholder of an argument in a template is a piece of it. -/
theorem hole_mem_piecesAfter {skip index : Nat} {template : List Char} (below : index < count)
    (inside : placeholder index <:+: template.drop skip) :
    .hole index ∈ piecesAfter count skip template := by
  fun_induction piecesAfter count skip template with
  | case1 => exact absurd inside.length_le (by simp [placeholder])
  | case2 skip _ rest ih => exact ih inside
  | case3 c rest other found ih =>
    obtain ⟨back, whole⟩ : placeholder other <+: c :: rest :=
      List.isPrefixOf_iff_prefix.mp (List.find?_some found :)
    rw [placeholder_eq_cons, List.cons_append, List.cons.injEq] at whole
    rw [List.drop_zero] at inside
    rcases List.infix_cons_iff.mp inside with starts | behind
    · rw [← whole.1, ← whole.2, ← List.cons_append, ← placeholder_eq_cons] at starts
      rw [eq_of_startsWith_placeholder starts]
      exact List.mem_cons_self
    · refine List.mem_cons_of_mem _ (ih ?_)
      rw [← whole.2] at behind ⊢
      rw [drop_placeholderTail]
      exact infix_of_infix_append (brace_notMem_placeholderTail other) behind
  | case4 c rest missing ih =>
    rcases List.infix_cons_iff.mp inside with starts | behind
    · exact absurd (List.isPrefixOf_iff_prefix.mpr starts)
        (List.find?_eq_none.mp missing index (List.mem_range.mpr below))
    · exact List.mem_cons_of_mem _ (ih behind)

/-- The first placeholder starts in no other piece of a template. -/
theorem untouched_piecesAfter {skip : Nat} {template : List Char} (positive : 0 < count) :
    Untouched [] (piecesAfter count skip template) := by
  intro piece back ends own
  cases piece with
  | hole index =>
    rw [filled_hole_of_le (Nat.zero_le _)]
    exact noStart_placeholder fun same => own (by rw [same])
  | char c =>
    intro start nonempty within starts
    rcases List.suffix_cons_iff.mp within with rfl | within
    · exact not_prefix_of_char_mem ends positive starts
    · exact nonempty (List.suffix_nil.mp within)

end Reading

/-! ## Templates that are read apart -/

/-- When the turn of an argument comes, its placeholder can be read only where the template has it: not
in the arguments before it, and not across the end of one. -/
def ReadsApart (template : String) (arguments : List String) : Prop :=
  ∀ (front : List (List Char)) (argument : List Char), front ≠ [] →
    front ++ [argument] <+: arguments.map String.toList →
    Untouched front (piecesAfter arguments.length 0 template.toList)

/-- There is no argument before a single one. -/
theorem readsApart_singleton (template argument : String) : ReadsApart template [argument] := by
  intro front last nonempty inside
  have short := inside.length_le
  simp only [List.length_append, List.length_map, List.length_singleton] at short
  exact absurd (List.eq_nil_of_length_eq_zero (by omega)) nonempty

/-- A placeholder that cannot be read in the end could not be read before. -/
theorem readsApart_of_not_infix {template : String} {arguments : List String}
    (free : ∀ index, 0 < index → index < arguments.length →
      ¬ placeholder index <:+: substitute template.toList (arguments.map String.toList)) :
    ReadsApart template arguments := by
  intro front argument nonempty inside
  have below := inside.length_le
  rw [List.length_append, List.length_map] at below
  have absent := free front.length (List.length_pos_iff.mpr nonempty) below
  rw [substitute, List.length_map] at absent
  obtain ⟨more, whole⟩ := inside
  refine untouched_of_not_infix ([argument] ++ more) ?_
  rwa [← List.append_assoc, whole]

/-- Around a name without placeholders, no braces make one. -/
theorem not_infix_around {index : Nat} {front name back : List Char} (plain : '\x7b' ∉ front)
    (plain' : '\x7d' ∉ back) (free : ¬ placeholder index <:+: name) :
    ¬ placeholder index <:+: front ++ (name ++ back) := by
  intro inside
  have behind : placeholder index <:+: name ++ back := infix_of_infix_append plain inside
  -- the closing brace is in the name for the same reason, read from the right
  have reversed : '\x7d' :: ('\x7b' :: digits index).reverse <:+: back.reverse ++ name.reverse := by
    rw [← List.reverse_concat, ← List.reverse_append, List.reverse_infix]
    exact behind
  have within := infix_of_infix_append (mt List.mem_reverse.mp plain') reversed
  rw [← List.reverse_concat, List.reverse_infix] at within
  exact free within

/-- A piece around the name that a message is about: no brace, but maybe the placeholder of another
argument. -/
def isPlain (count : Nat) : TemplatePiece → Bool
  | .char c => c != '\x7b' && c != '\x7d'
  | .hole index => 0 < index && index < count

/-- If the other arguments are without braces, there are none around the name. -/
theorem brace_notMem_written {name : List Char} {others : List (List Char)}
    {pieces : List TemplatePiece} (plain : ∀ piece ∈ pieces, isPlain (others.length + 1) piece)
    (free : ∀ other ∈ others, '\x7b' ∉ other ∧ '\x7d' ∉ other) :
    '\x7b' ∉ written (name :: others) pieces ∧ '\x7d' ∉ written (name :: others) pieces := by
  suffices ∀ piece ∈ pieces, '\x7b' ∉ piece.filled (name :: others) ∧
      '\x7d' ∉ piece.filled (name :: others) by
    constructor <;> intro mem <;> obtain ⟨piece, inside, brace⟩ := List.mem_flatMap.mp mem
    · exact (this piece inside).1 brace
    · exact (this piece inside).2 brace
  intro piece mem
  have around := plain piece mem
  cases piece with
  | char c =>
    simp only [isPlain, Bool.and_eq_true, bne_iff_ne] at around
    exact ⟨mt List.mem_singleton.mp around.1.symm, mt List.mem_singleton.mp around.2.symm⟩
  | hole index =>
    simp only [isPlain, Bool.and_eq_true, decide_eq_true_eq] at around
    obtain ⟨index, rfl⟩ := Nat.exists_eq_add_one.mpr around.1
    have below : index < others.length := Nat.lt_of_succ_lt_succ around.2
    rw [filled, List.getElem?_cons_succ, List.getElem?_eq_getElem below, Option.getD_some]
    exact free _ (List.getElem_mem below)

/-- A message with one name in it, and otherwise numbers, is read apart if the name has no placeholder
of a number in it. -/
theorem readsApart_of_name {template name : String} {others : List String}
    (single : (piecesAfter (others.length + 1) 0 template.toList).filter
      (fun piece => !isPlain (others.length + 1) piece) = [.hole 0])
    (numbers : ∀ other ∈ others, '\x7b' ∉ other.toList ∧ '\x7d' ∉ other.toList)
    (free : ∀ index, 0 < index → index < others.length + 1 →
      ¬ placeholder index <:+: name.toList) :
    ReadsApart template (name :: others) := by
  obtain ⟨front, back, pieces, plain, -, rest⟩ := List.filter_eq_cons_iff.mp single
  have plain' := List.filter_eq_nil_iff.mp rest
  simp only [Bool.not_eq_true', Bool.not_eq_false] at plain plain'
  refine readsApart_of_not_infix fun index positive below => ?_
  have numbers' : ∀ other ∈ others.map String.toList, '\x7b' ∉ other ∧ '\x7d' ∉ other :=
    List.forall_mem_map.mpr numbers
  rw [← List.length_map String.toList] at plain plain'
  rw [substitute, List.length_map, List.length_cons, pieces, written_append, written_cons,
    List.map_cons]
  exact not_infix_around (brace_notMem_written plain numbers').1
    (brace_notMem_written plain' numbers').2 (free index positive below)

/-- The report of a wrong number of arguments shows the name of the function, whatever the numbers
are, if neither of their placeholders can be read in the name. -/
theorem readsApart_argumentCountMismatch (name : String) (parameters given : Nat)
    (free : ¬ placeholder 1 <:+: name.toList) (free' : ¬ placeholder 2 <:+: name.toList) :
    ReadsApart MessageTemplate.argumentCountMismatch.message
        [name, toString parameters, toString given] ∧
      ReadsApart MessageTemplate.argumentCountMismatch.hint
        [name, toString parameters, toString given] := by
  have number (n : Nat) : '\x7b' ∉ (toString n).toList ∧ '\x7d' ∉ (toString n).toList := by
    rw [Nat.toString_eq_ofList_toDigits, String.toList_ofList]
    constructor <;> intro mem <;>
      exact absurd (isAsciiDigit_of_mem_digits mem) (by decide)
  have numbers : ∀ other ∈ [toString parameters, toString given],
      '\x7b' ∉ other.toList ∧ '\x7d' ∉ other.toList := by
    simp only [List.forall_mem_cons]
    exact ⟨number _, number _, List.forall_mem_nil _⟩
  have absent : ∀ index, 0 < index → index < 3 → ¬ placeholder index <:+: name.toList := by
    intro index positive below
    obtain rfl | rfl : index = 1 ∨ index = 2 := by omega
    · exact free
    · exact free'
  have single : (piecesAfter 3 0 MessageTemplate.argumentCountMismatch.message.toList).filter
      (fun piece => !isPlain 3 piece) = [.hole 0] := by decide +kernel
  have single' : (piecesAfter 3 0 MessageTemplate.argumentCountMismatch.hint.toList).filter
      (fun piece => !isPlain 3 piece) = [.hole 0] := by decide +kernel
  exact ⟨readsApart_of_name single numbers absent, readsApart_of_name single' numbers absent⟩

/-! ## One after the other and all at once -/

/-- A text is a template with the arguments put in as they are. -/
structure PutsIn (template : String) (arguments : List String) (text : String) : Prop where
  /-- it is the template with all placeholders replaced at once -/
  substituted : text.toList = substitute template.toList (arguments.map String.toList)
  /-- an argument that the template has a placeholder for can be read in it -/
  shown : ∀ (index : Nat) (argument : String), arguments[index]? = some argument →
    placeholder index <:+: template.toList → argument.toList <:+: text.toList

/-- What is put in for a placeholder can be read in the text. -/
theorem infix_substitute {template argument : List Char} {arguments : List (List Char)} {index : Nat}
    (found : arguments[index]? = some argument) (inside : placeholder index <:+: template) :
    argument <:+: substitute template arguments := by
  have below : index < arguments.length := (List.getElem?_eq_some_iff.mp found).1
  have piece : TemplatePiece.hole index ∈ piecesAfter arguments.length 0 template :=
    hole_mem_piecesAfter below inside
  obtain ⟨front, back, whole⟩ := List.append_of_mem piece
  refine ⟨written arguments front, written arguments back, ?_⟩
  have middle : filled arguments (.hole index) = argument := by rw [filled, found, Option.getD_some]
  rw [substitute, whole, written_append, written_cons, middle, List.append_assoc]

/-- Placeholders that are read apart give way to their arguments one after the other as they would all
at once. -/
theorem putsIn_fill {template : String} {arguments : List String}
    (apart : ReadsApart template arguments) :
    PutsIn template arguments (fill template arguments) := by
  have start : written [] (piecesAfter arguments.length 0 template.toList) = template.toList :=
    written_nil_piecesAfter ..
  have untouched (front : List (List Char)) (argument : List Char) (_ : [] <+: front)
      (inside : front ++ [argument] <+: [] ++ arguments.map String.toList) :
      Untouched front (piecesAfter arguments.length 0 template.toList) := by
    cases front with
    | nil =>
      have positive := inside.length_le
      simp only [List.nil_append, List.length_singleton, List.length_map] at positive
      exact untouched_piecesAfter positive
    | cons first front => exact apart _ argument (List.cons_ne_nil _ _) inside
  have filled := fillFrom_written untouched
  rw [start, List.length_nil, List.nil_append] at filled
  have substituted : (fill template arguments).toList =
      substitute template.toList (arguments.map String.toList) := by
    rw [fill, String.toList_ofList, substitute, List.length_map, filled]
  refine ⟨substituted, fun index argument found inside => ?_⟩
  rw [substituted]
  exact infix_substitute (by rw [List.getElem?_map, found, Option.map_some]) inside

/-- A name with the placeholder of the first argument in it, which is filled in already. -/
theorem putsIn_fill_bracedName :
    ReadsApart MessageTemplate.argumentCountMismatch.message
        ["\x7b0\x7d", toString 2, toString 3] ∧
      PutsIn MessageTemplate.argumentCountMismatch.message ["\x7b0\x7d", toString 2, toString 3]
        (fill MessageTemplate.argumentCountMismatch.message
          ["\x7b0\x7d", toString 2, toString 3]) := by
  have apart := (readsApart_argumentCountMismatch "\x7b0\x7d" 2 3 (by decide +kernel)
    (by decide +kernel)).1
  exact ⟨apart, putsIn_fill apart⟩

/-- A function whose name looks like the second placeholder is reported under the number of its
parameters. -/
theorem not_putsIn_fill :
    fill MessageTemplate.argumentCountMismatch.message ["\x7b1\x7d", "2", "3"] =
        "Function '2' expects 2 argument(s) but was called with 3." ∧
      ¬ PutsIn MessageTemplate.argumentCountMismatch.message ["\x7b1\x7d", "2", "3"]
        (fill MessageTemplate.argumentCountMismatch.message ["\x7b1\x7d", "2", "3"]) := by
  have filled : fill MessageTemplate.argumentCountMismatch.message ["\x7b1\x7d", "2", "3"] =
      "Function '2' expects 2 argument(s) but was called with 3." := by decide +kernel
  refine ⟨filled, fun putsIn => ?_⟩
  have shown := putsIn.shown 0 "\x7b1\x7d" rfl (by decide +kernel)
  rw [filled] at shown
  exact absurd shown (by decide +kernel)

end LinksBinding
