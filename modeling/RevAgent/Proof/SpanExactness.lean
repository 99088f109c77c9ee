import RevAgent.Library.Related
import RevAgent.Protocol.FrameSpans

/-!
# The spans are exact

On a text that is JSON, the reader of spans goes through it in step with the grammar. Its white space
is wider and its scalars are whatever stands before a separator, but in such a text the difference
never shows: after every token comes a unit that both agree on. What is left is the recursion over the
syntax tree.
-/

namespace RevAgent.Protocol

open List RevAgent.Library.JsonGrammar

variable {unit : Nat} {α : Type} {items : List JsonSpan} {error : SpanError} {span : JsonSpan}
  {text rest token : List Nat} {index : Nat}
  {properties done : List (List Nat × JsonSpan)} {rest' key : List Nat} {members : Members}
  {value : Tree} {before after colon colon' inner : WhiteSpace} {name : StringLiteral}

def At (text : List Nat) (index : Nat) (rest : List Nat) : Prop := text.drop index = rest

namespace At

theorem head? (h : At text index rest) : text[index]? = rest.head? := by
  rw [← h, head?_drop]

theorem advance (h : At text index (token ++ rest)) : At text (index + token.length) rest := by
  rw [At, ← drop_drop, h, drop_left]

theorem next (h : At text index (unit :: rest)) : At text (index + 1) rest := by
  have hunit : At text index ([unit] ++ rest) := h
  exact hunit.advance

theorem lt_length (h : At text index (unit :: rest)) : index < text.length := by
  have hlength := congrArg length h
  simp only [length_drop, length_cons] at hlength
  omega

theorem slice (h : At text index (token ++ rest)) :
    sliceText text index (index + token.length) = token := by
  rw [sliceText, h, Nat.add_sub_cancel_left, take_left]

end At

theorem takeWhile_append_of_stop {p : α → Bool} {run rest : List α} (hrun : ∀ a ∈ run, p a = true)
    (hstop : ∀ a, rest.head? = some a → p a = false) : (run ++ rest).takeWhile p = run := by
  rw [takeWhile_append_of_pos hrun]
  cases rest with
  | nil => simp
  | cons a rest => simp [hstop a rfl]

theorem isRegexSpace_of_isWhiteSpace (h : isWhiteSpace unit = true) : isRegexSpace unit = true := by
  simp only [isWhiteSpace, Bool.or_eq_true, decide_eq_true_eq] at h
  rcases h with ((rfl | rfl) | rfl) | rfl <;> decide

def Tight (rest : List Nat) : Prop := ∀ unit, rest.head? = some unit → isRegexSpace unit = false

def Ended (rest : List Nat) : Prop := ∀ unit, rest.head? = some unit → endsScalar unit = true

theorem skipWhitespace_eq (white : WhiteSpace)
    (h : At text index (white.units ++ rest)) (hrest : Tight rest) :
    skipWhitespace text index = index + white.units.length := by
  rw [skipWhitespace, h, takeWhile_append_of_stop _ hrest]
  intro unit hunit
  exact isRegexSpace_of_isWhiteSpace (white.white unit hunit)

theorem skipScalar_eq (h : At text index (token ++ rest))
    (htoken : ∀ unit ∈ token, endsScalar unit = false) (hrest : Ended rest) :
    skipScalar text index = index + token.length := by
  rw [skipScalar, h, takeWhile_append_of_stop]
  · intro unit hunit
    rw [htoken unit hunit]
    rfl
  · intro unit hunit
    rw [hrest unit hunit]
    rfl

theorem quoteDistance_quote (rest : List Nat) : quoteDistance (0x22 :: rest) = some 1 := by
  rw [quoteDistance.eq_def]
  exact if_pos rfl

theorem quoteDistance_escape (unit : Nat) (rest : List Nat) :
    quoteDistance (0x5c :: unit :: rest) = (quoteDistance rest).map (· + 2) := by
  rw [quoteDistance, if_neg (by decide), if_pos rfl]

theorem quoteDistance_plain (hquote : unit ≠ 0x22) (hescape : unit ≠ 0x5c) (rest : List Nat) :
    quoteDistance (unit :: rest) = (quoteDistance rest).map (· + 1) := by
  rw [quoteDistance.eq_def]
  exact (if_neg hquote).trans (if_neg hescape)

theorem quoteDistance_hexDigit {digit : Nat} (h : hexDigit unit = some digit) (rest : List Nat) :
    quoteDistance (unit :: rest) = (quoteDistance rest).map (· + 1) := by
  apply quoteDistance_plain
  · rintro rfl
    simp [hexDigit] at h
  · rintro rfl
    simp [hexDigit] at h

theorem quoteDistance_append {body units : List Nat} (h : readCharacters body = some units)
    (rest : List Nat) : quoteDistance (body ++ rest) = some body.length := by
  fun_induction readCharacters body generalizing units with
  | case2 => exact quoteDistance_quote rest
  | case5 a b c d body _ ih =>
    simp only [Option.bind_eq_bind, Option.bind_eq_some_iff] at h
    obtain ⟨_, ha, _, hb, _, hc, _, hd, _, hbody, -⟩ := h
    simp only [cons_append, quoteDistance_escape, quoteDistance_hexDigit ha,
      quoteDistance_hexDigit hb, quoteDistance_hexDigit hc, quoteDistance_hexDigit hd, ih hbody]
    rfl
  | case7 kind body _ _ ih =>
    simp only [Option.bind_eq_bind, Option.bind_eq_some_iff] at h
    obtain ⟨_, -, _, hbody, -⟩ := h
    simp only [cons_append, quoteDistance_escape, ih hbody]
    rfl
  | case9 unit body hquote hescape _ ih =>
    simp only [Option.bind_eq_bind, Option.bind_eq_some_iff] at h
    obtain ⟨_, hbody, -⟩ := h
    simp only [cons_append, quoteDistance_plain hquote hescape, ih hbody]
    rfl
  | _ => cases h

theorem parseString_eq (literal : StringLiteral)
    (h : At text index (literal.text ++ rest)) :
    parseString text index = .ok (literal.units, index + literal.text.length) := by
  have hreads := literal.reads
  have hslice := h.slice
  cases htext : literal.text with
  | nil => simp [htext, readString] at hreads
  | cons unit body =>
    rw [htext] at h hreads hslice
    rw [readString] at hreads
    split at hreads
    · rename_i hquote
      subst hquote
      have hhead : text[index]? = some 0x22 := h.head?
      have hdistance := quoteDistance_append hreads rest
      rw [parseString, if_neg (by simp [hhead]), show text.drop (index + 1) = body ++ rest from
        h.next, hdistance]
      have hstop : index + 1 + body.length = index + (0x22 :: body).length := by
        rw [length_cons]
        omega
      simp only [hstop, hslice, readString, if_true, hreads]
      rfl
    · cases hreads

def isScalarUnit (unit : Nat) : Bool :=
  ! endsScalar unit && unit ≠ 0x7b && unit ≠ 0x5b && unit ≠ 0x22

theorem isScalarUnit_of_mem_number {literal : NumberLiteral} (h : unit ∈ literal.text) :
    isScalarUnit unit = true := by
  rcases NumberLiteral.mem_text h with hdigit | hmark
  · simp only [isDigit, Bool.and_eq_true, decide_eq_true_eq] at hdigit
    simp only [isScalarUnit, endsScalar, isRegexSpace]
    simp
    omega
  · simp only [isNumberMark, Bool.or_eq_true, decide_eq_true_eq] at hmark
    rcases hmark with (((rfl | rfl) | rfl) | rfl) | rfl <;> decide

theorem endsScalar_of_isScalarUnit (h : isScalarUnit unit = true) : endsScalar unit = false := by
  simp only [isScalarUnit, Bool.and_eq_true, Bool.not_eq_true'] at h
  exact h.1.1.1

theorem exists_tree_text_eq (tree : Tree) :
    ∃ unit rest, tree.text = unit :: rest ∧ isRegexSpace unit = false ∧ unit ≠ 0x5d ∧
      unit ≠ 0x7d := by
  cases tree with
  | null => exact ⟨_, _, rfl, by decide, by decide, by decide⟩
  | bool value => cases value <;> exact ⟨_, _, rfl, by decide, by decide, by decide⟩
  | number literal =>
    obtain ⟨unit, rest, htext⟩ := exists_cons_of_ne_nil literal.text_ne_nil
    have hmem : unit ∈ literal.text := by simp [htext]
    have hends := endsScalar_of_isScalarUnit (isScalarUnit_of_mem_number hmem)
    simp only [endsScalar, Bool.or_eq_false_iff, decide_eq_false_iff_not] at hends
    obtain ⟨⟨⟨hspace, -⟩, hbrace⟩, hbracket⟩ := hends
    exact ⟨unit, rest, htext, hspace, hbracket, hbrace⟩
  | string literal =>
    obtain ⟨body, htext⟩ := literal.exists_text_eq
    exact ⟨_, body, htext, by decide, by decide, by decide⟩
  | emptyArray inner => exact ⟨_, _, rfl, by decide, by decide, by decide⟩
  | array items => exact ⟨_, _, rfl, by decide, by decide, by decide⟩
  | emptyObject inner => exact ⟨_, _, rfl, by decide, by decide, by decide⟩
  | object members => exact ⟨_, _, rfl, by decide, by decide, by decide⟩

variable {ν : Type} (number : NumberLiteral → ν)

/-- The text is that of one JSON value, with nothing around it. -/
def IsValueText (text : List Nat) (value : Value ν) : Prop :=
  ∃ tree : Tree, tree.text = text ∧ tree.value number = value

/-- Every span cuts out the text of the value it stands for. -/
inductive Matches (text : List Nat) : JsonSpan → Value ν → Prop where
  | scalar {start stop : Nat} {value : Value ν}
      (htext : IsValueText number (sliceText text start stop) value)
      (hscalar : ∀ items, value ≠ .array items) (hscalar' : ∀ members, value ≠ .object members) :
      Matches text (.scalar start stop) value
  | array {start stop : Nat} {spans : List JsonSpan} {items : List (Value ν)}
      (htext : IsValueText number (sliceText text start stop) (.array items))
      (hlength : spans.length = items.length)
      (hitems : ∀ span item, (span, item) ∈ spans.zip items → Matches text span item) :
      Matches text (.array start stop spans) (.array items)
  | object {start stop : Nat} {properties : List (List Nat × JsonSpan)}
      {members : List (List Nat × Value ν)}
      (htext : IsValueText number (sliceText text start stop) (.object members))
      (hnames : properties.map Prod.fst = members.map Prod.fst)
      (hmembers : ∀ property member, (property, member) ∈ properties.zip members →
        Matches text property.2 member.2) :
      Matches text (.object start stop properties) (.object members)

section

variable {fuel start stop : Nat}

theorem tight_cons (h : isRegexSpace unit = false) (rest : List Nat) : Tight (unit :: rest) := by
  intro first hfirst
  rwa [← Option.some.inj hfirst]

theorem tight_tree (tree : Tree) (rest : List Nat) : Tight (tree.text ++ rest) := by
  obtain ⟨unit, tail, htext, hspace, -⟩ := exists_tree_text_eq tree
  rw [htext]
  exact tight_cons hspace _

theorem tight_string (literal : StringLiteral) (rest : List Nat) : Tight (literal.text ++ rest) := by
  obtain ⟨body, htext⟩ := literal.exists_text_eq
  rw [htext]
  exact tight_cons (by decide) _

theorem lt_length_of_tree (tree : Tree)
    (h : At text index (tree.text ++ rest)) : index < text.length := by
  obtain ⟨unit, tail, htext, -⟩ := exists_tree_text_eq tree
  rw [htext] at h
  exact h.lt_length

theorem lt_length_of_string (literal : StringLiteral)
    (h : At text index (literal.text ++ rest)) : index < text.length := by
  obtain ⟨body, htext⟩ := literal.exists_text_eq
  rw [htext] at h
  exact h.lt_length

theorem ended_white (white : WhiteSpace) (h : endsScalar unit = true) (rest : List Nat) :
    Ended (white.units ++ unit :: rest) := by
  intro first hfirst
  cases hunits : white.units with
  | nil =>
    rw [hunits] at hfirst
    rwa [← Option.some.inj hfirst]
  | cons space spaces =>
    rw [hunits] at hfirst
    have hspace : isWhiteSpace space = true := white.white space (by simp [hunits])
    rw [← Option.some.inj hfirst]
    simp [endsScalar, isRegexSpace_of_isWhiteSpace hspace]

theorem parseItems_error (hindex : index < text.length)
    (h : parseValue text fuel index = .error error) :
    parseItems text (fuel + 1) start index items = .error error := by
  rw [parseItems, if_neg (by omega), h]
  rfl

theorem parseItems_last (hindex : index < text.length)
    (h : parseValue text fuel index = .ok (span, stop)) (after : WhiteSpace)
    (hafter : At text stop (after.units ++ 0x5d :: rest)) :
    parseItems text (fuel + 1) start index items =
      .ok (.array start (stop + after.units.length + 1) (items ++ [span]),
        stop + after.units.length + 1) := by
  have hskip := skipWhitespace_eq after hafter (tight_cons (by decide) _)
  have hclose : text[stop + after.units.length]? = some 0x5d := hafter.advance.head?
  rw [parseItems, if_neg (by omega), h]
  simp only [bind, Except.bind, hskip, hclose, if_true]
  rfl

theorem parseItems_more (hindex : index < text.length)
    (h : parseValue text fuel index = .ok (span, stop)) (after before : WhiteSpace)
    (hafter : At text stop (after.units ++ 0x2c :: (before.units ++ rest)))
    (hrest : Tight rest) :
    parseItems text (fuel + 1) start index items =
      parseItems text fuel start (stop + after.units.length + 1 + before.units.length)
        (items ++ [span]) := by
  have hskip := skipWhitespace_eq after hafter (tight_cons (by decide) _)
  have hcomma : text[stop + after.units.length]? = some 0x2c := hafter.advance.head?
  have hskip' := skipWhitespace_eq before hafter.advance.next hrest
  rw [parseItems, if_neg (by omega), h]
  simp only [bind, Except.bind, hskip, hcomma, hskip']
  rfl

theorem parseMembers_duplicate (name : StringLiteral)
    (h : At text index (name.text ++ rest)) (hkey : properties.any (·.1 = name.units) = true) :
    parseMembers text (fuel + 1) start index properties = .error (.duplicateKey name.units) := by
  have hindex := lt_length_of_string name h
  rw [parseMembers, if_neg (by omega), parseString_eq name h]
  simp only [bind, Except.bind, hkey, if_true]
  rfl

section Member

variable {name : StringLiteral} {colon colon' after before : WhiteSpace}
  {value : Nat} (h : At text index (name.text ++ (colon.units ++ 0x3a :: (colon'.units ++ rest))))
  (hrest : Tight rest) (hkey : properties.any (·.1 = name.units) = false)
  (hvalue : value = index + name.text.length + colon.units.length + 1 + colon'.units.length)

include h hrest hkey hvalue

theorem parseMembers_eq :
    parseMembers text (fuel + 1) start index properties = (do
      let (span, stop) ← parseValue text fuel value
      let next := skipWhitespace text stop
      let properties := properties ++ [(name.units, span)]
      if text[next]? = some 0x7d then return (.object start (next + 1) properties, next + 1)
      if text[next]? ≠ some 0x2c then throw (.error "expected JSON object separator")
      parseMembers text fuel start (skipWhitespace text (next + 1)) properties) := by
  have hindex := lt_length_of_string name h
  have hskip := skipWhitespace_eq colon h.advance (tight_cons (by decide) _)
  have hcolon : text[index + name.text.length + colon.units.length]? = some 0x3a :=
    h.advance.advance.head?
  have hskip' := skipWhitespace_eq colon' h.advance.advance.next hrest
  rw [parseMembers, if_neg (by omega), parseString_eq name h, hvalue]
  simp only [bind, Except.bind, hkey, hskip, hcolon, hskip']
  rfl

theorem parseMembers_error (hparse : parseValue text fuel value = .error error) :
    parseMembers text (fuel + 1) start index properties = .error error := by
  rw [parseMembers_eq h hrest hkey hvalue, hparse]
  rfl

theorem parseMembers_last (hparse : parseValue text fuel value = .ok (span, stop))
    (hafter : At text stop (after.units ++ 0x7d :: rest')) :
    parseMembers text (fuel + 1) start index properties =
      .ok (.object start (stop + after.units.length + 1) (properties ++ [(name.units, span)]),
        stop + after.units.length + 1) := by
  have hskip := skipWhitespace_eq after hafter (tight_cons (by decide) _)
  have hclose : text[stop + after.units.length]? = some 0x7d := hafter.advance.head?
  rw [parseMembers_eq h hrest hkey hvalue, hparse]
  simp only [bind, Except.bind, hskip, hclose, if_true]
  rfl

theorem parseMembers_more (hparse : parseValue text fuel value = .ok (span, stop))
    (hafter : At text stop (after.units ++ 0x2c :: (before.units ++ rest')))
    (hrest' : Tight rest') :
    parseMembers text (fuel + 1) start index properties =
      parseMembers text fuel start (stop + after.units.length + 1 + before.units.length)
        (properties ++ [(name.units, span)]) := by
  have hskip := skipWhitespace_eq after hafter (tight_cons (by decide) _)
  have hcomma : text[stop + after.units.length]? = some 0x2c := hafter.advance.head?
  have hskip' := skipWhitespace_eq before hafter.advance.next hrest'
  rw [parseMembers_eq h hrest hkey hvalue, hparse]
  simp only [bind, Except.bind, hskip, hcomma, hskip']
  rfl

end Member

end

theorem parseValue_string (literal : StringLiteral)
    (h : At text index (literal.text ++ rest)) (fuel : Nat) :
    parseValue text (fuel + 1) index =
      .ok (.scalar index (index + literal.text.length), index + literal.text.length) := by
  obtain ⟨body, htext⟩ := literal.exists_text_eq
  have hhead : text[index]? = some 0x22 := by
    rw [htext] at h
    exact h.head?
  rw [parseValue, hhead, if_neg (by decide), if_neg (by decide), if_pos rfl, parseString_eq literal h]
  rfl

theorem parseValue_scalar {token rest : List Nat} (hne : token ≠ [])
    (htoken : ∀ unit ∈ token, isScalarUnit unit = true) (h : At text index (token ++ rest))
    (hrest : Ended rest) (fuel : Nat) :
    parseValue text (fuel + 1) index =
      .ok (.scalar index (index + token.length), index + token.length) := by
  have hskip := skipScalar_eq h
    (fun unit hunit => endsScalar_of_isScalarUnit (htoken unit hunit)) hrest
  obtain ⟨unit, tail, rfl⟩ := exists_cons_of_ne_nil hne
  have hhead : text[index]? = some unit := h.head?
  have hunit := htoken unit mem_cons_self
  simp only [isScalarUnit, Bool.and_eq_true, decide_eq_true_eq] at hunit
  obtain ⟨⟨⟨-, hbrace⟩, hbracket⟩, hquote⟩ := hunit
  rw [parseValue, hhead, if_neg (by simpa using hbrace), if_neg (by simpa using hbracket),
    if_neg (by simpa using hquote), hskip]
  rfl

/-- The reader finds a repeated name if there is one, and the spans otherwise, as soon as its bound on
the recursion is not below the length of the text. -/
structure Reads (text : List Nat) (tree : Tree) (index : Nat) : Prop where
  repeats : tree.Repeats → ∃ key, ∀ fuel, 2 * tree.text.length ≤ fuel →
    parseValue text fuel index = .error (.duplicateKey key)
  spans : ¬ tree.Repeats → ∃ span, Matches number text span (tree.value number) ∧
    ∀ fuel, 2 * tree.text.length ≤ fuel →
      parseValue text fuel index = .ok (span, index + tree.text.length)

structure ReadsItems (text : List Nat) (items : Items) (start index : Nat) (done : List JsonSpan) :
    Prop where
  repeats : items.Repeats → ∃ key, ∀ fuel, 2 * items.text.length < fuel →
    parseItems text fuel start (index + items.before.units.length) done =
      .error (.duplicateKey key)
  spans : ¬ items.Repeats → ∃ spans, List.Forall₂ (Matches number text) spans (items.values number) ∧
    ∀ fuel, 2 * items.text.length < fuel →
      parseItems text fuel start (index + items.before.units.length) done =
        .ok (.array start (index + items.text.length + 1) (done ++ spans),
          index + items.text.length + 1)

structure ReadsMembers (text : List Nat) (members : Members) (start index : Nat)
    (done : List (List Nat × JsonSpan)) : Prop where
  repeats : members.Repeats ∨ ¬ (done.map Prod.fst ++ members.names).Nodup →
    ∃ key, ∀ fuel, 2 * members.text.length < fuel →
      parseMembers text fuel start (index + members.before.units.length) done =
        .error (.duplicateKey key)
  spans : ¬ members.Repeats → (done.map Prod.fst ++ members.names).Nodup →
    ∃ spans, List.Forall₂ (fun property member =>
        property.1 = member.1 ∧ Matches number text property.2 member.2)
      spans (members.values number) ∧
    ∀ fuel, 2 * members.text.length < fuel →
      parseMembers text fuel start (index + members.before.units.length) done =
        .ok (.object start (index + members.text.length + 1) (done ++ spans),
          index + members.text.length + 1)

variable {number}

theorem forall_fuel {motive : Nat → Prop} {bound : Nat} (hbound : 0 < bound)
    (h : ∀ fuel, bound ≤ fuel + 1 → motive (fuel + 1)) : ∀ fuel, bound ≤ fuel → motive fuel
  | 0, hfuel => absurd hfuel (Nat.not_le.mpr hbound)
  | fuel + 1, hfuel => h fuel hfuel

theorem reads_scalar {tree : Tree}
    (h : At text index (tree.text ++ rest)) (hrepeats : ¬ tree.Repeats)
    (hitems : ∀ items, tree.value number ≠ .array items)
    (hmembers : ∀ members, tree.value number ≠ .object members)
    (hparse : ∀ fuel, parseValue text (fuel + 1) index =
      .ok (.scalar index (index + tree.text.length), index + tree.text.length)) :
    Reads number text tree index := by
  obtain ⟨unit, tail, htext, -⟩ := exists_tree_text_eq tree
  exact ⟨fun hrepeats' => absurd hrepeats' hrepeats, fun _ => ⟨_,
    .scalar ⟨tree, h.slice.symm, rfl⟩ hitems hmembers,
    forall_fuel (by simp [htext]) fun fuel _ => hparse fuel⟩⟩

theorem reads_array {items : Items}
    (h : At text index ((Tree.array items).text ++ rest))
    (hitems : ReadsItems number text items index (index + 1) []) :
    Reads number text (.array items) index := by
  have hslice := h.slice
  have hopen : At text index (0x5b :: (items.text ++ 0x5d :: rest)) := by
    simpa [Tree.text] using h
  have hhead : text[index]? = some 0x5b := hopen.head?
  obtain ⟨value, tail, htext⟩ := items.exists_text_eq
  have hinner : At text (index + 1) (items.before.units ++ (value.text ++ (tail ++ 0x5d :: rest))) := by
    have := hopen.next
    rwa [htext, append_assoc, append_assoc] at this
  have hskip := skipWhitespace_eq items.before hinner (tight_tree value _)
  obtain ⟨unit, more, hvalue, -, hclose, -⟩ := exists_tree_text_eq value
  have hfirst : text[index + 1 + items.before.units.length]? = some unit := by
    rw [hinner.advance.head?, hvalue]
    rfl
  have hlength : (Tree.array items).text.length = items.text.length + 2 := by simp [Tree.text]
  have hloop : ∀ fuel, parseValue text (fuel + 1) index =
      parseItems text fuel index (index + 1 + items.before.units.length) [] := by
    intro fuel
    rw [parseValue, hhead, if_neg (by decide), if_pos rfl, hskip]
    simp only [hfirst]
    rw [if_neg (by simpa using hclose)]
  refine ⟨fun hrepeats => ?_, fun hrepeats => ?_⟩
  · obtain ⟨key, hkey⟩ := hitems.repeats hrepeats
    refine ⟨key, forall_fuel (by omega) fun fuel hfuel => ?_⟩
    rw [hloop, hkey fuel (by omega)]
  · obtain ⟨spans, hspans, hparse⟩ := hitems.spans hrepeats
    refine ⟨_, .array ⟨.array items, hslice.symm, rfl⟩ hspans.length_eq
      fun span item hmem => (forall₂_iff_zip.mp hspans).2 hmem,
      forall_fuel (by omega) fun fuel hfuel => ?_⟩
    have hstop : index + 1 + items.text.length + 1 = index + (Tree.array items).text.length := by
      omega
    rw [hloop, hparse fuel (by omega), hstop, nil_append]

theorem reads_object (h : At text index ((Tree.object members).text ++ rest))
    (hmembers : ReadsMembers number text members index (index + 1) []) :
    Reads number text (.object members) index := by
  have hslice := h.slice
  have hopen : At text index (0x7b :: (members.text ++ 0x7d :: rest)) := by
    simpa [Tree.text] using h
  have hhead : text[index]? = some 0x7b := hopen.head?
  obtain ⟨name, tail, htext⟩ := members.exists_text_eq
  have hinner : At text (index + 1) (members.before.units ++ (name.text ++ (tail ++ 0x7d :: rest))) := by
    have := hopen.next
    rwa [htext, append_assoc, append_assoc] at this
  have hskip := skipWhitespace_eq members.before hinner (tight_string name _)
  obtain ⟨body, hname⟩ := name.exists_text_eq
  have hfirst : text[index + 1 + members.before.units.length]? = some 0x22 := by
    rw [hinner.advance.head?, hname]
    rfl
  have hlength : (Tree.object members).text.length = members.text.length + 2 := by simp [Tree.text]
  have hloop : ∀ fuel, parseValue text (fuel + 1) index =
      parseMembers text fuel index (index + 1 + members.before.units.length) [] := by
    intro fuel
    rw [parseValue, hhead, if_pos rfl, hskip]
    simp only [hfirst]
    rw [if_neg (by decide)]
  refine ⟨fun hrepeats => ?_, fun hrepeats => ?_⟩
  · obtain ⟨key, hkey⟩ := hmembers.repeats (hrepeats.symm.imp_right id)
    refine ⟨key, forall_fuel (by omega) fun fuel hfuel => ?_⟩
    rw [hloop, hkey fuel (by omega)]
  · obtain ⟨hnames, hrepeats⟩ := not_or.mp hrepeats
    rw [not_not] at hnames
    obtain ⟨spans, hspans, hparse⟩ := hmembers.spans hrepeats hnames
    have hvalue : (Tree.object members).value number = .object (members.values number) := by
      rw [Tree.value, Members.foldl_assign_values number hnames]
    rw [hvalue]
    refine ⟨_, .object ⟨.object members, hslice.symm, hvalue⟩ ?_
      fun property member hmem => ((forall₂_iff_zip.mp hspans).2 hmem).2, fun fuel hfuel => ?_⟩
    · exact Library.map_eq_of_forall₂ hspans fun _ _ hmember => hmember.1.symm
    · obtain ⟨fuel, rfl⟩ : ∃ before, fuel = before + 1 := ⟨fuel - 1, by omega⟩
      have hstop : index + 1 + members.text.length + 1 = index + (Tree.object members).text.length := by
        omega
      rw [hloop, hparse fuel (by omega), hstop, nil_append]

theorem reads_items_last {start index : Nat} {done : List JsonSpan}
    (h : At text index ((Items.last before value after).text ++ 0x5d :: rest))
    (hvalue : Reads number text value (index + before.units.length)) :
    ReadsItems number text (.last before value after) start index done := by
  have hat : At text index (before.units ++ (value.text ++ (after.units ++ 0x5d :: rest))) := by
    simpa [Items.text] using h
  have hindex := lt_length_of_tree value hat.advance
  have hlength : (Items.last before value after).text.length =
      before.units.length + value.text.length + after.units.length := by
    simp [Items.text]
    omega
  refine ⟨fun hrepeats => ?_, fun hrepeats => ?_⟩
  · obtain ⟨key, hkey⟩ := hvalue.repeats hrepeats
    refine ⟨key, forall_fuel (by omega) fun fuel hfuel => ?_⟩
    exact parseItems_error hindex (hkey fuel (by omega))
  · obtain ⟨span, hspan, hparse⟩ := hvalue.spans hrepeats
    refine ⟨[span], .cons hspan .nil, forall_fuel (by omega) fun fuel hfuel => ?_⟩
    have hstop : index + before.units.length + value.text.length + after.units.length =
        index + (Items.last before value after).text.length := by
      omega
    rw [← hstop]
    exact parseItems_last hindex (hparse fuel (by omega)) after hat.advance.advance

theorem reads_items_more {items : Items} {start index : Nat} {done : List JsonSpan}
    (h : At text index ((Items.more before value after items).text ++ 0x5d :: rest))
    (hvalue : Reads number text value (index + before.units.length))
    (hitems : ∀ done, ReadsItems number text items start (index + before.units.length +
      value.text.length + after.units.length + 1) done) :
    ReadsItems number text (.more before value after items) start index done := by
  obtain ⟨next, tail', htext'⟩ := items.exists_text_eq
  have hat : At text index (before.units ++ (value.text ++ (after.units ++ 0x2c ::
      (items.before.units ++ (next.text ++ (tail' ++ 0x5d :: rest)))))) := by
    simpa [Items.text, htext'] using h
  have hindex := lt_length_of_tree value hat.advance
  have hlength : (Items.more before value after items).text.length =
      before.units.length + value.text.length + after.units.length + 1 + items.text.length := by
    simp [Items.text]
    omega
  refine ⟨fun hrepeats => ?_, fun hrepeats => ?_⟩
  · by_cases hfirst : value.Repeats
    · obtain ⟨key, hkey⟩ := hvalue.repeats hfirst
      refine ⟨key, forall_fuel (by omega) fun fuel hfuel => ?_⟩
      exact parseItems_error hindex (hkey fuel (by omega))
    · obtain ⟨span, -, hparse⟩ := hvalue.spans hfirst
      obtain ⟨key, hkey⟩ := (hitems (done ++ [span])).repeats (hrepeats.resolve_left hfirst)
      refine ⟨key, forall_fuel (by omega) fun fuel hfuel => ?_⟩
      exact (parseItems_more hindex (hparse fuel (by omega)) after items.before hat.advance.advance
        (tight_tree next _)).trans (hkey fuel (by omega))
  · obtain ⟨hfirst, hothers⟩ := not_or.mp hrepeats
    obtain ⟨span, hspan, hparse⟩ := hvalue.spans hfirst
    obtain ⟨spans, hspans, hloop⟩ := (hitems (done ++ [span])).spans hothers
    refine ⟨span :: spans, .cons hspan hspans, forall_fuel (by omega) fun fuel hfuel => ?_⟩
    refine (parseItems_more hindex (hparse fuel (by omega)) after items.before hat.advance.advance
        (tight_tree next _)).trans ((hloop fuel (by omega)).trans ?_)
    rw [hlength, append_assoc, singleton_append]
    simp only [← Nat.add_assoc]

theorem not_nodup_of_any {names : List (List Nat)} (h : done.any (·.1 = key) = true) :
    ¬ (done.map Prod.fst ++ key :: names).Nodup := by
  obtain ⟨property, hproperty, hkey⟩ := any_eq_true.mp h
  intro hnodup
  rw [nodup_append] at hnodup
  exact hnodup.2.2 property.1 (mem_map_of_mem hproperty) key mem_cons_self (of_decide_eq_true hkey)

theorem nodup_concat_of_any (span : JsonSpan) (hdone : (done.map Prod.fst).Nodup)
    (h : done.any (·.1 = key) = false) : ((done ++ [(key, span)]).map Prod.fst).Nodup := by
  rw [map_append, nodup_append]
  refine ⟨hdone, by simp, fun name hname other hother heq => ?_⟩
  obtain ⟨property, hproperty, rfl⟩ := mem_map.mp hname
  have hother : other = key := by simpa using hother
  exact absurd (decide_eq_true (heq.trans hother)) (any_eq_false.mp h property hproperty)

theorem reads_members_last {start index : Nat} (hdone : (done.map Prod.fst).Nodup)
    (h : At text index ((Members.last before name colon colon' value after).text ++ 0x7d :: rest))
    (hvalue : Reads number text value (index + before.units.length + name.text.length +
      colon.units.length + 1 + colon'.units.length)) :
    ReadsMembers number text (.last before name colon colon' value after) start index done := by
  have hat : At text index (before.units ++ (name.text ++ (colon.units ++ 0x3a :: (colon'.units ++
      (value.text ++ (after.units ++ 0x7d :: rest)))))) := by
    simpa [Members.text] using h
  have hlength : (Members.last before name colon colon' value after).text.length =
      before.units.length + name.text.length + colon.units.length + 1 + colon'.units.length +
        value.text.length + after.units.length := by
    simp [Members.text]
    omega
  have htight := tight_tree value (after.units ++ 0x7d :: rest)
  by_cases hkey : done.any (·.1 = name.units) = true
  · refine ⟨fun _ => ⟨name.units, forall_fuel (by omega) fun fuel hfuel => ?_⟩,
      fun _ hnodup => absurd hnodup (not_nodup_of_any hkey)⟩
    exact parseMembers_duplicate name hat.advance hkey
  rw [Bool.not_eq_true] at hkey
  refine ⟨fun hrepeats => ?_, fun hrepeats _ => ?_⟩
  · have hrepeats : value.Repeats := by
      refine hrepeats.resolve_right (not_not.mpr ?_)
      have hnodup := nodup_concat_of_any (.scalar 0 0) hdone hkey
      rwa [map_append] at hnodup
    obtain ⟨key, hkey'⟩ := hvalue.repeats hrepeats
    refine ⟨key, forall_fuel (by omega) fun fuel hfuel => ?_⟩
    exact parseMembers_error hat.advance htight hkey rfl (hkey' fuel (by omega))
  · obtain ⟨span, hspan, hparse⟩ := hvalue.spans hrepeats
    refine ⟨[(name.units, span)], .cons ⟨rfl, hspan⟩ .nil,
      forall_fuel (by omega) fun fuel hfuel => ?_⟩
    refine (parseMembers_last hat.advance htight hkey rfl (hparse fuel (by omega))
      hat.advance.advance.advance.next.advance.advance).trans ?_
    rw [hlength]
    simp only [← Nat.add_assoc]

theorem reads_members_more {start index : Nat} (hdone : (done.map Prod.fst).Nodup)
    (h : At text index ((Members.more before name colon colon' value after members).text ++ 0x7d :: rest))
    (hvalue : Reads number text value (index + before.units.length + name.text.length +
      colon.units.length + 1 + colon'.units.length))
    (hmembers : ∀ done : List (List Nat × JsonSpan), (done.map Prod.fst).Nodup →
      ReadsMembers number text members start (index + before.units.length + name.text.length +
      colon.units.length + 1 + colon'.units.length + value.text.length + after.units.length + 1)
      done) :
    ReadsMembers number text (.more before name colon colon' value after members) start index
      done := by
  obtain ⟨next, tail, htext⟩ := members.exists_text_eq
  have hat : At text index (before.units ++ (name.text ++ (colon.units ++ 0x3a :: (colon'.units ++
      (value.text ++ (after.units ++ 0x2c :: (members.before.units ++
        (next.text ++ (tail ++ 0x7d :: rest))))))))) := by
    simpa [Members.text, htext] using h
  have hlength : (Members.more before name colon colon' value after members).text.length =
      before.units.length + name.text.length + colon.units.length + 1 + colon'.units.length +
        value.text.length + after.units.length + 1 + members.text.length := by
    simp [Members.text]
    omega
  have htight := tight_tree value (after.units ++ 0x2c :: (members.before.units ++
    (next.text ++ (tail ++ 0x7d :: rest))))
  by_cases hkey : done.any (·.1 = name.units) = true
  · refine ⟨fun _ => ⟨name.units, forall_fuel (by omega) fun fuel hfuel => ?_⟩,
      fun _ hnodup => absurd hnodup (not_nodup_of_any hkey)⟩
    exact parseMembers_duplicate name hat.advance hkey
  rw [Bool.not_eq_true] at hkey
  have hnames : ∀ span : JsonSpan, (done ++ [(name.units, span)]).map Prod.fst ++ members.names =
      done.map Prod.fst ++ (Members.more before name colon colon' value after members).names := by
    intro span
    simp [Members.names]
  by_cases hfirst : value.Repeats
  · refine ⟨fun _ => ?_, fun hrepeats => absurd (.inl hfirst) hrepeats⟩
    obtain ⟨key, hkey'⟩ := hvalue.repeats hfirst
    refine ⟨key, forall_fuel (by omega) fun fuel hfuel => ?_⟩
    exact parseMembers_error hat.advance htight hkey rfl (hkey' fuel (by omega))
  obtain ⟨span, hspan, hparse⟩ := hvalue.spans hfirst
  have hothers := hmembers (done ++ [(name.units, span)]) (nodup_concat_of_any span hdone hkey)
  have hloop : ∀ fuel, 2 * value.text.length ≤ fuel → parseMembers text (fuel + 1) start
      (index + before.units.length) done = _ := fun fuel hfuel =>
    parseMembers_more hat.advance htight hkey rfl (hparse fuel hfuel)
      hat.advance.advance.advance.next.advance.advance (tight_string next _)
  refine ⟨fun hrepeats => ?_, fun hrepeats hnodup => ?_⟩
  · rw [← hnames span] at hrepeats
    obtain ⟨key, hkey'⟩ := hothers.repeats (hrepeats.imp_left fun h => h.resolve_left hfirst)
    refine ⟨key, forall_fuel (by omega) fun fuel hfuel => ?_⟩
    exact (hloop fuel (by omega)).trans (hkey' fuel (by omega))
  · rw [← hnames span] at hnodup
    obtain ⟨spans, hspans, hrest⟩ := hothers.spans (not_or.mp hrepeats).2 hnodup
    refine ⟨(name.units, span) :: spans, .cons ⟨rfl, hspan⟩ hspans,
      forall_fuel (by omega) fun fuel hfuel => ?_⟩
    refine (hloop fuel (by omega)).trans ((hrest fuel (by omega)).trans ?_)
    rw [hlength, append_assoc, singleton_append]
    simp only [← Nat.add_assoc]

theorem reads_emptyArray (h : At text index ((Tree.emptyArray inner).text ++ rest)) :
    Reads number text (.emptyArray inner) index := by
  have hat : At text index (0x5b :: (inner.units ++ 0x5d :: rest)) := by
    simpa [Tree.text] using h
  have hhead : text[index]? = some 0x5b := hat.head?
  have hskip := skipWhitespace_eq inner hat.next (tight_cons (by decide) _)
  have hclose : text[index + 1 + inner.units.length]? = some 0x5d := hat.next.advance.head?
  have hstop : index + 1 + inner.units.length + 1 =
      index + (Tree.emptyArray inner).text.length := by
    simp [Tree.text]
    omega
  refine ⟨fun hrepeats => hrepeats.elim, fun _ => ?_⟩
  refine ⟨.array index (index + (Tree.emptyArray inner).text.length) [],
    .array ⟨.emptyArray inner, h.slice.symm, rfl⟩ rfl (by simp), fun fuel hfuel => ?_⟩
  obtain ⟨fuel, rfl⟩ : ∃ before, fuel = before + 1 := by
    refine ⟨fuel - 1, ?_⟩
    simp only [Tree.text, cons_append, length_cons] at hfuel
    omega
  rw [parseValue, hhead, if_neg (by decide), if_pos rfl, hskip, ← hstop]
  simp only [hclose, if_true]
  rfl

theorem reads_emptyObject (h : At text index ((Tree.emptyObject inner).text ++ rest)) :
    Reads number text (.emptyObject inner) index := by
  have hat : At text index (0x7b :: (inner.units ++ 0x7d :: rest)) := by
    simpa [Tree.text] using h
  have hhead : text[index]? = some 0x7b := hat.head?
  have hskip := skipWhitespace_eq inner hat.next (tight_cons (by decide) _)
  have hclose : text[index + 1 + inner.units.length]? = some 0x7d := hat.next.advance.head?
  have hstop : index + 1 + inner.units.length + 1 =
      index + (Tree.emptyObject inner).text.length := by
    simp [Tree.text]
    omega
  refine ⟨fun hrepeats => hrepeats.elim, fun _ => ?_⟩
  refine ⟨.object index (index + (Tree.emptyObject inner).text.length) [],
    .object ⟨.emptyObject inner, h.slice.symm, rfl⟩ rfl (by simp), fun fuel hfuel => ?_⟩
  obtain ⟨fuel, rfl⟩ : ∃ before, fuel = before + 1 := by
    refine ⟨fuel - 1, ?_⟩
    simp only [Tree.text, cons_append, length_cons] at hfuel
    omega
  rw [parseValue, hhead, if_pos rfl, hskip, ← hstop]
  simp only [hclose, if_true]
  rfl

mutual

theorem reads_tree : (tree : Tree) → ∀ {index : Nat} {rest : List Nat},
    At text index (tree.text ++ rest) → Ended rest → Reads number text tree index
  | .null, _, _, h, hrest => reads_scalar h id nofun nofun
      (parseValue_scalar (by nofun) (by decide) h hrest)
  | .bool true, _, _, h, hrest => reads_scalar h id nofun nofun
      (parseValue_scalar (by nofun) (by decide) h hrest)
  | .bool false, _, _, h, hrest => reads_scalar h id nofun nofun
      (parseValue_scalar (by nofun) (by decide) h hrest)
  | .number literal, _, _, h, hrest => reads_scalar h id nofun nofun
      (parseValue_scalar literal.text_ne_nil (fun _ => isScalarUnit_of_mem_number) h hrest)
  | .string literal, _, _, h, _ => reads_scalar h id nofun nofun (parseValue_string literal h)
  | .emptyArray _, _, _, h, _ => reads_emptyArray h
  | .emptyObject _, _, _, h, _ => reads_emptyObject h
  | .array items, index, rest, h, _ => by
    have hopen : At text index (0x5b :: (items.text ++ 0x5d :: rest)) := by
      simpa [Tree.text] using h
    exact reads_array h (reads_items items hopen.next)
  | .object members, index, rest, h, _ => by
    have hopen : At text index (0x7b :: (members.text ++ 0x7d :: rest)) := by
      simpa [Tree.text] using h
    exact reads_object h (reads_members members hopen.next (by simp))

theorem reads_items : (items : Items) → ∀ {start index : Nat} {done : List JsonSpan}
    {rest : List Nat}, At text index (items.text ++ 0x5d :: rest) →
      ReadsItems number text items start index done
  | .last before value after, _, index, _, rest, h => by
    have hat : At text index (before.units ++ (value.text ++ (after.units ++ 0x5d :: rest))) := by
      simpa [Items.text] using h
    exact reads_items_last h (reads_tree value hat.advance (ended_white after (by decide) _))
  | .more before value after items, _, index, _, rest, h => by
    have hat : At text index (before.units ++ (value.text ++ (after.units ++ 0x2c ::
        (items.text ++ 0x5d :: rest)))) := by
      simpa [Items.text] using h
    exact reads_items_more h (reads_tree value hat.advance (ended_white after (by decide) _))
      fun _ => reads_items items hat.advance.advance.advance.next

theorem reads_members : (members : Members) → ∀ {start index : Nat}
    {done : List (List Nat × JsonSpan)} {rest : List Nat},
    At text index (members.text ++ 0x7d :: rest) → (done.map Prod.fst).Nodup →
      ReadsMembers number text members start index done
  | .last before name colon colon' value after, _, index, _, rest, h, hdone => by
    have hat : At text index (before.units ++ (name.text ++ (colon.units ++ 0x3a ::
        (colon'.units ++ (value.text ++ (after.units ++ 0x7d :: rest)))))) := by
      simpa [Members.text] using h
    exact reads_members_last hdone h (reads_tree value hat.advance.advance.advance.next.advance
      (ended_white after (by decide) _))
  | .more before name colon colon' value after members, _, index, _, rest, h, hdone => by
    have hat : At text index (before.units ++ (name.text ++ (colon.units ++ 0x3a ::
        (colon'.units ++ (value.text ++ (after.units ++ 0x2c ::
          (members.text ++ 0x7d :: rest))))))) := by
      simpa [Members.text] using h
    exact reads_members_more hdone h
      (reads_tree value hat.advance.advance.advance.next.advance (ended_white after (by decide) _))
      fun _ hdone => reads_members members
        hat.advance.advance.advance.next.advance.advance.advance.next hdone

end

theorem rel_lookup {β : Type} {R : α → β → Prop} {properties : List (List Nat × α)}
    {members : List (List Nat × β)} (hnames : properties.map Prod.fst = members.map Prod.fst)
    (hmembers : ∀ property member, (property, member) ∈ properties.zip members → R property.2 member.2)
    (name : List Nat) : Option.Rel R (properties.lookup name) (members.lookup name) := by
  induction properties generalizing members with
  | nil =>
    obtain rfl : members = [] := by simpa using hnames.symm
    exact .none
  | cons property properties ih =>
    cases members with
    | nil => cases hnames
    | cons member members =>
      obtain ⟨hname, hnames⟩ := cons.inj hnames
      rw [zip_cons_cons] at hmembers
      rw [lookup_cons, lookup_cons, ← hname]
      split
      · exact .some (hmembers property member mem_cons_self)
      · exact ih hnames fun _ _ hmem => hmembers _ _ (mem_cons_of_mem _ hmem)

theorem Matches.member {value : Value ν} (h : Matches number text span value) (name : List Nat) :
    Option.Rel (Matches number text) (objectProperty (some span) name)
      (Value.member (some value) name) := by
  cases h with
  | scalar htext hitems hmembers =>
    cases value with
    | array items => exact absurd rfl (hitems items)
    | object members => exact absurd rfl (hmembers members)
    | _ => exact .none
  | array htext hlength hitems => exact .none
  | object htext hnames hmembers => exact rel_lookup hnames hmembers name

theorem Matches.path {span : Option JsonSpan} {value : Option (Value ν)}
    (h : Option.Rel (Matches number text) span value) (path : List (List Nat)) :
    Option.Rel (Matches number text) (path.foldl objectProperty span)
      (path.foldl Value.member value) := by
  induction path generalizing span value with
  | nil => exact h
  | cons name path ih =>
    apply ih
    cases h with
    | none => exact .none
    | some h => exact h.member name

theorem Matches.isValueText {value : Value ν} (h : Matches number text span value) :
    IsValueText number (sliceText text span.start span.stop) value := by
  cases h with
  | scalar htext => exact htext
  | array htext => exact htext
  | object htext => exact htext

theorem ended_end (white : WhiteSpace) : Ended white.units := by
  intro unit hunit
  have hwhite := white.white unit (mem_of_mem_head? hunit)
  simp [endsScalar, isRegexSpace_of_isWhiteSpace hwhite]

variable (number)

/-- **The spans of a JSON text are exact.** The reader comes to an end. It throws exactly if an object
at some depth has two members of one name, and then only to say so. Otherwise every span cuts out the
text of one JSON value, the one that stands there in the value of the whole text, and a member found
by its names has the length that is then measured. -/
theorem span_parser_exact {text : List Nat} {document : Document} (htext : document.text = text) :
    ∃ result, (∀ fuel, 2 * text.length ≤ fuel → parseSpans text fuel = result) ∧
      ((∃ error, result = .error error) ↔ document.value.Repeats) ∧
      (∀ error, result = .error error → ∃ key, error = .duplicateKey key) ∧
      ∀ span, result = .ok span →
        Matches number text span (document.value.value number) ∧
        ∀ path : List (List Nat), Option.Rel
          (fun property value => Matches number text property value ∧
            ∃ token, IsValueText number token value ∧
              spanByteLength text property = utf8Length token)
          (path.foldl objectProperty (some span))
          (path.foldl Value.member (some (document.value.value number))) := by
  have hat : At text 0 (document.before.units ++ (document.value.text ++ document.after.units)) := by
    rw [← htext, Document.text, append_assoc]
    rfl
  have hskip := skipWhitespace_eq document.before hat (tight_tree _ _)
  have hreads : Reads number text document.value (0 + document.before.units.length) :=
    reads_tree document.value hat.advance (ended_end document.after)
  have hlength : text.length = document.before.units.length + document.value.text.length +
      document.after.units.length := by
    rw [← htext]
    simp [Document.text]
    omega
  by_cases hrepeats : document.value.Repeats
  · obtain ⟨key, hkey⟩ := hreads.repeats hrepeats
    refine ⟨.error (.duplicateKey key), fun fuel hfuel => ?_, ?_, ?_, by nofun⟩
    · rw [parseSpans, hskip, hkey fuel (by omega)]
      rfl
    · exact ⟨fun _ => hrepeats, fun _ => ⟨_, rfl⟩⟩
    · rintro _ ⟨⟩
      exact ⟨key, rfl⟩
  · obtain ⟨span, hspan, hparse⟩ := hreads.spans hrepeats
    refine ⟨.ok span, fun fuel hfuel => ?_, ?_, by nofun, ?_⟩
    · have hafter : At text (0 + document.before.units.length + document.value.text.length)
          (document.after.units ++ []) := by
        rw [append_nil]
        exact hat.advance.advance
      have hend : skipWhitespace text
          (0 + document.before.units.length + document.value.text.length) = text.length := by
        rw [skipWhitespace_eq document.after hafter (by nofun), hlength]
        omega
      rw [parseSpans, hskip, hparse fuel (by omega)]
      simp only [bind, Except.bind, hend]
      rw [if_neg (by simp)]
      rfl
    · constructor
      · rintro ⟨_, ⟨⟩⟩
      · exact fun h => absurd h hrepeats
    · rintro _ ⟨⟩
      refine ⟨hspan, fun path => ?_⟩
      have hpath := Matches.path (.some hspan) path
      generalize path.foldl objectProperty (some span) = property at hpath
      generalize path.foldl Value.member (some (document.value.value number)) = value at hpath
      cases hpath with
      | none => exact .none
      | some hproperty => exact .some ⟨hproperty, _, hproperty.isValueText, rfl⟩

def noSpace : WhiteSpace := ⟨[], by nofun⟩

def oneSpace : WhiteSpace := ⟨[0x20], by decide⟩

def sampleName : StringLiteral := ⟨[0x22, 0x5c, 0x75, 0x30, 0x30, 0x36, 0x31, 0x22], [0x61], by decide⟩

def sampleNumber : NumberLiteral :=
  { negative := true
    integer := ⟨[0x31, 0x32], by decide, by decide⟩
    leading := by decide
    fraction := none
    exponent := none }

def sampleDocument : Document where
  before := oneSpace
  value := .object (.last noSpace sampleName noSpace oneSpace
    (.array (.more noSpace (.number sampleNumber) noSpace (.last oneSpace .null noSpace))) noSpace)
  after := noSpace

def sampleText : List Nat :=
  [0x20, 0x7b, 0x22, 0x5c, 0x75, 0x30, 0x30, 0x36, 0x31, 0x22, 0x3a, 0x20, 0x5b, 0x2d, 0x31, 0x32,
    0x2c, 0x20, 0x6e, 0x75, 0x6c, 0x6c, 0x5d, 0x7d]

theorem sampleDocument_spans_exact :
    sampleDocument.text = sampleText ∧
    ∃ span, (∀ fuel, 48 ≤ fuel → parseSpans sampleText fuel = .ok span) ∧
      Matches NumberLiteral.text sampleText span
        (.object [([0x61], .array [.number [0x2d, 0x31, 0x32], .null])]) := by
  have htext : sampleDocument.text = sampleText := by decide
  have hrepeats : ¬ sampleDocument.value.Repeats := by
    simp [sampleDocument, Tree.Repeats, Members.Repeats, Items.Repeats, Members.names]
  obtain ⟨result, hresult, hthrows, -, hspan⟩ := span_parser_exact NumberLiteral.text htext
  refine ⟨htext, ?_⟩
  cases result with
  | error error => exact absurd (hthrows.mp ⟨error, rfl⟩) hrepeats
  | ok span => exact ⟨span, hresult, (hspan span rfl).1⟩

end RevAgent.Protocol
