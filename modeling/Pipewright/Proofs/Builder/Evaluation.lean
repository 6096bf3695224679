import Pipewright.Number.Digit
import Pipewright.Proofs.Builder.Templates

/-!
# Evaluating literals of a script

The strings of generated source are expressions of the script language.  Here they are
evaluated by the rules of that language, and not as a reader of generated source alone would
read them: all its escapes are known, and a line break inside a template literal denotes a
line feed, however it is written.

What a literal denotes is the string that it was written for, with its expressions spaced.
Only a template literal with a carriage return in its text denotes another string.
-/

namespace Pipewright

namespace Script

open Replay

/-! ## Escapes -/

/-- The character with a code; the codes of surrogates denote none of their own. -/
def character? (code : Nat) : Option Char :=
  if code < 0xd800 ∨ 0xdfff < code ∧ code < 0x110000 then some (Char.ofNat code) else none

/-- A character by a number of hexadecimal digits. -/
def hexadecimal? (width : Nat) (text : List Char) : Option (List Char × List Char) := do
  let code ← numberOfDigits? 16 (text.take width)
  let character ← character? code
  if text.length < width then none else some ([character], text.drop width)

/-- A character by hexadecimal digits up to a closing brace. -/
def braced? (text : List Char) : Option (List Char × List Char) :=
  match text.span (· != '\x7d') with
  | (digits, '\x7d' :: rest) => do
      let code ← numberOfDigits? 16 digits
      let character ← character? code
      some ([character], rest)
  | _ => none

/-- What a backslash and the text behind it denote, and the text after the escape.  A line
break behind a backslash denotes nothing. -/
def escape? : List Char → Option (List Char × List Char)
  | [] => none
  | 'b' :: rest => some (['\x08'], rest)
  | 't' :: rest => some (['\t'], rest)
  | 'n' :: rest => some (['\n'], rest)
  | 'v' :: rest => some (['\x0b'], rest)
  | 'f' :: rest => some (['\x0c'], rest)
  | 'r' :: rest => some (['\r'], rest)
  | 'x' :: rest => hexadecimal? 2 rest
  | 'u' :: '\x7b' :: rest => braced? rest
  | 'u' :: rest => hexadecimal? 4 rest
  | '\r' :: '\n' :: rest => some ([], rest)
  | '\r' :: rest => some ([], rest)
  | '\n' :: rest => some ([], rest)
  | '\u2028' :: rest => some ([], rest)
  | '\u2029' :: rest => some ([], rest)
  | '0' :: rest => if (rest.head?.map Char.isDigit).getD false then none else some (['\x00'], rest)
  | character :: rest => if character.isDigit then none else some ([character], rest)

/-! ## Literals -/

/-- The rest of a string between double quotes, which holds no bare line break. -/
def quoted? (text : List Char) : Option (List Char × List Char) :=
  match text with
  | [] => none
  | '"' :: rest => some ([], rest)
  | '\n' :: _ => none
  | '\r' :: _ => none
  | '\\' :: escaped => do
      let (denoted, rest) ← escape? escaped
      let onward ← advance? escaped rest
      let (content, rest) ← quoted? onward.val
      some (denoted ++ content, rest)
  | character :: rest => do
      let (content, rest) ← quoted? rest
      some (character :: content, rest)
termination_by text.length

/-- A call of the expression helper on a string: it denotes an expression. -/
def call? (helper text : List Char) : Option (List Char × List Char) :=
  if (helper ++ ['(', '"']).isPrefixOf text then do
    let (body, rest) ← quoted? (text.drop (helper.length + 2))
    match rest with
    | ')' :: rest => some (expressionText (String.ofList body), rest)
    | _ => none
  else none

mutual

/-- A string, a template or a call of the expression helper: what it denotes, and the text
after it. -/
def expression? (helper text : List Char) : Option (List Char × List Char) :=
  match text with
  | '"' :: rest => quoted? rest
  | '\x60' :: rest => template? helper rest
  | text => call? helper text
termination_by text.length

/-- The rest of a template literal. -/
def template? (helper text : List Char) : Option (List Char × List Char) :=
  match text with
  | [] => none
  | '\x60' :: rest => some ([], rest)
  | '$' :: '\x7b' :: inside => do
      match ← expression? helper inside with
      | (denoted, '\x7d' :: rest) => do
          let onward ← advance? inside rest
          let (content, rest) ← template? helper onward.val
          some (denoted ++ content, rest)
      | _ => none
  | '\\' :: escaped => do
      let (denoted, rest) ← escape? escaped
      let onward ← advance? escaped rest
      let (content, rest) ← template? helper onward.val
      some (denoted ++ content, rest)
  | '\r' :: '\n' :: rest => template? helper ('\n' :: rest)
  | '\r' :: rest => do
      let (content, rest) ← template? helper rest
      some ('\n' :: content, rest)
  | character :: rest => do
      let (content, rest) ← template? helper rest
      some (character :: content, rest)
termination_by text.length

end

/-- What a literal denotes that is the whole text. -/
def evaluate? (helper text : List Char) : Option (List Char) :=
  match expression? helper text with
  | some (denoted, []) => some denoted
  | _ => none

variable {helper rest : List Char} {character : Char}

/-! ## Strings between double quotes -/

theorem quoted?_escaped {escaped : List Char} (read : escape? escaped = some ([character], rest))
    (shorter : rest.length < escaped.length) :
    quoted? ('\\' :: escaped) =
      (quoted? rest).map fun (content, rest) => (character :: content, rest) := by
  rw [quoted?, read]
  simp only [Option.bind_eq_bind, Option.bind_some, advance?_of_lt shorter, Option.map_eq_bind]
  rfl

theorem quoted?_plain (noQuote : character ≠ '"') (noBackslash : character ≠ '\\')
    (noFeed : character ≠ '\n') (noReturn : character ≠ '\r') (rest : List Char) :
    quoted? (character :: rest) =
      (quoted? rest).map fun (content, rest) => (character :: content, rest) := by
  rw [quoted?, Option.map_eq_bind]
  · rfl
  all_goals assumption

theorem character?_toNat (character : Char) : character? character.toNat = some character := by
  have valid : character.toNat < 0xd800 ∨
      0xdfff < character.toNat ∧ character.toNat < 0x110000 := character.valid
  rw [character?, if_pos valid, Char.ofNat_toNat]

theorem digitValue?_hexDigit : ∀ digit < 16, digitValue? 16 (Json.hexDigit digit) = some digit := by
  decide

theorem escape?_control (control : character.toNat < 32) (rest : List Char) :
    escape? ('u' :: '0' :: '0' :: Json.hexDigit (character.toNat / 16) ::
      Json.hexDigit (character.toNat % 16) :: rest) = some ([character], rest) := by
  have zero : digitValue? 16 '0' = some 0 := by decide
  have high := digitValue?_hexDigit (character.toNat / 16) (by omega)
  have low := digitValue?_hexDigit (character.toNat % 16) (by omega)
  have code : numberOfDigits? 16 ['0', '0', Json.hexDigit (character.toNat / 16),
      Json.hexDigit (character.toNat % 16)] = some character.toNat := by
    simp [numberOfDigits?, zero, high, low, Nat.div_add_mod]
  change hexadecimal? 4 _ = _
  simp [hexadecimal?, code, character?_toNat]

theorem quoted?_escapeChar (character : Char) (rest : List Char) :
    quoted? (Json.escapeChar character ++ rest) =
      (quoted? rest).map fun (content, rest) => (character :: content, rest) := by
  unfold Json.escapeChar
  split
  case h_8 other noQuote noBackslash _ _ noFeed noReturn _ =>
      split
      · next control => exact quoted?_escaped (escape?_control control rest) (by simp; omega)
      · next printable => exact quoted?_plain noQuote noBackslash noFeed noReturn rest
  all_goals exact quoted?_escaped rfl (by simp)

theorem quoted?_quoted (text rest : List Char) :
    quoted? (text.flatMap Json.escapeChar ++ '"' :: rest) = some (text, rest) := by
  induction text with
  | nil => rw [List.flatMap_nil, List.nil_append, quoted?]
  | cons character text inner =>
      rw [List.flatMap_cons, List.append_assoc, quoted?_escapeChar, inner]
      rfl

/-! ## Calls of the helper -/

theorem call?_expressionCall {config : EmitterConfig} (body rest : List Char) :
    call? config.expressionHelper.toList
        (Emitter.expressionCall config (trimBlanks body) ++ rest) =
      some (Expression.openMark ++ Expression.spaceBody body ++ Expression.closeMark, rest) := by
  have written : Emitter.expressionCall config (trimBlanks body) ++ rest =
      (config.expressionHelper.toList ++ ['(', '"']) ++
        ((trimBlanks body).flatMap Json.escapeChar ++ '"' :: ')' :: rest) := by
    simp [Emitter.expressionCall, Json.quoteChars]
  rw [written, call?, if_pos (List.isPrefixOf_iff_prefix.mpr (List.prefix_append _ _)),
    List.drop_left' (by simp), quoted?_quoted]
  simp only [Option.bind_eq_bind, Option.bind_some, expressionText_eq]

/-- The name of the helper is not taken for a literal. -/
def OpensNoLiteral (helper : List Char) : Prop :=
  ∀ rest, helper ≠ '"' :: rest ∧ helper ≠ '\x60' :: rest

theorem expression?_expressionCall {config : EmitterConfig}
    (opensNoLiteral : OpensNoLiteral config.expressionHelper.toList) (body rest : List Char) :
    expression? config.expressionHelper.toList
        (Emitter.expressionCall config (trimBlanks body) ++ rest) =
      some (Expression.openMark ++ Expression.spaceBody body ++ Expression.closeMark, rest) := by
  have call := @call?_expressionCall config body rest
  have opens : ∀ more,
      Emitter.expressionCall config (trimBlanks body) ++ rest ≠ '"' :: more ∧
        Emitter.expressionCall config (trimBlanks body) ++ rest ≠ '\x60' :: more := by
    intro more
    unfold Emitter.expressionCall
    cases named : config.expressionHelper.toList with
    | nil => simp
    | cons first letters =>
        rw [named] at opensNoLiteral
        obtain ⟨noQuote, noBackquote⟩ := opensNoLiteral letters
        simp_all
  generalize Emitter.expressionCall config (trimBlanks body) ++ rest = written at call opens
  rw [expression?.eq_def]
  split
  · next more => exact absurd rfl (opens more).1
  · next more => exact absurd rfl (opens more).2
  · exact call

/-! ## Template literals -/

theorem template?_escaped {escaped : List Char} (read : escape? escaped = some ([character], rest))
    (shorter : rest.length < escaped.length) :
    template? helper ('\\' :: escaped) =
      (template? helper rest).map fun (content, rest) => (character :: content, rest) := by
  rw [template?, read]
  simp only [Option.bind_eq_bind, Option.bind_some, advance?_of_lt shorter, Option.map_eq_bind]
  rfl

theorem template?_plain (noBackslash : character ≠ '\\') (noBackquote : character ≠ '\x60')
    (noReturn : character ≠ '\r') (noHole : character = '$' → ∀ more, rest ≠ '\x7b' :: more) :
    template? helper (character :: rest) =
      (template? helper rest).map fun (content, rest) => (character :: content, rest) := by
  rw [template?, Option.map_eq_bind]
  · rfl
  · exact noBackquote
  · intro more dollar same
    exact noHole dollar more same
  · exact noBackslash
  · intro more return_ _
    exact noReturn return_
  · exact noReturn

theorem template?_return_feed (rest : List Char) :
    template? helper ('\r' :: '\n' :: rest) = template? helper ('\n' :: rest) := by
  rw [template?]

theorem template?_return (noFeed : ∀ more, rest ≠ '\n' :: more) :
    template? helper ('\r' :: rest) =
      (template? helper rest).map fun (content, rest) => ('\n' :: content, rest) := by
  rw [template?, Option.map_eq_bind]
  · rfl
  · exact noFeed

/-- The text with every line break written as a line feed. -/
def unifyBreaks : List Char → List Char
  | [] => []
  | '\r' :: rest =>
      if rest.head? = some '\n' then unifyBreaks rest else '\n' :: unifyBreaks rest
  | character :: rest => character :: unifyBreaks rest

/-- Escaped text denotes the text with its line breaks unified, where neither a brace nor a
line feed is behind it. -/
theorem template?_escapeTemplate {content : List Char} (noBrace : ∀ more, rest ≠ '\x7b' :: more)
    (noFeed : ∀ more, rest ≠ '\n' :: more) :
    template? helper (Emitter.escapeTemplate content ++ rest) =
      (template? helper rest).map fun (text, rest) => (unifyBreaks content ++ text, rest) := by
  fun_induction Emitter.escapeTemplate content with
  | case1 => simp [unifyBreaks]
  | case2 others inner =>
      rw [List.cons_append, List.cons_append, template?_escaped rfl (by simp), inner,
        Option.map_map]
      rfl
  | case3 others inner =>
      rw [List.cons_append, List.cons_append, template?_escaped rfl (by simp), inner,
        Option.map_map]
      rfl
  | case4 others inner =>
      rw [List.cons_append, List.cons_append, List.cons_append,
        template?_escaped rfl (by simp),
        template?_plain (by decide) (by decide) (by decide) (by simp), inner, Option.map_map,
        Option.map_map]
      rfl
  | case5 character others noBackslash noBackquote noHole inner =>
      by_cases break_ : character = '\r'
      · -- with a line feed behind it, it denotes nothing of its own, and `inner` has the line feed
        subst break_
        by_cases feed : others.head? = some '\n'
        · obtain ⟨more, rfl⟩ := List.head?_eq_some_iff.mp feed
          have opens : Emitter.escapeTemplate ('\n' :: more) =
              '\n' :: Emitter.escapeTemplate more := rfl
          rw [opens, List.cons_append] at inner
          rw [opens, List.cons_append, List.cons_append, template?_return_feed, inner,
            unifyBreaks, if_pos feed]
        · have noFeedInside : ∀ more, others ≠ '\n' :: more := by
            rintro more rfl
            exact feed rfl
          rw [List.cons_append,
            template?_return (escapeTemplate_ne (by decide) noFeedInside noFeed), inner,
            Option.map_map, unifyBreaks, if_neg feed]
          rfl
      · -- a dollar sign that stays as it is has no brace behind it, escaped or not
        have plain : character = '$' →
            ∀ more, Emitter.escapeTemplate others ++ rest ≠ '\x7b' :: more := by
          intro dollar
          exact escapeTemplate_ne (by decide) (fun more same => noHole more dollar same) noBrace
        have kept : unifyBreaks (character :: others) = character :: unifyBreaks others := by
          rw [unifyBreaks]
          exact break_
        rw [List.cons_append, template?_plain noBackslash noBackquote break_ plain, inner,
          Option.map_map, kept]
        rfl

theorem template?_expression {config : EmitterConfig}
    (opensNoLiteral : OpensNoLiteral config.expressionHelper.toList) (body rest : List Char) :
    template? config.expressionHelper.toList
        (Emitter.templateSegment config (.expression (trimBlanks body)) ++ rest) =
      (template? config.expressionHelper.toList rest).map fun (text, rest) =>
        (Expression.openMark ++ Expression.spaceBody body ++ Expression.closeMark ++ text,
          rest) := by
  have written : Emitter.templateSegment config (.expression (trimBlanks body)) ++ rest =
      '$' :: '\x7b' :: (Emitter.expressionCall config (trimBlanks body) ++ '\x7d' :: rest) := by
    simp [Emitter.templateSegment]
  have shorter : rest.length <
      (Emitter.expressionCall config (trimBlanks body) ++ '\x7d' :: rest).length := by
    simp only [List.length_append, List.length_cons]
    omega
  rw [written, template?, expression?_expressionCall opensNoLiteral]
  simp only [Option.bind_eq_bind, Option.bind_some, advance?_of_lt shorter, Option.map_eq_bind]
  rfl

/-- What is written behind a text opens neither with a brace nor with a line feed. -/
theorem opening_ne (config : EmitterConfig) (holes : List (List Char × List Char)) :
    let behind := (holes.flatMap fun hole =>
      Emitter.templateSegment config (.expression (trimBlanks hole.1)) ++
        Emitter.escapeTemplate hole.2) ++ ['\x60']
    (∀ more, behind ≠ '\x7b' :: more) ∧ ∀ more, behind ≠ '\n' :: more := by
  cases holes with
  | nil => simp
  | cons hole holes => simp [Emitter.templateSegment]

/-- A template literal denotes its expressions spaced and its texts with their line breaks
unified. -/
theorem template?_holes {config : EmitterConfig}
    (opensNoLiteral : OpensNoLiteral config.expressionHelper.toList)
    (holes : List (List Char × List Char)) :
    template? config.expressionHelper.toList
        ((holes.flatMap fun hole =>
          Emitter.templateSegment config (.expression (trimBlanks hole.1)) ++
            Emitter.escapeTemplate hole.2) ++ ['\x60']) =
      some (holes.flatMap fun hole =>
        Expression.openMark ++ Expression.spaceBody hole.1 ++ Expression.closeMark ++
          unifyBreaks hole.2, []) := by
  induction holes with
  | nil =>
      rw [List.flatMap_nil, List.nil_append, template?]
      rfl
  | cons hole holes inner =>
      obtain ⟨body, text⟩ := hole
      obtain ⟨noBrace, noFeed⟩ := opening_ne config holes
      rw [List.flatMap_cons, List.append_assoc, List.append_assoc,
        template?_expression opensNoLiteral, template?_escapeTemplate noBrace noFeed, inner]
      simp

end Script

namespace Expression.Decomposition

/-- Rewrite every text between the expressions. -/
def mapTexts (rewrite : List Char → List Char) (decomposition : Decomposition) : Decomposition :=
  ⟨rewrite decomposition.lead, decomposition.holes.map fun (body, after) => (body, rewrite after)⟩

end Expression.Decomposition

namespace Script

open Expression

/-- What the literal for a string denotes: the string with its expressions spaced, and with
the line breaks around them unified. -/
def denoted (text : List Char) : List Char :=
  if containsExpression text then
    (((decompose text).mapTexts unifyBreaks).mapBodies spaceBody).assemble
  else text

variable {config : EmitterConfig}

theorem evaluate?_template (opensNoLiteral : OpensNoLiteral config.expressionHelper.toList)
    (text : List Char) :
    evaluate? config.expressionHelper.toList
        ('\x60' :: (segments text).flatMap (Emitter.templateSegment config) ++ ['\x60']) =
      some (((decompose text).mapTexts unifyBreaks).mapBodies spaceBody).assemble := by
  obtain ⟨noBrace, noFeed⟩ := opening_ne config (decompose text).holes
  rw [evaluate?, List.cons_append, expression?, segments, Replay.flatMap_templateSegment,
    List.append_assoc, template?_escapeTemplate noBrace noFeed, template?_holes opensNoLiteral]
  simp [Decomposition.mapTexts, Decomposition.mapBodies, Decomposition.assemble,
    List.flatMap_map]

theorem evaluate?_stringLiteral (opensNoLiteral : OpensNoLiteral config.expressionHelper.toList)
    (text : List Char) :
    evaluate? config.expressionHelper.toList (Emitter.stringLiteral config text) =
      some (denoted text) := by
  unfold Emitter.stringLiteral denoted
  by_cases contains : containsExpression text = true
  · rw [contains]
    simp only [Bool.not_true, Bool.false_eq_true, if_false, if_true]
    cases whole : wholeExpression? text with
    | none => exact evaluate?_template opensNoLiteral text
    | some body =>
        obtain ⟨inside, parts, rfl⟩ := Replay.decompose_of_wholeExpression? whole
        have evaluated := expression?_expressionCall opensNoLiteral inside []
        rw [List.append_nil] at evaluated
        rw [evaluate?, evaluated, parts]
        simp [Decomposition.mapTexts, Decomposition.mapBodies, Decomposition.assemble,
          unifyBreaks]
  · rw [Bool.not_eq_true] at contains
    rw [contains]
    have evaluated := quoted?_quoted text []
    simp [evaluate?, Json.quoteChars, expression?, evaluated]

/-! ## Carriage returns -/

theorem return_not_mem_unifyBreaks (text : List Char) : '\r' ∉ unifyBreaks text := by
  fun_induction unifyBreaks text with
  | case1 => exact List.not_mem_nil
  | case2 rest feed inner => exact inner
  | case3 rest noFeed inner => simp [inner]
  | case4 character rest noReturn inner =>
      have different : '\r' ≠ character := fun same => noReturn same.symm
      simp [inner, different]

theorem unifyBreaks_of_not_mem {text : List Char} (noReturn : '\r' ∉ text) :
    unifyBreaks text = text := by
  fun_induction unifyBreaks text with
  | case1 => rfl
  | case2 rest feed inner => simp at noReturn
  | case3 rest noFeed inner => simp at noReturn
  | case4 character rest _ inner =>
      rw [inner fun among => noReturn (List.mem_cons_of_mem _ among)]

/-- The carriage returns of a string stand in its texts and in its expressions. -/
theorem count_return_assemble (parts : Decomposition) :
    parts.assemble.count '\r' =
      (parts.lead ++ parts.holes.flatMap (·.2)).count '\r' +
        (parts.holes.flatMap (·.1)).count '\r' := by
  obtain ⟨lead, holes⟩ := parts
  have counted : (holes.flatMap fun (body, text) =>
      openMark ++ body ++ closeMark ++ text).count '\r' =
        (holes.flatMap (·.2)).count '\r' + (holes.flatMap (·.1)).count '\r' := by
    induction holes with
    | nil => rfl
    | cons hole holes inner =>
        have marks : openMark.count '\r' = 0 ∧ closeMark.count '\r' = 0 := by decide
        simp only [List.flatMap_cons, List.count_append, inner, marks]
        omega
  rw [Decomposition.assemble, List.count_append, counted, List.count_append, Nat.add_assoc]

/-- Unifying the line breaks changes nothing exactly if there is no carriage return. -/
theorem assemble_mapTexts_eq_iff (parts : Decomposition) :
    ((parts.mapTexts unifyBreaks).mapBodies spaceBody).assemble =
        (parts.mapBodies spaceBody).assemble ↔
      '\r' ∉ parts.lead ∧ ∀ hole ∈ parts.holes, '\r' ∉ hole.2 := by
  constructor
  · intro same
    -- the bodies hold as many on both sides, and the unified texts hold none
    have counts := congrArg (List.count '\r') same
    have unified : (unifyBreaks parts.lead ++
        parts.holes.flatMap fun hole => unifyBreaks hole.2).count '\r' = 0 := by
      simp [List.count_eq_zero, return_not_mem_unifyBreaks]
    rw [count_return_assemble, count_return_assemble] at counts
    simp only [Decomposition.mapBodies, Decomposition.mapTexts, List.map_map, Function.comp_def,
      List.flatMap_map, unified] at counts
    have none : (parts.lead ++ parts.holes.flatMap (·.2)).count '\r' = 0 := by omega
    simpa [List.count_eq_zero] using none
  · rintro ⟨lead, holes⟩
    have texts : (parts.holes.map fun hole => (hole.1, unifyBreaks hole.2)) =
        parts.holes.map id := by
      apply List.map_congr_left
      intro hole among
      rw [unifyBreaks_of_not_mem (holes hole among)]
      rfl
    rw [Decomposition.mapTexts, unifyBreaks_of_not_mem lead, texts, List.map_id]

end Script

open Script Expression

/-- The literal for a string denotes the string with its expressions spaced and with the line
breaks around its expressions unified.  So it denotes the string itself but for the spacing,
exactly if no carriage return stands in a text beside an expression. -/
theorem scalarLiteral_denotes {config : EmitterConfig}
    (opensNoLiteral : OpensNoLiteral config.expressionHelper.toList) (text : String) :
    let literal := Emitter.scalarLiteral config (.string text)
    let parts := decompose text.toList
    evaluate? config.expressionHelper.toList literal = some (denoted text.toList) ∧
      (evaluate? config.expressionHelper.toList literal =
          some (Canonical.spaceExpressions text.toList) ↔
        (containsExpression text.toList = true →
          '\r' ∉ parts.lead ∧ ∀ hole ∈ parts.holes, '\r' ∉ hole.2)) := by
  intro literal parts
  have evaluated : evaluate? config.expressionHelper.toList literal =
      some (denoted text.toList) := evaluate?_stringLiteral opensNoLiteral text.toList
  refine ⟨evaluated, ?_⟩
  rw [evaluated, Option.some_inj, denoted]
  by_cases contains : containsExpression text.toList = true
  · rw [if_pos contains, Canonical.spaceExpressions, assemble_mapTexts_eq_iff]
    exact ⟨fun clean _ => clean, fun clean => clean contains⟩
  · have noHoles : (decompose text.toList).holes = [] := by
      simpa [containsExpression] using contains
    rw [if_neg contains, Canonical.spaceExpressions_of_no_holes noHoles]
    exact ⟨fun _ holds => absurd holds contains, fun _ => rfl⟩

theorem opensNoLiteral_standard :
    OpensNoLiteral EmitterConfig.standard.expressionHelper.toList := by
  simp [OpensNoLiteral, EmitterConfig.standard]

/-- A backslash, a backquote, an expression, and what would open another one. -/
theorem scalarLiteral_denotes_marks :
    let text := "\\\x60$\x7b\x7bb\x7d\x7d$\x7b"
    OpensNoLiteral EmitterConfig.standard.expressionHelper.toList ∧
      evaluate? EmitterConfig.standard.expressionHelper.toList
          (Emitter.scalarLiteral EmitterConfig.standard (.string text)) =
        some "\\\x60$\x7b\x7b b \x7d\x7d$\x7b".toList := by
  intro text
  have parts : decompose text.toList = ⟨['\\', '\x60'], [(['b'], ['$', '\x7b'])]⟩ := by
    have chars : text.toList =
        ['\\', '\x60', '$', '\x7b', '\x7b', 'b', '\x7d', '\x7d', '$', '\x7b'] := by decide
    have found : expressionAt? ['$', '\x7b', '\x7b', 'b', '\x7d', '\x7d', '$', '\x7b'] =
        some (['b'], ['$', '\x7b']) := by decide
    rw [chars, decompose_of_text (by decide), decompose_of_text (by decide),
      decompose_of_expression found, decompose_of_text (by decide),
      decompose_of_text (by decide), decompose_nil]
    rfl
  obtain ⟨_, itself⟩ := scalarLiteral_denotes opensNoLiteral_standard text
  refine ⟨opensNoLiteral_standard, ?_⟩
  rw [itself.mpr (by rw [parts]; simp), Canonical.spaceExpressions, parts]
  decide

/-- A carriage return before an expression is lost. -/
theorem scalarLiteral_denotes_return :
    let text := "a\r$\x7b\x7b b \x7d\x7d"
    evaluate? EmitterConfig.standard.expressionHelper.toList
          (Emitter.scalarLiteral EmitterConfig.standard (.string text)) =
        some "a\n$\x7b\x7b b \x7d\x7d".toList ∧
      Canonical.spaceExpressions text.toList = text.toList := by
  intro text
  have parts : decompose text.toList = ⟨['a', '\r'], [([' ', 'b', ' '], [])]⟩ := by
    have chars : text.toList =
        ['a', '\r', '$', '\x7b', '\x7b', ' ', 'b', ' ', '\x7d', '\x7d'] := by decide
    have found : expressionAt? ['$', '\x7b', '\x7b', ' ', 'b', ' ', '\x7d', '\x7d'] =
        some ([' ', 'b', ' '], []) := by decide
    rw [chars, decompose_of_text (by decide), decompose_of_text (by decide),
      decompose_of_expression found, decompose_nil]
    rfl
  have evaluated := evaluate?_stringLiteral opensNoLiteral_standard text.toList
  change evaluate? EmitterConfig.standard.expressionHelper.toList
    (Emitter.stringLiteral EmitterConfig.standard text.toList) = _ ∧ _
  rw [evaluated, denoted, containsExpression, Canonical.spaceExpressions, parts]
  decide

end Pipewright
