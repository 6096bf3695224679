import Pipewright.Unicode.Blank

/-!
# Tokens between blanks

The tokens of a text are the longest runs without blanks.  A blank separates what
stands before it from what stands behind it; everything else about tokens follows
from that.
-/

namespace Pipewright

/-- A token is not empty and holds no blanks. -/
def IsToken (token : List Char) : Prop :=
  token ≠ [] ∧ ∀ character ∈ token, isBlank character = false

theorem blankTokens_cons_blank {blank : Char} (isBlank_blank : isBlank blank = true)
    (text : List Char) : blankTokens (blank :: text) = blankTokens text := by
  rw [blankTokens, if_pos isBlank_blank]

/-- A text that starts with a token has a first token, which is a beginning of
it. -/
theorem blankTokens_cons_visible {character : Char} (visible : isBlank character = false)
    (text : List Char) :
    ∃ word others, blankTokens (character :: text) = (character :: word) :: others ∧
      (character :: word) <+: character :: text := by
  induction text generalizing character with
  | nil => exact ⟨[], [], by simp [blankTokens, visible, consToken], List.prefix_refl _⟩
  | cons next rest inner =>
      by_cases nextBlank : isBlank next = true
      · refine ⟨[], blankTokens (next :: rest), ?_, ?_⟩
        · rw [blankTokens]
          simp [visible, nextBlank, consToken]
        · exact ⟨next :: rest, rfl⟩
      · have nextVisible : isBlank next = false := Bool.eq_false_iff.mpr nextBlank
        obtain ⟨word, others, tokens, begins⟩ := inner nextVisible
        refine ⟨next :: word, others, ?_, List.cons_prefix_cons.mpr ⟨rfl, begins⟩⟩
        rw [blankTokens, tokens]
        simp [visible, nextVisible, consToken]

/-- A blank separates the tokens before it from those behind it. -/
theorem blankTokens_append_blank {blank : Char} (isBlank_blank : isBlank blank = true)
    (before behind : List Char) :
    blankTokens (before ++ blank :: behind) = blankTokens before ++ blankTokens behind := by
  induction before with
  | nil => exact blankTokens_cons_blank isBlank_blank behind
  | cons character rest inner =>
      rw [List.cons_append, blankTokens, blankTokens, inner]
      by_cases blankFirst : isBlank character = true
      · simp [blankFirst]
      · cases rest with
        | nil => simp [blankFirst, isBlank_blank, consToken, blankTokens]
        | cons next rest =>
            by_cases nextBlank : isBlank next = true
            · simp [blankFirst, nextBlank, consToken]
            · have nextVisible : isBlank next = false := Bool.eq_false_iff.mpr nextBlank
              obtain ⟨word, others, tokens, _⟩ := blankTokens_cons_visible nextVisible rest
              simp [blankFirst, nextVisible, tokens, consToken]

theorem blankTokens_append_blanks {blanks : List Char}
    (allBlank : ∀ character ∈ blanks, isBlank character = true) (text : List Char) :
    blankTokens (text ++ blanks) = blankTokens text := by
  induction blanks generalizing text with
  | nil => rw [List.append_nil]
  | cons blank rest inner =>
      have restBlank : ∀ character ∈ rest, isBlank character = true :=
        fun character member => allBlank character (List.mem_cons_of_mem _ member)
      have none := inner restBlank []
      rw [List.nil_append] at none
      rw [blankTokens_append_blank (allBlank blank List.mem_cons_self), none]
      exact List.append_nil _

theorem blankTokens_blanks_append {blanks : List Char}
    (allBlank : ∀ character ∈ blanks, isBlank character = true) (text : List Char) :
    blankTokens (blanks ++ text) = blankTokens text := by
  induction blanks with
  | nil => rfl
  | cons blank rest inner =>
      rw [List.cons_append, blankTokens_cons_blank (allBlank blank List.mem_cons_self)]
      exact inner fun character member => allBlank character (List.mem_cons_of_mem _ member)

theorem blankTokens_of_isToken {token : List Char} (isToken : IsToken token) :
    blankTokens token = [token] := by
  obtain ⟨nonempty, visible⟩ := isToken
  induction token with
  | nil => exact absurd rfl nonempty
  | cons character rest inner =>
      have first := visible character List.mem_cons_self
      have others : ∀ other ∈ rest, isBlank other = false :=
        fun other member => visible other (List.mem_cons_of_mem _ member)
      cases rest with
      | nil => simp [blankTokens, first, consToken]
      | cons next rest =>
          have second := others next List.mem_cons_self
          rw [blankTokens, inner (List.cons_ne_nil _ _) others]
          simp [first, second, consToken]

/-! ## What tokens are made of -/

private theorem mem_consToken {character : Char} {joined : Bool}
    {tokens : List (List Char)} {token : List Char}
    (member : token ∈ consToken character joined tokens) :
    token = [character] ∨ token ∈ tokens ∨ ∃ other ∈ tokens, token = character :: other := by
  unfold consToken at member
  split at member
  · rcases List.mem_cons.mp member with same | later
    · exact .inr (.inr ⟨_, List.mem_cons_self, same⟩)
    · exact .inr (.inl (List.mem_cons_of_mem _ later))
  · rcases List.mem_cons.mp member with same | later
    · exact .inl same
    · exact .inr (.inl later)

theorem isToken_of_mem_blankTokens {text token : List Char}
    (member : token ∈ blankTokens text) : IsToken token := by
  induction text generalizing token with
  | nil => cases member
  | cons character rest inner =>
      rw [blankTokens] at member
      split at member
      · exact inner member
      · next visible =>
          have first : isBlank character = false := Bool.eq_false_iff.mpr visible
          rcases mem_consToken member with same | later | ⟨other, later, same⟩
          · subst same
            exact ⟨List.cons_ne_nil _ _, by simp [first]⟩
          · exact inner later
          · subst same
            have otherVisible := (inner later).2
            refine ⟨List.cons_ne_nil _ _, ?_⟩
            intro inside place
            rcases List.mem_cons.mp place with same | behind
            · exact same ▸ first
            · exact otherVisible inside behind

/-- Only the first token takes in the character that is added. -/
private theorem mem_of_mem_tail_consToken {character : Char} {joined : Bool}
    {tokens others : List (List Char)} {first token : List Char}
    (added : consToken character joined tokens = first :: others) (member : token ∈ others) :
    token ∈ tokens := by
  unfold consToken at added
  split at added
  · cases added
    exact List.mem_cons_of_mem _ member
  · cases added
    exact member

theorem infix_of_mem_blankTokens {text token : List Char}
    (member : token ∈ blankTokens text) : token <:+: text := by
  induction text generalizing token with
  | nil => cases member
  | cons character rest inner =>
      by_cases blankFirst : isBlank character = true
      · rw [blankTokens_cons_blank blankFirst] at member
        exact (inner member).trans (List.infix_cons (List.infix_refl rest))
      · have visible : isBlank character = false := Bool.eq_false_iff.mpr blankFirst
        obtain ⟨word, others, tokens, begins⟩ := blankTokens_cons_visible visible rest
        rw [tokens] at member
        rcases List.mem_cons.mp member with same | later
        · exact same ▸ begins.isInfix
        · rw [blankTokens, if_neg blankFirst] at tokens
          have tail : token ∈ blankTokens rest := mem_of_mem_tail_consToken tokens later
          exact (inner tail).trans (List.infix_cons (List.infix_refl rest))

/-- Tokens with a blank behind each are the tokens of that text. -/
theorem blankTokens_flatMap {tokens : List (List Char)}
    (areTokens : ∀ token ∈ tokens, IsToken token) :
    (blankTokens (tokens.flatMap fun token => token ++ [' '])) = tokens := by
  induction tokens with
  | nil => rfl
  | cons token rest inner =>
      have first := blankTokens_of_isToken (areTokens token List.mem_cons_self)
      have others := inner fun other member => areTokens other (List.mem_cons_of_mem _ member)
      rw [List.flatMap_cons, List.append_assoc, List.singleton_append,
        blankTokens_append_blank (by decide), first, others]
      rfl

/-! ## Joining tokens -/

/-- Tokens joined by a separator, with the separator behind the last one as well. -/
theorem intercalate_append_separator {α : Type} (separator : List α) {tokens : List (List α)}
    (some_token : tokens ≠ []) :
    separator.intercalate tokens ++ separator =
      tokens.flatMap fun token => token ++ separator := by
  induction tokens with
  | nil => exact absurd rfl some_token
  | cons token rest inner =>
      cases rest with
      | nil => simp [List.intercalate]
      | cons next rest =>
          rw [List.intercalate_cons_cons, List.append_assoc, inner (by simp),
            @List.flatMap_cons _ _ token, List.append_assoc]

/-- Tokens joined by single blanks are the tokens of that text. -/
theorem blankTokens_intercalate {tokens : List (List Char)}
    (areTokens : ∀ token ∈ tokens, IsToken token) :
    blankTokens ([' '].intercalate tokens) = tokens := by
  cases tokens with
  | nil => rfl
  | cons token rest =>
      have trailing : ∀ character ∈ [' '], isBlank character = true :=
        List.forall_mem_singleton.mpr rfl
      rw [← blankTokens_append_blanks trailing,
        intercalate_append_separator [' '] (List.cons_ne_nil token rest)]
      exact blankTokens_flatMap areTokens

/-- A text without a blank at either end. -/
def IsTrimmed (text : List Char) : Prop :=
  (∀ first ∈ text.head?, isBlank first = false) ∧
    ∀ last ∈ text.getLast?, isBlank last = false

theorem IsToken.isTrimmed {token : List Char} (isToken : IsToken token) : IsTrimmed token :=
  ⟨fun _ first => isToken.2 _ (List.mem_of_mem_head? first),
    fun _ last => isToken.2 _ (List.mem_of_mem_getLast? last)⟩

theorem isTrimmed_intercalate {tokens : List (List Char)}
    (areTokens : ∀ token ∈ tokens, IsToken token) :
    IsTrimmed ([' '].intercalate tokens) := by
  induction tokens with
  | nil => exact ⟨nofun, nofun⟩
  | cons token rest inner =>
      have isToken := areTokens token List.mem_cons_self
      have others : ∀ other ∈ rest, IsToken other :=
        fun other member => areTokens other (List.mem_cons_of_mem _ member)
      cases rest with
      | nil =>
          rw [List.intercalate_singleton]
          exact isToken.isTrimmed
      | cons next rest =>
          have nonempty : [' '].intercalate (next :: rest) ≠ [] := by
            intro empty
            have tokens := blankTokens_intercalate others
            rw [empty] at tokens
            cases tokens
          rw [List.intercalate_cons_cons, List.append_assoc]
          constructor
          · obtain ⟨first, others, rfl⟩ := List.exists_cons_of_ne_nil isToken.1
            exact isToken.isTrimmed.1
          · have ending := (inner others).2
            rw [List.getLast?_eq_some_getLast nonempty] at ending
            rw [List.getLast?_append, List.getLast?_append,
              List.getLast?_eq_some_getLast nonempty]
            exact ending

/-! ## Trimming -/

theorem dropWhile_isBlank_append {blanks text : List Char}
    (allBlank : ∀ character ∈ blanks, isBlank character = true)
    (visible : ∀ first ∈ text.head?, isBlank first = false) :
    (blanks ++ text).dropWhile isBlank = text := by
  rw [List.dropWhile_append_of_pos allBlank]
  cases text with
  | nil => rfl
  | cons first rest =>
      exact List.dropWhile_cons_of_neg (by rw [visible first rfl]; exact Bool.false_ne_true)

/-- Trimming takes away the blanks around a text that has none at its ends. -/
theorem trimBlanks_surrounded {before text after : List Char}
    (blankBefore : ∀ character ∈ before, isBlank character = true)
    (blankAfter : ∀ character ∈ after, isBlank character = true) (trimmed : IsTrimmed text) :
    trimBlanks (before ++ text ++ after) = text := by
  unfold trimBlanks
  cases text with
  | nil =>
      have behind : after.dropWhile isBlank = [] := by
        rw [← List.append_nil after]
        exact dropWhile_isBlank_append blankAfter nofun
      rw [List.append_nil, List.dropWhile_append_of_pos blankBefore, behind]
      rfl
  | cons first rest =>
      have blankBehind : ∀ character ∈ after.reverse, isBlank character = true :=
        fun character member => blankAfter character (List.mem_reverse.mp member)
      have visible : ∀ last ∈ (first :: rest).reverse.head?, isBlank last = false := by
        rw [List.head?_reverse]
        exact trimmed.2
      have ahead : (before ++ (first :: rest ++ after)).dropWhile isBlank =
          first :: rest ++ after := dropWhile_isBlank_append blankBefore trimmed.1
      rw [List.append_assoc, ahead, List.reverse_append,
        dropWhile_isBlank_append blankBehind visible, List.reverse_reverse]

private theorem takeWhile_isBlank (text : List Char) :
    ∀ character ∈ text.takeWhile isBlank, isBlank character = true := by
  intro character member
  exact List.all_eq_true.mp List.all_takeWhile character member

private theorem dropWhile_suffix (text : List Char) : text.dropWhile isBlank <:+ text :=
  List.dropWhile_suffix isBlank

theorem infix_trimBlanks (text : List Char) : trimBlanks text <:+: text := by
  unfold trimBlanks
  have front : text.dropWhile isBlank <:+: text := (dropWhile_suffix text).isInfix
  have back := (dropWhile_suffix (text.dropWhile isBlank).reverse).isInfix
  exact (List.reverse_infix.mp (by simpa using back)).trans front

theorem blankTokens_trimBlanks (text : List Char) :
    blankTokens (trimBlanks text) = blankTokens text := by
  have front : blankTokens (text.dropWhile isBlank) = blankTokens text := by
    have split := List.takeWhile_append_dropWhile (p := isBlank) (l := text)
    rw [← blankTokens_blanks_append (takeWhile_isBlank text) (text.dropWhile isBlank), split]
  have back : ∀ other : List Char,
      blankTokens ((other.reverse.dropWhile isBlank).reverse) = blankTokens other := by
    intro other
    have split := List.takeWhile_append_dropWhile (p := isBlank) (l := other.reverse)
    have blanks : ∀ character ∈ (other.reverse.takeWhile isBlank).reverse,
        isBlank character = true := by
      intro character member
      exact takeWhile_isBlank other.reverse character (List.mem_reverse.mp member)
    rw [← blankTokens_append_blanks blanks, ← List.reverse_append, split, List.reverse_reverse]
  unfold trimBlanks
  rw [back, front]

end Pipewright
