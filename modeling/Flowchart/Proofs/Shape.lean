import Flowchart.Token.Shape

/-!
# Masking nested groups

A text is balanced when every bracket in it has its partner, of whatever kind, and
the pairs do not cross; it is nested when the partners are of the same kind too.
Inside a group a balanced text opens and closes nothing for good, so it is masked
away and the group stays open behind it.
-/

namespace Flowchart

/-- The three kinds of brackets. -/
inductive Bracket where
  /-- The brackets `[` and `]`. -/
  | square
  /-- The brackets `(` and `)`. -/
  | round
  /-- The brackets `\x7b` and `\x7d`. -/
  | curly
  deriving DecidableEq, Repr

namespace Bracket

/-- The bracket that opens a group. -/
def opener : Bracket → Char
  | square => '['
  | round => '('
  | curly => '\x7b'

/-- The bracket that closes a group. -/
def closer : Bracket → Char
  | square => ']'
  | round => ')'
  | curly => '\x7d'

/-- The bracket that opens a group is an opening one. -/
theorem isOpener_opener (bracket : Bracket) : isOpener bracket.opener = true := by
  cases bracket <;> rfl

/-- The bracket that closes a group is no opening one. -/
theorem isOpener_closer (bracket : Bracket) : isOpener bracket.closer = false := by
  cases bracket <;> rfl

/-- The bracket that closes a group is a closing one. -/
theorem isCloser_closer (bracket : Bracket) : isCloser bracket.closer = true := by
  cases bracket <;> rfl

end Bracket

/-- Is `c` a bracket of any kind? -/
def isBracket (c : Char) : Bool :=
  isOpener c || isCloser c

/-- What is no bracket opens no group. -/
theorem isOpener_of_not_bracket {c : Char} (h : isBracket c = false) : isOpener c = false :=
  (Bool.or_eq_false_iff.mp h).1

/-- What is no bracket closes no group. -/
theorem isCloser_of_not_bracket {c : Char} (h : isBracket c = false) : isCloser c = false :=
  (Bool.or_eq_false_iff.mp h).2

/-- No bracket both opens and closes. -/
theorem isOpener_of_isCloser {c : Char} (h : isCloser c = true) : isOpener c = false := by
  simp only [isCloser, Bool.or_eq_true, decide_eq_true_eq] at h
  rcases h with (rfl | rfl) | rfl <;> rfl

/-! ## Balanced texts -/

/-- The brackets of the text come in pairs that do not cross, an opening one before a closing
one of whatever kind. -/
inductive Balanced : Text → Prop where
  | nil : Balanced []
  | plain {c : Char} {rest : Text} : isBracket c = false → Balanced rest → Balanced (c :: rest)
  | group {opener closer : Char} {label rest : Text} : isOpener opener = true →
      isCloser closer = true → Balanced label → Balanced rest →
      Balanced (opener :: label ++ closer :: rest)

/-- Behind a balanced text as many groups are open as before it. -/
theorem Balanced.closes_append {text : Text} (h : Balanced text) (depth : Nat) (rest : Text) :
    closes (depth + 1) (text ++ rest) = closes (depth + 1) rest := by
  induction h generalizing depth rest with
  | nil => rfl
  | @plain c text hplain _ ih =>
      obtain ⟨hopener, hcloser⟩ := Bool.or_eq_false_iff.mp hplain
      simp [closes, hopener, hcloser, ih]
  | @group opener closer label text hopener hcloser _ _ ihLabel ihRest =>
      have hinner := ihLabel (depth + 1) (closer :: (text ++ rest))
      simp [closes, hopener, hcloser, isOpener_of_isCloser hcloser, hinner, ihRest]

/-- Inside a group a balanced text is masked away. -/
theorem Balanced.maskFrom_append {text : Text} (h : Balanced text) (depth : Nat)
    (rest : Text) : maskFrom (depth + 1) (text ++ rest) = maskFrom (depth + 1) rest := by
  induction h generalizing depth rest with
  | nil => rfl
  | @plain c text hplain _ ih =>
      obtain ⟨hopener, hcloser⟩ := Bool.or_eq_false_iff.mp hplain
      simp [maskFrom, hopener, hcloser, ih]
  | @group opener closer label text hopener hcloser _ _ ihLabel ihRest =>
      have hinner := ihLabel (depth + 1) (closer :: (text ++ rest))
      simp [maskFrom, hopener, hcloser, isOpener_of_isCloser hcloser, hinner, ihRest]

/-- A group around a balanced text is masked to its brackets. -/
theorem Balanced.maskShapes_group {label : Text} (h : Balanced label) {opener closer : Char}
    (hopener : isOpener opener = true) (hcloser : isCloser closer = true) (rest : Text) :
    maskShapes (opener :: label ++ closer :: rest) = opener :: closer :: maskShapes rest := by
  have hcloses := h.closes_append 0 (closer :: rest)
  have hmask := h.maskFrom_append 0 (closer :: rest)
  simp [maskShapes, maskFrom, closes, hopener, hcloser, isOpener_of_isCloser hcloser, hcloses,
    hmask]

/-! ## Nested texts -/

/-- The brackets of the text come in pairs of one kind that do not cross. -/
inductive Nested : Text → Prop where
  | nil : Nested []
  | plain {c : Char} {rest : Text} : isBracket c = false → Nested rest → Nested (c :: rest)
  | group {label rest : Text} (bracket : Bracket) : Nested label → Nested rest →
      Nested (bracket.opener :: label ++ bracket.closer :: rest)

/-- A nested text is balanced. -/
theorem Nested.balanced {text : Text} (h : Nested text) : Balanced text := by
  induction h with
  | nil => exact Balanced.nil
  | plain hplain _ ih => exact Balanced.plain hplain ih
  | group bracket _ _ ihLabel ihRest =>
      exact Balanced.group bracket.isOpener_opener bracket.isCloser_closer ihLabel ihRest

/-- A text without brackets is nested. -/
theorem nested_of_not_bracket {text : Text} (h : ∀ c ∈ text, isBracket c = false) :
    Nested text := by
  induction text with
  | nil => exact Nested.nil
  | cons c text ih =>
      exact Nested.plain (h c List.mem_cons_self)
        (ih fun d hd => h d (List.mem_cons_of_mem c hd))

/-- Two nested texts are nested together. -/
theorem Nested.append {text rest : Text} (h : Nested text) (hrest : Nested rest) :
    Nested (text ++ rest) := by
  induction h with
  | nil => exact hrest
  | plain hplain _ ih => exact Nested.plain hplain ih
  | group bracket hlabel _ _ ih =>
      rw [List.append_assoc, List.cons_append]
      exact Nested.group bracket hlabel ih

/-- Outside of groups characters that open nothing are kept. -/
theorem maskShapes_append {part : Text} (h : ∀ c ∈ part, isOpener c = false) (rest : Text) :
    maskShapes (part ++ rest) = part ++ maskShapes rest := by
  unfold maskShapes
  induction part with
  | nil => rfl
  | cons c part ih =>
      have hc := h c List.mem_cons_self
      simp [maskFrom, hc, ih fun d hd => h d (List.mem_cons_of_mem c hd)]

/-- A group around a nested text is masked to its brackets. -/
theorem maskShapes_group {label : Text} (hnested : Nested label) (bracket : Bracket)
    (rest : Text) :
    maskShapes (bracket.opener :: label ++ bracket.closer :: rest)
      = bracket.opener :: bracket.closer :: maskShapes rest :=
  hnested.balanced.maskShapes_group bracket.isOpener_opener bracket.isCloser_closer rest

/-- Outside of groups a nested text is masked by itself. -/
theorem Nested.maskShapes_append {text : Text} (h : Nested text) (rest : Text) :
    maskShapes (text ++ rest) = maskShapes text ++ maskShapes rest := by
  induction h with
  | nil => rfl
  | @plain c text hplain _ ih =>
      have hone : ∀ d ∈ [c], isOpener d = false := by
        intro d hd
        obtain rfl := List.mem_singleton.mp hd
        exact isOpener_of_not_bracket hplain
      have hfront := Flowchart.maskShapes_append hone
      have hwhole := hfront (text ++ rest)
      rw [ih] at hwhole
      exact hwhole.trans (congrArg (· ++ maskShapes rest) (hfront text).symm)
  | @group label text bracket hlabel _ _ ih =>
      have hwhole := maskShapes_group hlabel bracket (text ++ rest)
      rw [ih] at hwhole
      have hregroup : bracket.opener :: label ++ bracket.closer :: text ++ rest
          = bracket.opener :: label ++ bracket.closer :: (text ++ rest) := by simp
      rw [hregroup, hwhole, maskShapes_group hlabel bracket text]
      rfl

/-! ## Parts of a masked text -/

/-- Masking adds no character. -/
theorem mem_of_mem_maskFrom {depth : Nat} {text : Text} {c : Char}
    (h : c ∈ maskFrom depth text) : c ∈ text := by
  fun_induction maskFrom depth text <;> grind

/-- Outside of groups what stands at the front without brackets was there before. -/
theorem prefix_of_maskFrom {part text : Text} (h : part <+: maskFrom 0 text)
    (hpart : ∀ c ∈ part, isBracket c = false) : part <+: text := by
  induction text generalizing part with
  | nil => exact h
  | cons c text ih =>
      cases part with
      | nil => exact List.nil_prefix
      | cons d part =>
          have hd := hpart d List.mem_cons_self
          unfold maskFrom at h
          split at h
          · exact h
          · obtain ⟨rfl, hrest⟩ := List.cons_prefix_cons.mp h
            rw [isOpener_of_not_bracket hd, if_neg Bool.false_ne_true] at hrest
            have htail := ih hrest fun e he => hpart e (List.mem_cons_of_mem d he)
            exact List.cons_prefix_cons.mpr ⟨rfl, htail⟩

/-- What stands anywhere without brackets was there before: inside a group nothing is
left but the bracket that closes it. -/
theorem infix_of_maskFrom {part text : Text} {depth : Nat} (h : part <:+: maskFrom depth text)
    (hpart : ∀ c ∈ part, isBracket c = false) : part <:+: text := by
  induction text generalizing depth with
  | nil => cases depth <;> exact h
  | cons c text ih =>
      have hskip : part <:+: text → part <:+: c :: text := by
        intro hwithin
        exact hwithin.trans (List.suffix_cons c text).isInfix
      cases depth with
      | zero =>
          by_cases hopen : (isOpener c && !closes 1 text) = true
          · rw [maskFrom, if_pos hopen] at h
            exact h
          · have hmask : maskFrom 0 (c :: text)
                = c :: maskFrom (if isOpener c then 1 else 0) text := by
              rw [maskFrom, if_neg hopen]
            rw [hmask] at h
            rcases List.infix_cons_iff.mp h with hstart | hwithin
            · rw [← hmask] at hstart
              exact (prefix_of_maskFrom hstart hpart).isInfix
            · exact hskip (ih hwithin)
      | succ depth =>
          unfold maskFrom at h
          split at h
          · exact hskip (ih h)
          · split at h
            · exact hskip (ih h)
            · rename_i hcloser
              split at h
              · rcases List.infix_cons_iff.mp h with hstart | hwithin
                · cases part with
                  | nil => exact List.nil_infix
                  | cons d part =>
                      obtain ⟨rfl, _⟩ := List.cons_prefix_cons.mp hstart
                      have hd := isCloser_of_not_bracket (hpart d List.mem_cons_self)
                      rw [hd] at hcloser
                      exact absurd rfl hcloser
                · exact hskip (ih hwithin)
              · exact hskip (ih h)

end Flowchart
