import Flowchart.Proofs.Blank
import Flowchart.Proofs.Lexeme

/-!
# Where an identifier ends

An identifier is found together with what follows it, since a hyphen belongs to
it only where no arrow begins.  `IsName` says that a text by itself is one
identifier, and `EndsName` that it ends where another text begins; an identifier
that was found somewhere is a name, and a name is found wherever it ends.
-/

namespace Flowchart

/-- The text is one identifier and nothing else. -/
def IsName (id : Text) : Prop :=
  leadingName? id = some id

/-- A name that ends in a hyphen or not ends where `rest` begins. -/
def EndsName (id rest : Text) : Prop :=
  nameRun rest = [] ∧ (id.getLast? = some '-' → continuesArrow rest = false)

/-! ## Runs of name characters -/

/-- `c` goes on an identifier in front of `rest`. -/
def GoesOn (c : Char) (rest : Text) : Prop :=
  isNameChar c = true ∨ c = '-' ∧ continuesArrow rest = false

/-- A name runs over a character that goes on it. -/
theorem nameRun_of_goesOn {c : Char} {rest : Text} (h : GoesOn c rest) :
    nameRun (c :: rest) = c :: nameRun rest := by
  unfold GoesOn at h
  simp [nameRun, h]

/-- A name ends before a character that does not go on it. -/
theorem nameRun_of_not_goesOn {c : Char} {rest : Text} (h : ¬ GoesOn c rest) :
    nameRun (c :: rest) = [] := by
  simp only [GoesOn, not_or, not_and, Bool.not_eq_false, Bool.not_eq_true] at h
  simp only [nameRun, h.1, Bool.false_or, Bool.and_eq_true, decide_eq_true_eq,
    ite_eq_right_iff]
  intro hc
  simp [h.2 hc.1] at hc

/-- A run goes on with its first character, and with the run behind it. -/
theorem goesOn_of_nameRun {c : Char} {rest run : Text}
    (h : nameRun (c :: rest) = c :: run) : GoesOn c rest ∧ nameRun rest = run := by
  by_cases hgoes : GoesOn c rest
  · rw [nameRun_of_goesOn hgoes] at h
    exact ⟨hgoes, (List.cons.inj h).2⟩
  · rw [nameRun_of_not_goesOn hgoes] at h
    cases h

/-- The run of a name is a front part of the text. -/
theorem prefix_nameRun (text : Text) : nameRun text <+: text := by
  induction text with
  | nil => exact List.nil_prefix
  | cons c rest ih =>
      by_cases hgoes : GoesOn c rest
      · rw [nameRun_of_goesOn hgoes]
        exact List.cons_prefix_cons.mpr ⟨rfl, ih⟩
      · rw [nameRun_of_not_goesOn hgoes]
        exact List.nil_prefix

/-- Runs are made of name characters and hyphens. -/
theorem of_mem_nameRun {text : Text} {c : Char} (h : c ∈ nameRun text) :
    isNameChar c = true ∨ c = '-' := by
  induction text with
  | nil => cases h
  | cons d rest ih =>
      by_cases hgoes : GoesOn d rest
      · rw [nameRun_of_goesOn hgoes] at h
        rcases List.mem_cons.mp h with rfl | hmem
        · exact hgoes.imp_right And.left
        · exact ih hmem
      · rw [nameRun_of_not_goesOn hgoes] at h
        cases h

/-- A run that is complete by itself goes on with the run behind it, where its last hyphen
begins no arrow. -/
theorem nameRun_append_run {run rest : Text} (hrun : nameRun run = run)
    (hhyphen : run.getLast? = some '-' → continuesArrow rest = false) :
    nameRun (run ++ rest) = run ++ nameRun rest := by
  induction run with
  | nil => rfl
  | cons c run ih =>
      obtain ⟨hgoes, htail⟩ := goesOn_of_nameRun hrun
      have hgoesRest : GoesOn c (run ++ rest) := by
        cases run with
        | nil => exact hgoes.imp_right fun hc => ⟨hc.1, hhyphen (by rw [hc.1]; rfl)⟩
        | cons d run => exact hgoes
      have hlast : run.getLast? = some '-' → continuesArrow rest = false := by
        intro h
        exact hhyphen (by simp [List.getLast?_cons, h])
      rw [List.cons_append, nameRun_of_goesOn hgoesRest, ih htail hlast, List.cons_append]

/-- A run that is complete by itself is complete where its last hyphen begins no
arrow and nothing goes it on. -/
theorem nameRun_append {run rest : Text} (hrun : nameRun run = run)
    (hrest : nameRun rest = [])
    (hhyphen : run.getLast? = some '-' → continuesArrow rest = false) :
    nameRun (run ++ rest) = run := by
  rw [nameRun_append_run hrun hhyphen, hrest, List.append_nil]

/-- A run that was found is complete by itself, and ends where it was found to. -/
theorem nameRun_of_append {run rest : Text} (h : nameRun (run ++ rest) = run) :
    nameRun run = run ∧ nameRun rest = [] := by
  induction run with
  | nil => exact ⟨rfl, h⟩
  | cons c run ih =>
      obtain ⟨hgoes, htail⟩ := goesOn_of_nameRun h
      obtain ⟨hrun, hrest⟩ := ih htail
      have hgoesAlone : GoesOn c run := by
        cases run with
        | nil => exact hgoes.imp_right fun hc => ⟨hc.1, rfl⟩
        | cons d run => exact hgoes
      exact ⟨by rw [nameRun_of_goesOn hgoesAlone, hrun], hrest⟩

/-- Behind a front part of a run that was found the rest of it is found. -/
theorem nameRun_of_front {front text run : Text} (h : nameRun (front ++ text) = front ++ run) :
    nameRun text = run := by
  induction front with
  | nil => exact h
  | cons c front ih => exact ih (goesOn_of_nameRun h).2

/-! ## Names -/

/-- The name with which a text begins is a front part of it. -/
theorem prefix_of_leadingName? {text id : Text} (h : leadingName? text = some id) :
    id <+: text := by
  cases text with
  | nil => cases h
  | cons c rest =>
      simp only [leadingName?] at h
      split at h
      · obtain rfl := Option.some.inj h
        exact List.cons_prefix_cons.mpr ⟨rfl, prefix_nameRun rest⟩
      · cases h

/-- A name is a letter and a complete run. -/
theorem isName_iff {id : Text} :
    IsName id ↔ ∃ c run, id = c :: run ∧ c.isAlpha = true ∧ nameRun run = run := by
  constructor
  · intro h
    cases id with
    | nil => cases h
    | cons c run =>
        simp only [IsName, leadingName?] at h
        split at h
        · rename_i halpha
          exact ⟨c, run, rfl, halpha, (List.cons.inj (Option.some.inj h)).2⟩
        · cases h
  · rintro ⟨c, run, rfl, halpha, hrun⟩
    simp [IsName, leadingName?, halpha, hrun]

/-- A name is not empty. -/
theorem IsName.ne_nil {id : Text} (h : IsName id) : id ≠ [] := by
  obtain ⟨c, run, rfl, _, _⟩ := isName_iff.mp h
  exact List.cons_ne_nil c run

/-- Names are made of name characters and hyphens. -/
theorem IsName.of_mem {id : Text} (h : IsName id) {c : Char} (hc : c ∈ id) :
    isNameChar c = true ∨ c = '-' := by
  obtain ⟨d, run, rfl, halpha, hrun⟩ := isName_iff.mp h
  rcases List.mem_cons.mp hc with rfl | hmem
  · exact Or.inl (by simp [isNameChar, Char.isAlphanum, halpha])
  · exact of_mem_nameRun (hrun.symm ▸ hmem)

/-- A name has no blanks in it. -/
theorem IsName.isBlank_of_mem {id : Text} (h : IsName id) {c : Char} (hc : c ∈ id) :
    isBlank c = false := by
  rcases h.of_mem hc with hname | rfl
  · exact isBlank_of_isNameChar hname
  · decide

/-- A name does not begin with a blank. -/
theorem IsName.solid {id : Text} (h : IsName id) (rest : Text) : Solid (id ++ rest) := by
  obtain ⟨c, run, rfl, halpha, _⟩ := isName_iff.mp h
  exact Solid.cons (isBlank_of_isAlpha halpha) _

/-- A name is found in front of a text where it ends. -/
theorem IsName.leadingName?_append {id rest : Text} (h : IsName id)
    (hends : EndsName id rest) : leadingName? (id ++ rest) = some id := by
  obtain ⟨c, run, rfl, halpha, hrun⟩ := isName_iff.mp h
  have hlast : run.getLast? = some '-' → continuesArrow rest = false := by
    intro hrunLast
    exact hends.2 (by simp [List.getLast?_cons, hrunLast])
  simp [leadingName?, halpha, nameRun_append hrun hends.1 hlast]

/-- No arrow begins with a hyphen of a name. -/
theorem IsName.continuesArrow_append {id front back rest : Text} (h : IsName id)
    (hends : EndsName id rest) (hid : id = front ++ '-' :: back) :
    continuesArrow (back ++ rest) = false := by
  obtain ⟨c, run, rfl, halpha, hrun⟩ := isName_iff.mp h
  have hlast : run.getLast? = some '-' → continuesArrow rest = false := by
    intro hrunLast
    exact hends.2 (by simp [List.getLast?_cons, hrunLast])
  cases front with
  | nil =>
      obtain rfl := (List.cons.inj hid).1
      cases halpha
  | cons d front =>
      have hback : run = front ++ '-' :: back := (List.cons.inj hid).2
      have hfound := nameRun_append hrun hends.1 hlast
      rw [hback, List.append_assoc] at hfound
      rcases (goesOn_of_nameRun (nameRun_of_front hfound)).1 with hname | ⟨_, hrest⟩
      · cases hname
      · exact hrest

/-- What is found at the front of a text is a name. -/
theorem isName_of_leadingName? {text id : Text} (h : leadingName? text = some id) :
    IsName id := by
  obtain ⟨rest, rfl⟩ := prefix_of_leadingName? h
  cases id with
  | nil => cases rest <;> simp [leadingName?] at h
  | cons c run =>
      simp only [List.cons_append, leadingName?] at h
      split at h
      · rename_i halpha
        have hrun := (List.cons.inj (Option.some.inj h)).2
        exact isName_iff.mpr ⟨c, run, rfl, halpha, (nameRun_of_append hrun).1⟩
      · cases h

/-! ## Occurrences of names -/

/-- An identifier is a front part of the text in which it is found. -/
theorem identifier_sound : identifier.Sound := by
  intro before text lexeme h
  unfold identifier at h
  split at h
  · cases h
  · exact prefix_of_leadingName? h

/-- No identifier begins with another character than a letter. -/
theorem identifier_eq_none {before : Option Char} {c : Char} {rest : Text}
    (h : c.isAlpha = false) : identifier before (c :: rest) = none := by
  simp [identifier, leadingName?, h]

/-- Every occurrence of an identifier is a name. -/
theorem isName_of_mem_occurrences {text : Text} {name : Occurrence}
    (h : name ∈ occurrences identifier text) : IsName name.text := by
  obtain ⟨front, _, _, hrecognised⟩ := exists_of_mem_occurrences identifier_sound h
  unfold identifier at hrecognised
  split at hrecognised
  · cases hrecognised
  · exact isName_of_leadingName? hrecognised

/-- In blanks, one name and characters that are no letters, there is that name. -/
theorem occurrences_name {blanks id rest : Text} (hblanks : Blanks blanks) (hname : IsName id)
    (hends : EndsName id rest) (hrest : ∀ c ∈ rest, c.isAlpha = false) :
    occurrences identifier (blanks ++ (id ++ rest)) = [⟨blanks.length, id, rest⟩] := by
  have hbefore : (lastBefore none blanks).any isNameChar = false := by
    rw [lastBefore, Option.or_none]
    cases hlast : blanks.getLast? with
    | none => rfl
    | some c => exact isNameChar_of_isBlank (hblanks c (List.mem_of_getLast? hlast))
  have hfound : identifier (lastBefore none blanks) (id ++ rest) = some id := by
    simp [identifier, hbefore, hname.leadingName?_append hends]
  have hbehind : ∀ before, piecesFrom identifier before 0 rest = rest.map .plain := by
    intro before
    have h := @piecesFrom_append identifier before rest [] fun front c back hpart =>
      identifier_eq_none (hrest c (by simp [hpart]))
    simpa [piecesFrom_nil] using h
  unfold occurrences pieces
  rw [piecesFrom_append, piecesFrom_lexeme hname.ne_nil hfound, hbehind,
    occurrencesFrom_plain_append]
  · have hnone := occurrencesFrom_plain_append (blanks.length + id.length) rest []
    simp only [List.append_nil] at hnone
    simp [occurrencesFrom, hnone]
  · intro front c back hpart
    exact identifier_eq_none (isAlpha_of_isBlank (hblanks c (by simp [hpart])))

end Flowchart
