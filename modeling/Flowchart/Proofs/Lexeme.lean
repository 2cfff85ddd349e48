import Flowchart.Lexeme

/-!
# What recognisers find

The pieces of a text are read off its front: a character with which no lexeme
begins stays as it is, and a lexeme is taken whole.  So the pieces of a text
that is put together from parts are known from the parts, as long as each part
is read with what follows it in sight.

Conversely a lexeme that was found is a part of the text, and was recognised
where it stands.
-/

namespace Flowchart

variable {recognise : Recogniser}

namespace Recogniser

/-- The recogniser answers front parts of what it sees. -/
def Sound (recognise : Recogniser) : Prop :=
  ∀ before text lexeme, recognise before text = some lexeme → lexeme <+: text

/-- The recogniser does not look at the character before its place. -/
def Blind (recognise : Recogniser) : Prop :=
  ∀ before text, recognise before text = recognise none text

end Recogniser

/-- The character before a place that `front` leads to. -/
def lastBefore (before : Option Char) (front : Text) : Option Char :=
  front.getLast?.or before

/-- The character before a place is looked for from the front. -/
theorem lastBefore_cons (before : Option Char) (c : Char) (front : Text) :
    lastBefore before (c :: front) = lastBefore (some c) front := by
  cases hlast : front.getLast? <;> simp [lastBefore, List.getLast?_cons, hlast]

/-! ## Pieces from the front -/

/-- The empty text has no pieces. -/
theorem piecesFrom_nil (before : Option Char) (skip : Nat) :
    piecesFrom recognise before skip [] = [] := by
  cases skip <;> rfl

/-- What belongs to a lexeme already is passed over. -/
theorem piecesFrom_skip (before : Option Char) (lexeme rest : Text) :
    piecesFrom recognise before lexeme.length (lexeme ++ rest)
      = piecesFrom recognise (lastBefore before lexeme) 0 rest := by
  induction lexeme generalizing before with
  | nil => rfl
  | cons c lexeme ih =>
      rw [lastBefore_cons, ← ih (some c)]
      rfl

/-- A lexeme at the front is a piece. -/
theorem piecesFrom_lexeme {before : Option Char} {lexeme rest : Text} (hne : lexeme ≠ [])
    (h : recognise before (lexeme ++ rest) = some lexeme) :
    piecesFrom recognise before 0 (lexeme ++ rest)
      = .lexeme lexeme rest :: piecesFrom recognise (lastBefore before lexeme) 0 rest := by
  cases lexeme with
  | nil => exact absurd rfl hne
  | cons c more =>
      rw [lastBefore_cons, ← piecesFrom_skip (some c) more rest, List.cons_append]
      rw [List.cons_append] at h
      simp [piecesFrom, h]

/-- A character with which no lexeme begins is a piece. -/
theorem piecesFrom_plain {before : Option Char} {c : Char} {rest : Text}
    (h : recognise before (c :: rest) = none) :
    piecesFrom recognise before 0 (c :: rest)
      = .plain c :: piecesFrom recognise (some c) 0 rest := by
  simp [piecesFrom, h]

/-- A part of a text in which no lexeme begins is left as it is. -/
theorem piecesFrom_append {before : Option Char} {part rest : Text}
    (h : ∀ front c back, part = front ++ c :: back →
      recognise (lastBefore before front) (c :: back ++ rest) = none) :
    piecesFrom recognise before 0 (part ++ rest)
      = part.map .plain ++ piecesFrom recognise (lastBefore before part) 0 rest := by
  induction part generalizing before with
  | nil => rfl
  | cons c part ih =>
      have hhead : recognise before (c :: part ++ rest) = none := h [] c part rfl
      rw [List.cons_append] at hhead ⊢
      rw [piecesFrom_plain hhead, ih, lastBefore_cons]
      · rfl
      · intro front d back hpart
        rw [← lastBefore_cons]
        exact h (c :: front) d back (by rw [hpart, List.cons_append])

/-- A blind recogniser finds the same behind every character. -/
theorem Recogniser.Blind.piecesFrom_eq (hblind : recognise.Blind) (before : Option Char)
    (skip : Nat) (text : Text) :
    piecesFrom recognise before skip text = piecesFrom recognise none skip text := by
  cases text with
  | nil => rw [piecesFrom_nil, piecesFrom_nil]
  | cons c text =>
      cases skip with
      | zero => rw [piecesFrom, piecesFrom, hblind]
      | succ skip => rfl

/-- A part in which no lexeme begins stays in front of the pieces of the rest. -/
theorem Recogniser.Blind.pieces_append (hblind : recognise.Blind) {part rest : Text}
    (h : ∀ front c back, part = front ++ c :: back →
      recognise none (c :: back ++ rest) = none) :
    pieces recognise (part ++ rest) = part.map .plain ++ pieces recognise rest := by
  unfold pieces
  rw [piecesFrom_append, hblind.piecesFrom_eq]
  intro front c back hpart
  rw [hblind]
  exact h front c back hpart

/-- A character with which no lexeme begins stays in front of the pieces of the rest. -/
theorem Recogniser.Blind.pieces_plain (hblind : recognise.Blind) {c : Char} {rest : Text}
    (h : recognise none (c :: rest) = none) :
    pieces recognise (c :: rest) = .plain c :: pieces recognise rest := by
  unfold pieces
  rw [piecesFrom_plain h, hblind.piecesFrom_eq]

/-- A lexeme at the front stays in front of the pieces of the rest. -/
theorem Recogniser.Blind.pieces_lexeme (hblind : recognise.Blind) {lexeme rest : Text}
    (hne : lexeme ≠ []) (h : recognise none (lexeme ++ rest) = some lexeme) :
    pieces recognise (lexeme ++ rest) = .lexeme lexeme rest :: pieces recognise rest := by
  unfold pieces
  rw [piecesFrom_lexeme hne h, hblind.piecesFrom_eq]

/-- To prove something of a text, take it apart at its lexemes: into plain characters and
lexemes, each with what follows it in sight. -/
theorem Recogniser.Sound.induction (hsound : recognise.Sound)
    (hne : ∀ text lexeme, recognise none text = some lexeme → lexeme ≠ [])
    {motive : Text → Prop} (nil : motive [])
    (plain : ∀ c rest, recognise none (c :: rest) = none → motive rest → motive (c :: rest))
    (lexeme : ∀ lexeme rest, recognise none (lexeme ++ rest) = some lexeme → motive rest →
      motive (lexeme ++ rest))
    (text : Text) : motive text := by
  induction hlength : text.length using Nat.strongRecOn generalizing text with
  | ind length ih =>
      cases text with
      | nil => exact nil
      | cons c rest =>
          cases hfound : recognise none (c :: rest) with
          | none => exact plain c rest hfound (ih rest.length (by simp [← hlength]) rest rfl)
          | some found =>
              obtain ⟨back, hback⟩ := hsound _ _ _ hfound
              have hshort : back.length < length := by
                have htotal := congrArg List.length hback
                have hpositive := List.length_pos_iff.mpr (hne _ _ hfound)
                simp only [List.length_append] at htotal
                omega
              rw [← hback] at hfound ⊢
              exact lexeme found back hfound (ih back.length hshort back rfl)

/-- The pieces are the text, cut up. -/
theorem Recogniser.Sound.flatMap_text (hsound : recognise.Sound) (before : Option Char)
    (skip : Nat) (text : Text) :
    (piecesFrom recognise before skip text).flatMap Piece.text = text.drop skip := by
  induction text generalizing before skip with
  | nil =>
      rw [piecesFrom_nil, List.drop_nil]
      rfl
  | cons c text ih =>
      cases skip with
      | succ skip => exact ih (some c) skip
      | zero =>
          unfold piecesFrom
          split
          · rename_i first more hfound
            obtain ⟨rest, hrest⟩ := hsound _ _ _ hfound
            have htext : text = more ++ rest := (List.cons.inj hrest).2.symm
            rw [List.flatMap_cons, ih, Piece.text, htext, List.drop_left, List.drop_zero]
            exact hrest.trans (by rw [htext])
          · rw [List.flatMap_cons, ih]
            rfl

/-- A character outside all lexemes is one of the text. -/
theorem mem_of_plain_mem_piecesFrom {before : Option Char} {skip : Nat} {text : Text} {c : Char}
    (h : .plain c ∈ piecesFrom recognise before skip text) : c ∈ text := by
  induction text generalizing before skip with
  | nil =>
      rw [piecesFrom_nil] at h
      cases h
  | cons d text ih =>
      cases skip with
      | succ skip => exact List.mem_cons_of_mem d (ih h)
      | zero =>
          unfold piecesFrom at h
          split at h
          · rcases List.mem_cons.mp h with hc | hmem
            · cases hc
            · exact List.mem_cons_of_mem d (ih hmem)
          · rcases List.mem_cons.mp h with hc | hmem
            · obtain rfl := Piece.plain.inj hc
              exact List.mem_cons_self
            · exact List.mem_cons_of_mem d (ih hmem)

/-! ## Occurrences -/

/-- Characters between lexemes only move the occurrences behind them. -/
theorem occurrencesFrom_plain_append (start : Nat) (part : Text) (rest : List Piece) :
    occurrencesFrom start (part.map .plain ++ rest)
      = occurrencesFrom (start + part.length) rest := by
  induction part generalizing start with
  | nil => rfl
  | cons c part ih =>
      simp only [List.map_cons, List.cons_append, occurrencesFrom, ih, List.length_cons]
      congr 1
      omega

/-- Nothing occurs before the place at which counting starts. -/
theorem le_start_of_mem_occurrencesFrom {start : Nat} {cut : List Piece} {found : Occurrence}
    (h : found ∈ occurrencesFrom start cut) : start ≤ found.start := by
  induction cut generalizing start with
  | nil => cases h
  | cons piece cut ih =>
      cases piece with
      | plain c => exact Nat.le_of_succ_le (ih h)
      | lexeme text rest =>
          rcases List.mem_cons.mp h with rfl | hmem
          · exact Nat.le_refl start
          · exact Nat.le_trans (Nat.le_add_right ..) (ih hmem)

/-- Lexemes occur from left to right, and each begins behind the one before it. -/
theorem pairwise_occurrencesFrom (start : Nat) (cut : List Piece) :
    (occurrencesFrom start cut).Pairwise fun first next =>
      first.start + first.text.length ≤ next.start := by
  induction cut generalizing start with
  | nil => exact .nil
  | cons piece cut ih =>
      cases piece with
      | plain c => exact ih (start + 1)
      | lexeme text rest =>
          exact .cons (fun next hnext => le_start_of_mem_occurrencesFrom hnext)
            (ih (start + text.length))

/-- Every lexeme among the pieces occurs. -/
theorem exists_mem_occurrencesFrom {cut : List Piece} {lexeme rest : Text}
    (h : .lexeme lexeme rest ∈ cut) (start : Nat) :
    ∃ place, ⟨place, lexeme, rest⟩ ∈ occurrencesFrom start cut := by
  induction cut generalizing start with
  | nil => cases h
  | cons piece cut ih =>
      rcases List.mem_cons.mp h with rfl | hmem
      · exact ⟨start, List.mem_cons_self⟩
      · cases piece with
        | plain c => exact ih hmem (start + 1)
        | lexeme first behind =>
            obtain ⟨place, hplace⟩ := ih hmem (start + first.length)
            exact ⟨place, List.mem_cons_of_mem _ hplace⟩

/-- The occurrence stands in the text, and is recognised there.  Its place is counted
from `start`, and from behind the characters that are skipped. -/
def StandsIn (recognise : Recogniser) (before : Option Char) (start skip : Nat) (text : Text)
    (found : Occurrence) : Prop :=
  ∃ front, text = front ++ found.text ++ found.rest ∧
    found.start + skip = start + front.length ∧
    recognise (lastBefore before front) (found.text ++ found.rest) = some found.text

/-- What stands behind a character stands one place further on in the whole text. -/
theorem StandsIn.cons {before : Option Char} {start skip start' skip' : Nat} {c : Char}
    {text : Text} {found : Occurrence} (h : StandsIn recognise (some c) start skip text found)
    (hplace : start + skip' = start' + skip + 1) :
    StandsIn recognise before start' skip' (c :: text) found := by
  obtain ⟨front, htext, hstart, hrecognised⟩ := h
  refine ⟨c :: front, by rw [htext]; rfl, ?_, by rwa [lastBefore_cons]⟩
  rw [List.length_cons]
  omega

/-- A lexeme that was found stands in the text.  A recogniser that answers the empty text has found
none. -/
theorem standsIn_of_mem_occurrencesFrom (hsound : recognise.Sound) {before : Option Char}
    {start skip : Nat} {text : Text} {found : Occurrence}
    (h : found ∈ occurrencesFrom start (piecesFrom recognise before skip text)) :
    StandsIn recognise before start skip text found := by
  induction text generalizing before start skip with
  | nil =>
      rw [piecesFrom_nil] at h
      cases h
  | cons c text ih =>
      cases skip with
      | succ skip =>
          have hbehind := ih h
          exact hbehind.cons (by omega)
      | zero =>
          cases hfound : recognise before (c :: text) with
          | none =>
              rw [piecesFrom_plain hfound] at h
              have hbehind := ih h
              exact hbehind.cons (by omega)
          | some lexeme =>
              cases lexeme with
              | nil =>
                  have hplain : piecesFrom recognise before 0 (c :: text)
                      = .plain c :: piecesFrom recognise (some c) 0 text := by
                    simp [piecesFrom, hfound]
                  rw [hplain] at h
                  have hbehind := ih h
                  exact hbehind.cons (by omega)
              | cons first more =>
                  obtain ⟨rest, hrest⟩ := hsound _ _ _ hfound
                  have hc : first = c := (List.cons.inj hrest).1
                  have htext : text = more ++ rest := (List.cons.inj hrest).2.symm
                  subst hc htext
                  rw [← List.cons_append] at h hfound
                  rw [piecesFrom_lexeme (List.cons_ne_nil _ _) hfound] at h
                  rcases List.mem_cons.mp h with rfl | hmem
                  · exact ⟨[], rfl, rfl, hfound⟩
                  · rw [lastBefore_cons, ← piecesFrom_skip] at hmem
                    have hbehind := ih hmem
                    exact hbehind.cons (by rw [List.length_cons]; omega)

/-- A lexeme that was found stands in the text, and was recognised there. -/
theorem exists_of_mem_occurrences (hsound : recognise.Sound) {text : Text}
    {found : Occurrence} (h : found ∈ occurrences recognise text) :
    ∃ front, text = front ++ found.text ++ found.rest ∧ found.start = front.length ∧
      recognise front.getLast? (found.text ++ found.rest) = some found.text := by
  obtain ⟨front, htext, hstart, hrecognised⟩ := standsIn_of_mem_occurrencesFrom hsound h
  rw [lastBefore, Option.or_none] at hrecognised
  exact ⟨front, htext, by omega, hrecognised⟩

/-! ## Replacement -/

/-- The text with no lexeme in it is not changed. -/
theorem Recogniser.Blind.replaceEach_append (hblind : recognise.Blind)
    (change : Text → Text) {part rest : Text}
    (h : ∀ front c back, part = front ++ c :: back →
      recognise none (c :: back ++ rest) = none) :
    replaceEach recognise change (part ++ rest)
      = part ++ replaceEach recognise change rest := by
  unfold replaceEach
  rw [hblind.pieces_append h, List.flatMap_append, List.flatMap_map]
  simp

/-- A character with which no lexeme begins is kept. -/
theorem Recogniser.Blind.replaceEach_plain (hblind : recognise.Blind)
    (change : Text → Text) {c : Char} {rest : Text} (h : recognise none (c :: rest) = none) :
    replaceEach recognise change (c :: rest) = c :: replaceEach recognise change rest := by
  unfold replaceEach
  rw [hblind.pieces_plain h, List.flatMap_cons, List.singleton_append]

/-- A lexeme at the front is exchanged. -/
theorem Recogniser.Blind.replaceEach_lexeme (hblind : recognise.Blind)
    (change : Text → Text) {lexeme rest : Text} (hne : lexeme ≠ [])
    (h : recognise none (lexeme ++ rest) = some lexeme) :
    replaceEach recognise change (lexeme ++ rest)
      = change lexeme ++ replaceEach recognise change rest := by
  unfold replaceEach
  rw [hblind.pieces_lexeme hne h, List.flatMap_cons]

end Flowchart
