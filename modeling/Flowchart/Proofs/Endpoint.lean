import Flowchart.Proofs.Indent

/-!
# Endpoints at a place

The endpoint before an arrow is looked for in a window: from a place on, the first place
from which a name, a shape perhaps and blanks lead to the end of the window.  What stands
before the window is in sight, what stands behind it is not.  The search may begin inside
an identifier, behind a hyphen in it, while identifiers are read from the front; but what
it finds there ends where the identifier ends, and the identifier is found first.

The endpoint behind an arrow is read with all of the line in sight, but a name ends where
the next arrow begins.

Main statements: `endpointBefore_iff`, `endpointAfter_iff`.
-/

namespace Flowchart

/-! ## What follows a name -/

/-- A run ends as well in front of one text as of another, where neither goes it on and both
are alike for a hyphen before them. -/
theorem nameRun_append_congr {text other : Text} (htext : nameRun text = [])
    (hother : nameRun other = []) (halike : continuesArrow text = continuesArrow other)
    (run : Text) : nameRun (run ++ text) = nameRun (run ++ other) := by
  induction run with
  | nil => exact htext.trans hother.symm
  | cons c run ih =>
      have hbehind : continuesArrow (run ++ text) = continuesArrow (run ++ other) := by
        cases run with
        | nil => exact halike
        | cons d run => rfl
      rw [List.cons_append, List.cons_append, nameRun, nameRun, hbehind, ih]

/-- What follows a front part matters to its name only where the name runs on into it. -/
theorem leadingName?_append_congr {text other front : Text} (hne : front ≠ [])
    (h : ∀ run, nameRun (run ++ text) = nameRun (run ++ other)) :
    leadingName? (front ++ text) = leadingName? (front ++ other) := by
  obtain ⟨c, run, rfl⟩ := List.exists_cons_of_ne_nil hne
  rw [List.cons_append, List.cons_append, leadingName?, leadingName?, h]

/-- A character that does not go on a run does not do so where more follows it either. -/
theorem nameRun_append_eq_nil {c : Char} {rest : Text} (h : nameRun (c :: rest) = [])
    (more : Text) : nameRun (c :: rest ++ more) = [] := by
  refine nameRun_of_not_goesOn fun hgoes => ?_
  have halone : GoesOn c rest := by
    cases rest with
    | nil => exact hgoes.imp_right fun hc => ⟨hc.1, rfl⟩
    | cons d rest => exact hgoes
  rw [nameRun_of_goesOn halone] at h
  cases h

/-- The text is empty or begins with a blank. -/
def Gapped (text : Text) : Prop :=
  ∀ c, text.head? = some c → isBlank c = true

namespace Gapped

variable {rest : Text} (h : Gapped rest)

include h

/-- In front of a blank a run ends as at the end of the text. -/
theorem nameRun_append (run : Text) : nameRun (run ++ rest) = nameRun run := by
  cases rest with
  | nil => rw [List.append_nil]
  | cons c rest =>
      have hblank := h c rfl
      have hne : ∀ d ∈ ['-', '.', '>', '='], c ≠ d := by
        rintro d hd rfl
        have hsolid : ∀ d ∈ ['-', '.', '>', '='], isBlank d = false := forall_mem_of_all rfl
        rw [hsolid c hd] at hblank
        cases hblank
      have hends : nameRun (c :: rest) = [] := by
        refine nameRun_of_not_goesOn ?_
        simp [GoesOn, isNameChar_of_isBlank hblank, hne '-' (by simp)]
      have hplain : continuesArrow (c :: rest) = continuesArrow [] := by
        simp [continuesArrow, hne]
      rw [nameRun_append_congr hends rfl hplain run, List.append_nil]

/-- An identifier in front of a gap is found without what follows. -/
theorem identifier_append (before : Option Char) {front : Text} (hne : front ≠ []) :
    identifier before (front ++ rest) = identifier before front := by
  have hname : leadingName? (front ++ rest) = leadingName? (front ++ []) := by
    refine leadingName?_append_congr hne fun run => ?_
    rw [h.nameRun_append, List.append_nil]
  rw [List.append_nil] at hname
  rw [identifier, identifier, hname]

/-- Whatever stands before a blank, the names behind it are the same. -/
theorem piecesFrom_eq (before : Option Char) :
    piecesFrom identifier before 0 rest = pieces identifier rest := by
  cases rest with
  | nil => rfl
  | cons c rest =>
      have hplain : ∀ before, identifier before (c :: rest) = none :=
        fun before => identifier_eq_none (isAlpha_of_isBlank (h c rfl))
      rw [pieces, piecesFrom_plain (hplain _), piecesFrom_plain (hplain _)]

end Gapped

/-- What begins with a name begins with a run that ends where the name does. -/
theorem nameRun_of_leadingName? {text name : Text} (h : leadingName? text = some name) :
    nameRun text = name := by
  cases text with
  | nil => cases h
  | cons c rest =>
      simp only [leadingName?] at h
      split at h
      · rename_i halpha
        obtain rfl := Option.some.inj h
        exact nameRun_of_goesOn (Or.inl (by simp [isNameChar, Char.isAlphanum, halpha]))
      · cases h

/-- An identifier is the name with which the text begins. -/
theorem leadingName?_of_identifier {before : Option Char} {text name : Text}
    (h : identifier before text = some name) : leadingName? text = some name := by
  unfold identifier at h
  split at h
  · cases h
  · exact h

/-- An identifier is not empty. -/
theorem ne_nil_of_identifier {before : Option Char} {text name : Text}
    (h : identifier before text = some name) : name ≠ [] :=
  (isName_of_leadingName? (leadingName?_of_identifier h)).ne_nil

/-! ## Names at their places -/

/-- The place of an occurrence, and its text. -/
def Occurrence.span (name : Occurrence) : Nat × Text :=
  (name.start, name.text)

/-- The identifiers of a text at their places. -/
def spans (text : Text) : List (Nat × Text) :=
  (occurrences identifier text).map Occurrence.span

/-- So many characters further on. -/
def moved (count : Nat) (name : Nat × Text) : Nat × Text :=
  (count + name.1, name.2)

/-- What is found at a place is known by the place and its text. -/
theorem exists_span_iff {found? : Option Occurrence} {start place : Nat} {name : Text} :
    (∃ found, found? = some found ∧ start + found.start = place ∧ found.text = name) ↔
      (found?.map Occurrence.span).map (moved start) = some (place, name) := by
  cases found? <;> simp [Occurrence.span, moved]

/-- To move names twice is to move them by the sum. -/
theorem map_moved_moved (count more : Nat) (names : List (Nat × Text)) :
    (names.map (moved more)).map (moved count) = names.map (moved (count + more)) := by
  rw [List.map_map]
  refine List.map_congr_left fun name _ => ?_
  simp [moved, Nat.add_assoc]

/-- The place at which counting starts moves all names. -/
theorem span_occurrencesFrom (start : Nat) (cut : List Piece) :
    (occurrencesFrom start cut).map Occurrence.span
      = ((occurrencesFrom 0 cut).map Occurrence.span).map (moved start) := by
  have hshifted := occurrencesFrom_shifted 0 start cut
  rw [Nat.zero_add] at hshifted
  rw [hshifted, List.map_map, List.map_map]
  refine List.map_congr_left fun name _ => ?_
  simp [Occurrence.span, Occurrence.shifted, moved, Nat.add_comm]

/-- The identifiers in front of a gap are found by themselves, and those behind it by themselves. -/
theorem span_occurrencesFrom_append {rest : Text} (hrest : Gapped rest) (before : Option Char)
    {skip : Nat} {part : Text} (hskip : skip ≤ part.length) (start : Nat) :
    (occurrencesFrom start (piecesFrom identifier before skip (part ++ rest))).map Occurrence.span
      = (occurrencesFrom start (piecesFrom identifier before skip part)).map Occurrence.span
        ++ (occurrencesFrom (start + (part.length - skip)) (pieces identifier rest)).map
          Occurrence.span := by
  induction part generalizing before skip start with
  | nil =>
      obtain rfl := Nat.le_zero.mp hskip
      rw [List.nil_append, hrest.piecesFrom_eq]
      rfl
  | cons c part ih =>
      cases skip with
      | succ skip =>
          have hbehind := ih (some c) (Nat.le_of_succ_le_succ hskip) start
          rw [List.length_cons, Nat.add_sub_add_right]
          exact hbehind
      | zero =>
          have hsame := hrest.identifier_append before (List.cons_ne_nil c part)
          rw [List.cons_append] at hsame ⊢
          cases hfound : identifier before (c :: part) with
          | none =>
              have hbehind := ih (some c) (Nat.zero_le _) (start + 1)
              rw [piecesFrom_plain hfound, piecesFrom_plain (hsame.trans hfound), occurrencesFrom,
                occurrencesFrom, hbehind, List.length_cons, Nat.sub_zero, Nat.sub_zero,
                Nat.add_assoc, Nat.add_comm 1]
          | some name =>
              obtain ⟨d, more, rfl⟩ := List.exists_cons_of_ne_nil (ne_nil_of_identifier hfound)
              have hwithin : more.length ≤ part.length :=
                Nat.le_of_succ_le_succ (identifier_sound _ _ _ hfound).length_le
              have hbehind := ih (some c) hwithin (start + (d :: more).length)
              have hplace : start + (d :: more).length + (part.length - more.length)
                  = start + ((c :: part).length - 0) := by
                rw [List.length_cons, List.length_cons]
                omega
              rw [hplace] at hbehind
              simp only [piecesFrom, hsame, hfound, occurrencesFrom, List.map_cons, hbehind,
                List.cons_append]
              rfl

/-- The names of a text in front of a blank, and those behind it. -/
theorem spans_append {rest : Text} (hrest : Gapped rest) (part : Text) :
    spans (part ++ rest) = spans part ++ (spans rest).map (moved part.length) := by
  have hcut := span_occurrencesFrom_append hrest none (Nat.zero_le part.length) 0
  rw [span_occurrencesFrom (0 + _), Nat.zero_add, Nat.sub_zero] at hcut
  exact hcut

/-- Blanks in front move the names of a text. -/
theorem Blanks.spans_append {blanks : Text} (h : Blanks blanks) (text : Text) :
    spans (blanks ++ text) = (spans text).map (moved blanks.length) := by
  rw [spans, spans, h.occurrences_append, List.map_map, List.map_map]
  refine List.map_congr_left fun name _ => ?_
  simp [Occurrence.span, Occurrence.shifted, moved, Nat.add_comm]

/-! ## The endpoint at the end of a window -/

/-- At the place stands a name with which the text ends, shape and blanks apart.  The character
before it goes on no name. -/
def EndsWith (text : Text) (place : Nat) (name : Text) : Prop :=
  ∃ front rest, text = front ++ (name ++ rest) ∧ front.length = place ∧
    identifier front.getLast? (name ++ rest) = some name ∧ endsEndpoint rest = true

/-- In the window from `start` to `stop` the endpoint stands at the first place at which one can,
with what stands before the window in sight. -/
structure EndpointBefore (text : Text) (start stop place : Nat) (name : Text) : Prop where
  /-- The place is in the window. -/
  within : start ≤ place
  /-- The name leads to the end of the window. -/
  ends : EndsWith (text.take stop) place name
  /-- No place in the window before it is one of an endpoint. -/
  first : ∀ other name, start ≤ other → EndsWith (text.take stop) other name → place ≤ other

/-- At one place there is one name. -/
theorem EndsWith.name_eq {text : Text} {place : Nat} {name other : Text}
    (h : EndsWith text place name) (hother : EndsWith text place other) : name = other := by
  obtain ⟨front, rest, rfl, rfl, hname, _⟩ := h
  obtain ⟨before, behind, htext, hplace, hfound, _⟩ := hother
  obtain ⟨rfl, hbehind⟩ := List.append_inj htext hplace.symm
  rw [hbehind, hfound] at hname
  exact (Option.some.inj hname).symm

/-- A character before the text matters only if it goes on a name. -/
theorem identifier_or (last : Option Char) {before : Option Char}
    (h : before.any isNameChar = false) (text : Text) :
    identifier (last.or before) text = identifier last text := by
  cases last with
  | some c => rfl
  | none => simp [identifier, h]

/-- What stands before a window does not matter to the names with which it ends, if it goes on none.
-/
theorem endsWith_append_iff {front window name : Text} {place : Nat}
    (hfront : front.getLast?.any isNameChar = false) :
    EndsWith (front ++ window) (front.length + place) name ↔ EndsWith window place name := by
  constructor
  · rintro ⟨before, rest, htext, hplace, hname, hends⟩
    have hlength : front.length ≤ before.length := by omega
    obtain ⟨between, rfl⟩ : front <+: before :=
      List.prefix_of_prefix_length_le ⟨window, htext⟩ (List.prefix_append ..) hlength
    rw [List.append_assoc, List.append_cancel_left_eq] at htext
    rw [List.getLast?_append, identifier_or _ hfront] at hname
    rw [List.length_append, Nat.add_left_cancel_iff] at hplace
    exact ⟨between, rest, htext, hplace, hname, hends⟩
  · rintro ⟨between, rest, rfl, rfl, hname, hends⟩
    refine ⟨front ++ between, rest, (List.append_assoc ..).symm, List.length_append, ?_, hends⟩
    rw [List.getLast?_append, identifier_or _ hfront]
    exact hname

/-- A name that begins inside one that is read, behind a hyphen in it, ends with it. -/
theorem eq_append_of_inside {c d : Char} {more front name rest : Text}
    (hread : leadingName? (c :: (front ++ (name ++ rest))) = some (d :: more))
    (hname : leadingName? (name ++ rest) = some name) (hinside : front.length ≤ more.length) :
    more = front ++ name := by
  simp only [leadingName?] at hread
  split at hread
  · obtain ⟨_, hrun⟩ := List.cons.inj (Option.some.inj hread)
    obtain ⟨tail, rfl⟩ : front <+: more :=
      List.prefix_of_prefix_length_le (List.prefix_append ..) (hrun ▸ prefix_nameRun _) hinside
    rw [← nameRun_of_front hrun, nameRun_of_leadingName? hname]
  · cases hread

/-- Where a name can be read, one is read that begins there or before, and ends with it. -/
theorem exists_mem_occurrencesFrom_identifier {before : Option Char} {skip : Nat}
    {front name rest : Text} (hskip : skip ≤ front.length)
    (h : identifier (lastBefore before front) (name ++ rest) = some name) (start : Nat) :
    ∃ found ∈ occurrencesFrom start (piecesFrom identifier before skip (front ++ (name ++ rest))),
      found.start + skip ≤ start + front.length ∧ found.rest = rest := by
  induction front generalizing before skip start with
  | nil =>
      obtain rfl := Nat.le_zero.mp hskip
      have hfound : identifier before (name ++ rest) = some name := h
      rw [List.nil_append, piecesFrom_lexeme (ne_nil_of_identifier h) hfound]
      exact ⟨⟨start, name, rest⟩, List.mem_cons_self, Nat.le_refl _, rfl⟩
  | cons c front ih =>
      rw [lastBefore_cons] at h
      rw [List.cons_append, List.length_cons]
      cases skip with
      | succ skip =>
          obtain ⟨found, hmem, hstart, hrest⟩ := ih (Nat.le_of_succ_le_succ hskip) h start
          exact ⟨found, hmem, by omega, hrest⟩
      | zero =>
          cases hfound : identifier before (c :: (front ++ (name ++ rest))) with
          | none =>
              obtain ⟨found, hmem, hstart, hrest⟩ := ih (Nat.zero_le _) h (start + 1)
              rw [piecesFrom_plain hfound]
              exact ⟨found, hmem, by omega, hrest⟩
          | some lexeme =>
              obtain ⟨d, more, rfl⟩ := List.exists_cons_of_ne_nil (ne_nil_of_identifier hfound)
              simp only [piecesFrom, hfound, occurrencesFrom]
              by_cases hbehind : more.length ≤ front.length
              · obtain ⟨found, hmem, hstart, hrest⟩ := ih hbehind h (start + (d :: more).length)
                rw [List.length_cons] at hstart
                exact ⟨found, List.mem_cons_of_mem _ hmem, by omega, hrest⟩
              · have hmore : more = front ++ name := eq_append_of_inside
                  (leadingName?_of_identifier hfound) (leadingName?_of_identifier h) (by omega)
                refine ⟨_, List.mem_cons_self, Nat.le_add_right .., ?_⟩
                rw [hmore, ← List.append_assoc, List.drop_left]

/-- A shape takes nothing but its brackets from the text. -/
theorem isBracket_or_mem_dropShape {text : Text} {c : Char} (h : c ∈ text) :
    isBracket c = true ∨ c ∈ dropShape text := by
  fun_cases dropShape text <;> grind [isBracket, isOpener, isCloser]

/-- Nothing behind a name that ends a text is a letter. -/
theorem isAlpha_of_endsEndpoint {rest : Text} (h : endsEndpoint rest = true) {c : Char}
    (hc : c ∈ rest) : c.isAlpha = false := by
  rcases isBracket_or_mem_dropShape hc with hbracket | hbehind
  · simp only [isBracket, isOpener, isCloser, Bool.or_eq_true, decide_eq_true_eq] at hbracket
    rcases hbracket with ((rfl | rfl) | rfl) | ((rfl | rfl) | rfl) <;> rfl
  · exact isAlpha_of_isBlank (List.all_eq_true.mp h c hbehind)

/-- No name is read behind one that ends the text. -/
theorem not_le_start_of_endsEndpoint {text : Text} {found next : Occurrence}
    (hfound : found ∈ occurrences identifier text) (hends : endsEndpoint found.rest = true)
    (hnext : next ∈ occurrences identifier text) :
    ¬ found.start + found.text.length ≤ next.start := by
  intro hbehind
  obtain ⟨front, rfl, hstart, _⟩ := exists_of_mem_occurrences identifier_sound hfound
  obtain ⟨before, htext, hplace, _⟩ := exists_of_mem_occurrences identifier_sound hnext
  obtain ⟨c, run, hname, halpha, _⟩ := isName_iff.mp (isName_of_mem_occurrences hnext)
  have hlength : (front ++ found.text).length ≤ before.length := by
    rw [List.length_append]
    omega
  obtain ⟨between, rfl⟩ : front ++ found.text <+: before := by
    refine List.prefix_of_prefix_length_le (List.prefix_append _ found.rest) ?_ hlength
    exact ⟨next.text ++ next.rest, by rw [htext, List.append_assoc before]⟩
  have hrest : found.rest = between ++ (next.text ++ next.rest) := by simpa using htext
  rw [isAlpha_of_endsEndpoint hends (c := c) (by simp [hrest, hname])] at halpha
  cases halpha

/-- Only one of the names that are read from the front ends the text. -/
theorem lastEndpoint?_eq_some_iff {text : Text} {found : Occurrence} :
    lastEndpoint? text = some found ↔
      found ∈ occurrences identifier text ∧ endsEndpoint found.rest = true := by
  constructor
  · intro h
    obtain ⟨hends, front, back, hcut, _⟩ := List.find?_eq_some_iff_append.mp h
    exact ⟨by simp [hcut], hends⟩
  · rintro ⟨hmem, hends⟩
    obtain ⟨front, back, hcut⟩ := List.append_of_mem hmem
    have hordered := pairwise_occurrencesFrom 0 (pieces identifier text)
    rw [← occurrences, hcut, List.pairwise_append] at hordered
    refine List.find?_eq_some_iff_append.mpr ⟨hends, front, back, hcut, fun other hother => ?_⟩
    have hbefore := hordered.2.2 other hother found List.mem_cons_self
    cases hotherEnds : endsEndpoint other.rest with
    | false => rfl
    | true =>
        have hmemOther : other ∈ occurrences identifier text := by simp [hcut, hother]
        exact absurd hbefore (not_le_start_of_endsEndpoint hmemOther hotherEnds hmem)

/-- Where a text ends with a name, an endpoint is found there or before. -/
theorem EndsWith.exists_lastEndpoint? {text : Text} {place : Nat} {name : Text}
    (h : EndsWith text place name) :
    ∃ found, lastEndpoint? text = some found ∧ found.start ≤ place := by
  obtain ⟨front, rest, rfl, rfl, hname, hends⟩ := h
  have hbefore : identifier (lastBefore none front) (name ++ rest) = some name := by
    rwa [lastBefore, Option.or_none]
  obtain ⟨found, hmem, hstart, hrest⟩ :=
    exists_mem_occurrencesFrom_identifier (Nat.zero_le front.length) hbefore 0
  exact ⟨found, lastEndpoint?_eq_some_iff.mpr ⟨hmem, hrest ▸ hends⟩, by omega⟩

/-- With the endpoint that is found the text ends. -/
theorem endsWith_of_lastEndpoint? {text : Text} {found : Occurrence}
    (h : lastEndpoint? text = some found) : EndsWith text found.start found.text := by
  obtain ⟨hmem, hends⟩ := lastEndpoint?_eq_some_iff.mp h
  obtain ⟨front, htext, hstart, hname⟩ := exists_of_mem_occurrences identifier_sound hmem
  exact ⟨front, found.rest, by rw [htext, List.append_assoc], hstart.symm, hname, hends⟩

/-- **The endpoint before an arrow** is found by reading the names of the window alone, if the
character before the window goes on no name. -/
theorem endpointBefore_iff {text front window name : Text} {start stop place : Nat}
    (hwindow : text.take stop = front ++ window) (hstart : front.length = start)
    (hfront : front.getLast?.any isNameChar = false) :
    EndpointBefore text start stop place name ↔
      ∃ found, lastEndpoint? window = some found ∧ start + found.start = place ∧
        found.text = name := by
  subst hstart
  constructor
  · rintro ⟨hwithin, hends, hfirst⟩
    obtain ⟨inside, rfl⟩ := Nat.exists_eq_add_of_le hwithin
    rw [hwindow, endsWith_append_iff hfront] at hends
    obtain ⟨found, hfound, hle⟩ := hends.exists_lastEndpoint?
    have hfoundEnds := endsWith_of_lastEndpoint? hfound
    have hge : front.length + inside ≤ front.length + found.start := by
      refine hfirst _ found.text (Nat.le_add_right ..) ?_
      rw [hwindow, endsWith_append_iff hfront]
      exact hfoundEnds
    have hplace : found.start = inside := by omega
    rw [hplace] at hfoundEnds
    exact ⟨found, hfound, by omega, hfoundEnds.name_eq hends⟩
  · rintro ⟨found, hfound, rfl, rfl⟩
    have hfoundEnds := endsWith_of_lastEndpoint? hfound
    refine ⟨Nat.le_add_right .., ?_, fun other name hwithin hends => ?_⟩
    · rw [hwindow, endsWith_append_iff hfront]
      exact hfoundEnds
    · obtain ⟨inside, rfl⟩ := Nat.exists_eq_add_of_le hwithin
      rw [hwindow, endsWith_append_iff hfront] at hends
      obtain ⟨_, hother, hle⟩ := hends.exists_lastEndpoint?
      obtain rfl := Option.some.inj (hfound.symm.trans hother)
      exact Nat.add_le_add_left hle _

/-! ## The endpoint at the front of a text -/

/-- Behind the place where an arrow stops, blanks lead to the name at the place. -/
def EndpointAfter (text : Text) (stop place : Nat) (name : Text) : Prop :=
  ∃ front blanks rest, text = front ++ (blanks ++ (name ++ rest)) ∧ front.length = stop ∧
    Blanks blanks ∧ (front ++ blanks).length = place ∧
    identifier (front ++ blanks).getLast? (name ++ rest) = some name

/-- **The endpoint behind an arrow** is found by reading the text behind it alone, if the arrow
ends with a character that goes on no name. -/
theorem endpointAfter_iff {text front behind name : Text} {stop place : Nat}
    (htext : text = front ++ behind) (hstop : front.length = stop)
    (hfront : front.getLast?.any isNameChar = false) :
    EndpointAfter text stop place name ↔
      ∃ found, firstEndpoint? behind = some found ∧ stop + found.start = place ∧
        found.text = name := by
  subst htext hstop
  constructor
  · rintro ⟨before, blanks, rest, htext, hstop, hblanks, hplace, hname⟩
    obtain ⟨rfl, rfl⟩ := List.append_inj htext hstop.symm
    have hlead := leadingName?_of_identifier hname
    have hsolid := (isName_of_leadingName? hlead).solid rest
    refine ⟨⟨blanks.length, name, rest⟩, ?_, by rw [← hplace, List.length_append], rfl⟩
    rw [firstEndpoint?, hblanks.trimStart_append, hsolid.trimStart_eq, hlead,
      hblanks.indentOf_append hsolid]
    simp
  · rintro ⟨found, hfound, rfl, rfl⟩
    obtain ⟨name, hlead, rfl⟩ := Option.map_eq_some_iff.mp hfound
    obtain ⟨rest, hrest⟩ := prefix_of_leadingName? hlead
    refine ⟨front, indentOf behind, rest, ?_, rfl, indentOf_blanks behind, List.length_append, ?_⟩
    · rw [hrest, indentOf_append_trimStart]
    · have hblanks := (indentOf_blanks behind).lastBefore_eq
      rw [lastBefore, Option.or_none] at hblanks
      rw [hrest, List.getLast?_append, identifier_or _ hfront, identifier, hblanks]
      exact hlead

end Flowchart
